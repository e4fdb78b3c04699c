import RouteAtlas.Proofs.LiteralLetters

set_option autoImplicit false

namespace RouteAtlas.Literal

theorem leftover {Piece : Type} {first second shownRest statedRest : List Piece}
    (same : first ++ shownRest = second ++ statedRest) (longer : second.length < first.length) :
    ∃ next, next ≠ [] ∧ first = second ++ next ∧ next ++ shownRest = statedRest := by
  rcases List.append_eq_append_iff.mp same with ⟨more, split, -⟩ | ⟨next, split, behind⟩
  · have longest := congrArg List.length split
    rw [List.length_append] at longest
    omega
  · refine ⟨next, ?_, split, behind.symm⟩
    rintro rfl
    simp [split] at longer

section Ahead

variable {queue second shownRest statedRest : List Nat}

theorem stays_ahead {head : Nat} {tail : List Nat} (some : queue ≠ [])
    (apart : second.length ≤ tail.length + 1 ∨ head ∉ second.tail)
    (same : queue ++ (head :: tail ++ shownRest) = second ++ statedRest) :
    ∃ next, next ≠ [] ∧ next ++ shownRest = statedRest := by
  have positive : 0 < queue.length := List.length_pos_iff.mpr some
  rw [← List.append_assoc] at same
  by_cases longer : second.length < (queue ++ head :: tail).length
  · obtain ⟨next, more, -, behind⟩ := leftover same longer
    exact ⟨next, more, behind⟩
  · exfalso
    rw [List.length_append, List.length_cons] at longer
    -- The head has come to stand behind the first unit of what the other list was moved on by.
    have foreign := apart.resolve_left (by omega)
    rw [List.append_assoc] at same
    rcases List.append_eq_append_iff.mp same with ⟨more, rfl, behind⟩ | ⟨more, split, -⟩
    · cases more with
      | nil => simp at longer
      | cons unit more =>
        obtain ⟨rfl, -⟩ := List.cons.inj behind
        rw [List.tail_append_of_ne_nil some] at foreign
        simp at foreign
    · have shorter := congrArg List.length split
      rw [List.length_append] at shorter
      omega

end Ahead

def IsInert (point : CodePoint) : Prop :=
  point ≠ CodePoint.backslash ∧ point.isOctalDigit = false ∧ point ∉ (['b', 't', 'n', 'f', 'r', 's'] : Text)

/-- Behind a translated backslash stands an odd number of backslashes that are written as such, and then an inert letter:
the language takes the translated one with the first of them, and every other one in pairs with the next. -/
def Spent (behind : List Letter) : Prop :=
  ∃ pairs next rest, behind =
      List.replicate (2 * pairs + 1) (.written CodePoint.backslash) ++ .written next :: rest ∧ IsInert next

structure InStep (spelled : List Letter) : Prop where
  -- No translated backslash begins an escape that the reader would have to know.
  spent : ∀ before behind, spelled = before ++ .escaped CodePoint.backslash :: behind -> Spent behind
  -- An octal escape has for the reader the digits that it has for the language.
  octal : ∀ before behind, spelled = before ++ .written CodePoint.backslash :: behind ->
    closingRun Letter.isBackslash before % 2 = 0 ->
    (writtenOctal behind).length = (octalRun (behind.map Letter.point)).length

section InStep

theorem inStep_iff {spelled : List Letter} :
    InStep spelled ↔
      (∀ behind, .escaped CodePoint.backslash :: behind <:+ spelled -> Spent behind) ∧
      ∀ behind ∈ openings Letter.isBackslash false spelled,
        (writtenOctal behind).length = (octalRun (behind.map Letter.point)).length := by
  constructor
  · rintro ⟨spent, octal⟩
    refine ⟨?_, ?_⟩
    · rintro behind ⟨before, rfl⟩
      exact spent before behind rfl
    · intro behind member
      obtain ⟨before, piece, rfl, escapes, even⟩ := (mem_openings_iff _ _ _).mp member
      obtain rfl : piece = .written CodePoint.backslash := of_decide_eq_true escapes
      exact octal before behind rfl even
  · rintro ⟨spent, octal⟩
    refine ⟨?_, ?_⟩
    · rintro before behind rfl
      exact spent behind ⟨before, rfl⟩
    · rintro before behind rfl even
      exact octal behind ((mem_openings_iff _ _ _).mpr ⟨before, _, rfl, rfl, even⟩)

theorem inStep_nil : InStep [] := by
  rw [inStep_iff]
  simp [openings]

theorem inStep_other {letter : Letter} (plain : letter.isBackslash = false)
    (noEscape : letter ≠ .escaped CodePoint.backslash) (rest : List Letter) : InStep (letter :: rest) ↔ InStep rest := by
  rw [inStep_iff, inStep_iff, openings, if_neg (by simp [plain])]
  simp [List.suffix_cons_iff, Ne.symm noEscape]

theorem inStep_others (taken rest : List Letter)
    (plain : ∀ letter ∈ taken, letter.isBackslash = false ∧ letter ≠ .escaped CodePoint.backslash) :
    InStep (taken ++ rest) ↔ InStep rest := by
  induction taken with
  | nil => rfl
  | cons letter taken ih =>
    obtain ⟨first, others⟩ := List.forall_mem_cons.mp plain
    rw [List.cons_append, inStep_other first.1 first.2, ih others]

theorem inStep_escaped (rest : List Letter) :
    InStep (.escaped CodePoint.backslash :: rest) ↔ Spent rest ∧ InStep rest := by
  have plain : Letter.isBackslash (.escaped CodePoint.backslash) = false := rfl
  rw [inStep_iff, inStep_iff, openings, if_neg (by simp [plain])]
  simp only [List.suffix_cons_iff, List.cons.injEq, true_and, or_imp, forall_and, forall_eq, and_assoc]

theorem openings_written (next : Letter) (rest : List Letter) :
    openings Letter.isBackslash false (.written CodePoint.backslash :: next :: rest) =
      (next :: rest) :: openings Letter.isBackslash false rest := by
  rw [openings, if_pos (by rfl), openings, if_neg (by simp)]

theorem inStep_written {next : Letter} (noEscape : next ≠ .escaped CodePoint.backslash) (rest : List Letter) :
    InStep (.written CodePoint.backslash :: next :: rest) ↔
      (writtenOctal (next :: rest)).length = (octalRun ((next :: rest).map Letter.point)).length ∧ InStep rest := by
  have apart : Letter.escaped CodePoint.backslash ≠ .written CodePoint.backslash := by decide
  rw [inStep_iff, inStep_iff, openings_written, List.forall_mem_cons]
  simp only [List.suffix_cons_iff, List.cons.injEq, Ne.symm noEscape, apart, false_and, false_or]
  exact and_left_comm

end InStep

def IsDigitUnit (unit : Nat) : Prop :=
  0x30 ≤ unit ∧ unit ≤ 0x37

instance (unit : Nat) : Decidable (IsDigitUnit unit) :=
  inferInstanceAs (Decidable (_ ∧ _))

/-- What the reader writes, by its first unit and the others, and what the language says, where the two read something
differently: after it one of them is ahead of the other, the language by nothing but digits. -/
structure Diverges (head : Nat) (tail stated : List Nat) : Prop where
  noDigit : ¬ IsDigitUnit head
  apart : stated.length ≤ tail.length + 1 ∨ head ∉ stated.tail
  leads : ∀ shownRest statedRest, head :: tail ++ shownRest = stated ++ statedRest ->
    (∃ queue, queue ≠ [] ∧ queue ++ shownRest = statedRest) ∨
    ∃ queue, queue ≠ [] ∧ (∀ unit ∈ queue, IsDigitUnit unit) ∧ shownRest = queue ++ statedRest

/-- What the two read next in letters with a certain value, with what is left for both. -/
inductive Next : List Letter -> List Nat -> Prop
  | done : Next [] []
  | together {spelled rest : List Letter} {unit units : List Nat} (shorter : rest.length < spelled.length)
    (sound : Sound rest) (means : Means (rest.map Letter.point) units)
    (shows : (shown spelled).codeUnits = unit ++ (shown rest).codeUnits) (same : InStep spelled ↔ InStep rest) :
    Next spelled (unit ++ units)
  | apart {spelled rest : List Letter} {head : Nat} {tail stated units : List Nat} (shorter : rest.length < spelled.length)
    (sound : Sound rest) (means : Means (rest.map Letter.point) units)
    (shows : (shown spelled).codeUnits = head :: tail ++ (shown rest).codeUnits) (diverges : Diverges head tail stated)
    (out : ¬ InStep spelled) : Next spelled (stated ++ units)

section Diverges

variable {head : Nat} {tail stated : List Nat}

theorem diverges_longer (noDigit : ¬ IsDigitUnit head) (longer : stated.length ≤ tail.length) :
    Diverges head tail stated where
  noDigit := noDigit
  apart := .inl (by omega)
  leads := by
    intro shownRest statedRest same
    obtain ⟨queue, some, -, ahead⟩ := leftover same (by rw [List.length_cons]; omega)
    exact .inl ⟨queue, some, ahead⟩

theorem diverges_head {unit : Nat} {units : List Nat} (noDigit : ¬ IsDigitUnit head) (other : head ≠ unit)
    (apart : head ∉ units) : Diverges head tail (unit :: units) where
  noDigit := noDigit
  apart := .inr apart
  leads := fun _ _ same => absurd (List.cons.inj same).1 other

theorem diverges_second {second unit : Nat} {more : List Nat} (digits : ∀ digit ∈ more, IsDigitUnit digit)
    (digit : more ≠ [] -> IsDigitUnit unit) (other : more = [] -> second ≠ unit) :
    Diverges CodePoint.backslash.val [second] (CodePoint.backslash.val :: unit :: more) where
  noDigit := by decide
  apart := by
    cases more with
    | nil => exact .inl (Nat.le_refl 2)
    | cons next more =>
      right
      have all : ∀ digit ∈ unit :: next :: more, IsDigitUnit digit :=
        List.forall_mem_cons.mpr ⟨digit (by simp), digits⟩
      exact fun member => absurd (all _ member) (by decide)
  leads := by
    intro shownRest statedRest same
    obtain ⟨seconds, behind⟩ := List.cons.inj (List.cons.inj same).2
    cases more with
    | nil => exact absurd seconds (other rfl)
    | cons next more => exact .inr ⟨next :: more, by simp, digits, behind⟩

end Diverges

theorem sound_other {letter : Letter} (plain : letter.isBackslash = false) (rest : List Letter) :
    Sound (letter :: rest) ↔ Sound rest := by
  rw [Sound, Sound, openings, if_neg (by simp [plain])]

theorem sound_others (taken rest : List Letter) (plain : ∀ letter ∈ taken, letter.isBackslash = false) :
    Sound (taken ++ rest) ↔ Sound rest := by
  induction taken with
  | nil => rfl
  | cons letter taken ih =>
    obtain ⟨first, others⟩ := List.forall_mem_cons.mp plain
    rw [List.cons_append, sound_other first, ih others]

theorem sound_written (next : Letter) (rest : List Letter) :
    Sound (.written CodePoint.backslash :: next :: rest) ↔
      (next.translated = false ∧ next.point ≠ letterU) ∧ Sound rest := by
  rw [Sound, Sound, openings_written, List.forall_mem_cons]
  simp

theorem isBackslash_of_point {letter : Letter} (plain : letter.point ≠ CodePoint.backslash) :
    letter.isBackslash = false ∧ letter ≠ .escaped CodePoint.backslash := by
  refine ⟨decide_eq_false ?_, ?_⟩ <;> rintro rfl <;> exact plain rfl

theorem eq_written {letter : Letter} (untouched : letter.translated = false) : letter = .written letter.point := by
  cases letter
  exact congrArg _ untouched

theorem next_other {letter : Letter} {rest : List Letter} {units : List Nat} (plain : letter.point ≠ CodePoint.backslash)
    (sound : Sound (letter :: rest)) (means : Means (rest.map Letter.point) units) :
    Next (letter :: rest) (letter.point.codeUnits ++ units) := by
  obtain ⟨noBackslash, noEscape⟩ := isBackslash_of_point plain
  refine .together (by simp) ((sound_other noBackslash rest).mp sound) means ?_ (inStep_other noBackslash noEscape rest)
  rw [shown_other noBackslash, Text.codeUnits_cons]

theorem writtenOctal_of_not {next : Letter} (noDigit : next.isWrittenDigit = false) (rest : List Letter) :
    writtenOctal (next :: rest) = [] := by
  rw [writtenOctal, List.take_succ_cons, List.takeWhile_cons, if_neg (by simp [noDigit])]

theorem octalRun_of_not {point : CodePoint} (noDigit : point.isOctalDigit = false) (rest : Text) :
    octalRun (point :: rest) = [] := by
  rw [octalRun]
  split <;> rw [List.take_succ_cons, List.takeWhile_cons, if_neg (by simp [noDigit])]

theorem inStep_single {point : CodePoint} (noDigit : point.isOctalDigit = false) (rest : List Letter) :
    InStep (.written CodePoint.backslash :: .written point :: rest) ↔ InStep rest := by
  have noEscape : Letter.written point ≠ .escaped CodePoint.backslash := by simp [Letter.written, Letter.escaped]
  have none := writtenOctal_of_not (show (Letter.written point).isWrittenDigit = false from noDigit) rest
  rw [inStep_written noEscape, none, List.map_cons, octalRun_of_not (by simpa [Letter.written] using noDigit)]
  simp

theorem mem_of_lookup {table : List (CodePoint × CodePoint)} {point value : CodePoint}
    (known : table.lookup point = some value) : (point, value) ∈ table := by
  obtain ⟨before, after, rfl, -⟩ := List.lookup_eq_some_iff.mp known
  simp

theorem next_letter {point : CodePoint} {next : Letter} {rest : List Letter} {units : List Nat}
    (known : letterFor? point = some next.point) (sound : Sound (.written CodePoint.backslash :: next :: rest))
    (means : Means (rest.map Letter.point) units) :
    Next (.written CodePoint.backslash :: next :: rest) (point.codeUnits ++ units) := by
  obtain ⟨-, noDigit, back⟩ := letterEscapes_read_back _ (mem_of_lookup known)
  simp only at noDigit back
  obtain ⟨⟨untouched, -⟩, soundRest⟩ := (sound_written next rest).mp sound
  have shows := shown_single (show next.isWrittenDigit = false by simp [Letter.isWrittenDigit, noDigit]) rest
  rw [back, Option.getD_some] at shows
  refine .together (by simp only [List.length_cons]; omega) soundRest means (by rw [shows, Text.codeUnits_cons]) ?_
  rw [eq_written untouched]
  exact inStep_single noDigit rest

theorem writtenOctal_split (behind : List Letter) :
    ∃ after, behind = writtenOctal behind ++ after ∧ (writtenOctal behind).length ≤ 3 ∧
      ∀ letter ∈ writtenOctal behind, letter.point.isOctalDigit = true := by
  obtain ⟨after, split⟩ := run_begins Letter.isWrittenDigit 3 behind
  refine ⟨after, split.symm, length_run_le _ 3 behind, ?_⟩
  intro letter member
  have digit : letter.isWrittenDigit = true := List.mem_takeWhile_imp member
  simp only [Letter.isWrittenDigit, Bool.and_eq_true] at digit
  exact digit.2

theorem octalRun_split (behind : List Letter) :
    ∃ taken after, behind = taken ++ after ∧ taken.map Letter.point = octalRun (behind.map Letter.point) ∧
      ∀ letter ∈ taken, letter.point.isOctalDigit = true := by
  have taken : octalRun (behind.map Letter.point) <+: behind.map Letter.point := run_begins _ _ _
  obtain ⟨after, split⟩ := taken
  obtain ⟨taken, rest, rfl, same, -⟩ := List.map_eq_append_iff.mp split.symm
  refine ⟨taken, rest, rfl, same, fun letter member => ?_⟩
  have listed : letter.point ∈ octalRun ((taken ++ rest).map Letter.point) := by
    rw [← same]
    exact List.mem_map_of_mem member
  exact List.mem_takeWhile_imp listed

theorem octalRun_length (first : CodePoint) (digits after : Text)
    (octal : ∀ digit ∈ first :: digits, digit.isOctalDigit = true) :
    (octalRun (first :: digits ++ after)).length ≤ 3 ∧
    (first.val ≤ 0x33 -> min 3 (digits.length + 1) ≤ (octalRun (first :: digits ++ after)).length) ∧
    (0x33 < first.val -> (octalRun (first :: digits ++ after)).length ≤ 2 ∧
      min 2 (digits.length + 1) ≤ (octalRun (first :: digits ++ after)).length) := by
  have least (most : Nat) :
      min most (digits.length + 1) ≤
        (((first :: digits ++ after).take most).takeWhile CodePoint.isOctalDigit).length := by
    rw [List.take_append, List.takeWhile_append_of_pos fun digit member => octal digit (List.mem_of_mem_take member),
      List.length_append, List.length_take, List.length_cons]
    omega
  have most (count : Nat) := length_run_le CodePoint.isOctalDigit count (first :: digits ++ after)
  by_cases small : first.val ≤ 0x33
  · have run : octalRun (first :: digits ++ after) =
        ((first :: digits ++ after).take 3).takeWhile CodePoint.isOctalDigit := by
      simp [octalRun, small]
    rw [run]
    exact ⟨most 3, fun _ => least 3, fun large => absurd small (by omega)⟩
  · have run : octalRun (first :: digits ++ after) =
        ((first :: digits ++ after).take 2).takeWhile CodePoint.isOctalDigit := by
      simp [octalRun, small]
    rw [run]
    exact ⟨(most 2).trans (by omega), fun large => absurd large small, fun _ => ⟨most 2, least 2⟩⟩

theorem means_plain {point : CodePoint} {rest : Text} {units : List Nat} (plain : point ≠ CodePoint.backslash)
    (means : Means (point :: rest) units) : ∃ others, units = point.codeUnits ++ others ∧ Means rest others := by
  cases means with
  | plain itself others => exact ⟨_, rfl, others⟩
  | letter => exact absurd rfl plain
  | octal => exact absurd rfl plain

theorem means_digits {digits rest : Text} {units : List Nat} (octal : ∀ digit ∈ digits, digit.isOctalDigit = true)
    (means : Means (digits ++ rest) units) : ∃ others, units = digits.map Fin.val ++ others ∧ Means rest others := by
  induction digits generalizing units with
  | nil => exact ⟨units, rfl, means⟩
  | cons digit digits ih =>
    obtain ⟨first, later⟩ := List.forall_mem_cons.mp octal
    obtain ⟨others, rfl, behind⟩ := means_plain (ne_backslash_of_isOctalDigit first) means
    obtain ⟨last, rfl, meansLast⟩ := ih later behind
    exact ⟨last, by rw [CodePoint.codeUnits_octal first]; rfl, meansLast⟩

theorem codeUnits_octalValue {digits : Text} (octal : ∀ digit ∈ digits, digit.isOctalDigit = true)
    (short : digits.length ≤ 3) :
    (CodePoint.ofNat (Text.octalValue digits)).codeUnits = [Text.octalValue digits] := by
  have small := Text.octalValue_lt digits octal
  have most : 8 ^ digits.length ≤ 8 ^ 3 := Nat.pow_le_pow_right (by decide) short
  have value := CodePoint.val_ofNat (Text.octalValue digits) (by omega)
  rw [CodePoint.codeUnits_of_lt (by omega), value]

theorem val_octal {point : CodePoint} (octal : point.isOctalDigit = true) : 0x30 ≤ point.val ∧ point.val ≤ 0x37 := by
  simpa [CodePoint.isOctalDigit] using octal

theorem plain_of_octal {taken : List Letter} (octal : ∀ letter ∈ taken, letter.point.isOctalDigit = true) :
    ∀ letter ∈ taken, letter.isBackslash = false ∧ letter ≠ .escaped CodePoint.backslash :=
  fun letter member => isBackslash_of_point (ne_backslash_of_isOctalDigit (octal letter member))

theorem written_octal {next : Letter} {rest : List Letter} (sound : Sound (.written CodePoint.backslash :: next :: rest))
    (digit : next.point.isOctalDigit = true) :
    ∃ digits after, rest = digits ++ after ∧ digits.length ≤ 2 ∧
      (∀ letter ∈ next :: digits, letter.point.isOctalDigit = true) ∧ Sound after ∧
      (shown (.written CodePoint.backslash :: next :: rest)).codeUnits =
        Text.octalValue ((next :: digits).map Letter.point) :: (shown after).codeUnits ∧
      (InStep (.written CodePoint.backslash :: next :: rest) ↔
        digits.length + 1 = (octalRun ((next :: rest).map Letter.point)).length ∧ InStep after) := by
  obtain ⟨⟨untouched, -⟩, soundRest⟩ := (sound_written next rest).mp sound
  have written : next.isWrittenDigit = true := by simp [Letter.isWrittenDigit, untouched, digit]
  have noEscape : next ≠ .escaped CodePoint.backslash := (isBackslash_of_point (ne_backslash_of_isOctalDigit digit)).2
  obtain ⟨digits, begins⟩ : ∃ digits, writtenOctal (next :: rest) = next :: digits := by
    rw [writtenOctal, List.take_succ_cons, List.takeWhile_cons, if_pos written]
    exact ⟨_, rfl⟩
  obtain ⟨after, split, short, octal⟩ := writtenOctal_split (next :: rest)
  rw [begins] at split short octal
  obtain rfl : rest = digits ++ after := (List.cons.inj split).2
  have plain := plain_of_octal (List.forall_mem_cons.mp octal).2
  have shows := shown_octal written (digits ++ after)
  have inStep := inStep_written noEscape (digits ++ after)
  rw [begins, split, List.drop_left] at shows
  rw [begins, inStep_others digits after plain] at inStep
  rw [List.length_cons] at short
  refine ⟨digits, after, rfl, by omega, octal, ?_, ?_, inStep⟩
  · exact (sound_others digits after fun letter member => (plain letter member).1).mp soundRest
  · refine (congrArg Text.codeUnits shows).trans ?_
    have three : ((next :: digits).map Letter.point).length ≤ 3 := by
      rw [List.length_map, List.length_cons]
      omega
    rw [Text.codeUnits_cons, codeUnits_octalValue (by simpa using octal) three]
    rfl

theorem diverges_overlong {first second third : CodePoint}
    (octal : ∀ digit ∈ [first, second, third], digit.isOctalDigit = true) (large : 0x33 < first.val) :
    Diverges (Text.octalValue [first, second, third]) [] [Text.octalValue [first, second], third.val] := by
  simp only [List.mem_cons, List.not_mem_nil, or_false, forall_eq_or_imp, forall_eq] at octal
  have secondDigit := val_octal octal.2.1
  have thirdDigit := val_octal octal.2.2
  refine diverges_head ?_ ?_ ?_
  all_goals
    simp only [Text.octalValue, IsDigitUnit, List.foldl_cons, List.foldl_nil, List.mem_singleton]
    omega

theorem diverges_continued {first : CodePoint} {digits extra : Text} (value : Nat)
    (octal : ∀ digit ∈ first :: digits, digit.isOctalDigit = true) (some : extra ≠ [])
    (short : digits.length + extra.length ≤ 2) (small : digits ≠ [] -> first.val ≤ 0x33) :
    Diverges (Text.octalValue (first :: digits)) (extra.map Fin.val) [value] := by
  have more : 1 ≤ extra.length := List.length_pos_iff.mpr some
  obtain ⟨firstOctal, others⟩ := List.forall_mem_cons.mp octal
  have firstDigit := val_octal firstOctal
  refine diverges_longer ?_ (by rw [List.length_map]; exact more)
  match digits, short with
  | [], _ =>
    simp only [Text.octalValue, IsDigitUnit, List.foldl_cons, List.foldl_nil]
    omega
  | [second], _ =>
    have secondDigit := val_octal (others second (by simp))
    have fewer := small (by simp)
    simp only [Text.octalValue, IsDigitUnit, List.foldl_cons, List.foldl_nil]
    omega
  | _ :: _ :: _, long =>
    simp only [List.length_cons] at long
    omega

theorem next_octal {next : Letter} {rest : List Letter} {units : List Nat}
    (sound : Sound (.written CodePoint.backslash :: next :: rest)) (digit : next.point.isOctalDigit = true)
    (means : Means (((next :: rest).map Letter.point).drop (octalRun ((next :: rest).map Letter.point)).length) units) :
    Next (.written CodePoint.backslash :: next :: rest)
      (Text.octalValue (octalRun ((next :: rest).map Letter.point)) :: units) := by
  obtain ⟨digits, after, rfl, short, octal, soundAfter, shows, inStep⟩ := written_octal sound digit
  obtain ⟨taken, left, split, same, octalTaken⟩ := octalRun_split (next :: (digits ++ after))
  have octalPoints : ∀ digit ∈ (next :: digits).map Letter.point, digit.isOctalDigit = true := by simpa using octal
  have bounds := octalRun_length next.point (digits.map Letter.point) (after.map Letter.point) octalPoints
  rw [← List.map_cons, ← List.map_append, List.cons_append, ← same, List.length_map, List.length_map] at bounds
  rw [← same, List.length_map, ← List.map_drop, split, List.drop_left] at means
  rw [← same, List.length_map] at inStep
  rw [← same]
  rw [← List.cons_append] at split
  rcases Nat.lt_trichotomy taken.length (digits.length + 1) with fewer | equal | more
  · -- The reader takes a third digit, although the first is large.
    obtain ⟨second, third, rfl⟩ : ∃ second third, digits = [second, third] := List.length_eq_two.mp (by omega)
    obtain ⟨one, two, rfl⟩ : ∃ one two, taken = [one, two] := by
      simp only [List.length_cons, List.length_nil] at bounds fewer
      exact List.length_eq_two.mp (by omega)
    obtain ⟨rfl, rfl, rfl⟩ : next = one ∧ second = two ∧ third :: after = left := by simpa using split
    have thirdOctal : third.point.isOctalDigit = true := octal third (by simp)
    obtain ⟨rest, rfl, meansAfter⟩ := means_plain (ne_backslash_of_isOctalDigit thirdOctal) means
    rw [CodePoint.codeUnits_octal thirdOctal]
    have large : 0x33 < next.point.val := by
      simp only [List.length_cons, List.length_nil] at bounds
      omega
    exact .apart (by simp only [List.length_cons, List.length_append]; omega) soundAfter meansAfter shows
      (diverges_overlong octalPoints large) (by rw [inStep]; simp)
  · obtain ⟨rfl, rfl⟩ := List.append_inj split equal.symm
    have both : InStep (.written CodePoint.backslash :: next :: (digits ++ after)) ↔ InStep after := by
      simpa using inStep
    change Next _ ([Text.octalValue ((next :: digits).map Letter.point)] ++ units)
    exact .together (by simp only [List.length_cons, List.length_append]; omega) soundAfter means shows both
  · -- The language takes digits that were translated, which the reader writes as they are.
    obtain ⟨extra, some, rfl, rfl⟩ := leftover split.symm more
    have octalExtra := fun letter member => octalTaken letter (List.mem_append_right _ member)
    have extraPoints : ∀ digit ∈ extra.map Letter.point, digit.isOctalDigit = true := by simpa using octalExtra
    have plain := fun letter member => (plain_of_octal octalExtra letter member).1
    rw [shown_others extra left plain, Text.codeUnits_append, Text.codeUnits_octal extraPoints] at shows
    simp only [List.length_append, List.length_cons, List.cons_append] at bounds more inStep
    have fewer : (digits.map Letter.point).length + (extra.map Letter.point).length ≤ 2 := by
      rw [List.length_map, List.length_map]
      omega
    have small : digits.map Letter.point ≠ [] -> next.point.val ≤ 0x33 := by
      intro second
      have positive := List.length_pos_iff.mpr second
      rw [List.length_map] at positive
      omega
    have diverges := diverges_continued (Text.octalValue ((next :: digits ++ extra).map Letter.point)) octalPoints
      (by simpa using some) fewer small
    exact .apart (by simp only [List.length_cons, List.length_append]; omega)
      ((sound_others extra left plain).mp soundAfter) means shows diverges (by rw [inStep]; omega)

theorem head_of_spent {behind : List Letter} (spent : Spent behind) : behind.head? = some (.written CodePoint.backslash) := by
  obtain ⟨pairs, next, rest, rfl, -⟩ := spent
  rfl

theorem spent_pair (behind : List Letter) :
    Spent (.written CodePoint.backslash :: .written CodePoint.backslash :: behind) ↔ Spent behind := by
  constructor
  · rintro ⟨pairs, next, rest, split, inert⟩
    cases pairs with
    | zero =>
      obtain ⟨same, -⟩ := List.cons.inj (List.cons.inj split).2
      exact absurd (congrArg Letter.point same).symm inert.1
    | succ pairs =>
      exact ⟨pairs, next, rest, (List.cons.inj (List.cons.inj split).2).2, inert⟩
  · rintro ⟨pairs, next, rest, rfl, inert⟩
    exact ⟨pairs + 1, next, rest, rfl, inert⟩

theorem spent_single {point : CodePoint} (plain : point ≠ CodePoint.backslash) (behind : List Letter) :
    Spent (.written CodePoint.backslash :: .written point :: behind) ↔ IsInert point := by
  constructor
  · rintro ⟨pairs, next, rest, split, inert⟩
    cases pairs with
    | zero =>
      obtain ⟨same, -⟩ := List.cons.inj (List.cons.inj split).2
      obtain rfl : point = next := congrArg Letter.point same
      exact inert
    | succ pairs =>
      obtain ⟨same, -⟩ := List.cons.inj (List.cons.inj split).2
      exact absurd (congrArg Letter.point same) plain
  · exact fun inert => ⟨0, point, behind, rfl, inert⟩

theorem shown_escaped (rest : List Letter) :
    (shown (.escaped CodePoint.backslash :: rest)).codeUnits = CodePoint.backslash.val :: (shown rest).codeUnits := by
  rw [shown_other rfl, Text.codeUnits_cons]
  rfl

theorem inert_itself {point : CodePoint} (inert : IsInert point) : (letters.lookup point).getD point = point := by
  obtain ⟨noBackslash, -, noLetter⟩ := inert
  cases known : letters.lookup point with
  | none => rfl
  | some value =>
    have table : letters.all (fun entry => decide (entry.1 = CodePoint.backslash ∨
        entry.1 ∈ (['b', 't', 'n', 'f', 'r', 's'] : Text) ∨ entry.2 = entry.1)) = true := by decide
    have entry := of_decide_eq_true (List.all_eq_true.mp table _ (mem_of_lookup known))
    exact (entry.resolve_left noBackslash).resolve_left noLetter

theorem not_itself {point : CodePoint} (meaning : point ∈ (['b', 't', 'n', 'f', 'r', 's'] : Text)) :
    ((letters.lookup point).getD point).codeUnits = [((letters.lookup point).getD point).val] ∧
      point.codeUnits = [point.val] ∧ ((letters.lookup point).getD point).val ≠ point.val := by
  have table : (['b', 't', 'n', 'f', 'r', 's'] : Text).all (fun point => decide (
      ((letters.lookup point).getD point).codeUnits = [((letters.lookup point).getD point).val] ∧
      point.codeUnits = [point.val] ∧ ((letters.lookup point).getD point).val ≠ point.val)) = true := by decide
  exact of_decide_eq_true (List.all_eq_true.mp table point meaning)

theorem length_letterEscape {point letter : CodePoint} (known : letterFor? point = some letter) :
    point.codeUnits.length = 1 := by
  have table : letterEscapes.all (fun entry => decide (entry.1.codeUnits.length = 1)) = true := by decide
  exact of_decide_eq_true (List.all_eq_true.mp table _ (mem_of_lookup known))

theorem backslash_of_letterFor? {point : CodePoint} (known : letterFor? point = some CodePoint.backslash) :
    point = CodePoint.backslash := by
  obtain ⟨-, -, back⟩ := letterEscapes_read_back _ (mem_of_lookup known)
  exact (Option.some.inj back).symm

theorem length_codeUnits_pos (point : CodePoint) : 1 ≤ point.codeUnits.length := by
  rw [CodePoint.codeUnits]
  split <;> simp

theorem next_escaped_octal {behind : List Letter} {units : List Nat} (sound : Sound (.escaped CodePoint.backslash :: behind))
    (digit : (behind.map Letter.point).head?.any CodePoint.isOctalDigit = true)
    (means : Means ((behind.map Letter.point).drop (octalRun (behind.map Letter.point)).length) units) :
    Next (.escaped CodePoint.backslash :: behind) (Text.octalValue (octalRun (behind.map Letter.point)) :: units) := by
  obtain ⟨taken, left, split, same, octal⟩ := octalRun_split behind
  have plain := fun letter member => (plain_of_octal octal letter member).1
  rw [← same, List.length_map, ← List.map_drop, split, List.drop_left] at means
  rw [← same]
  have some : 1 ≤ taken.length := by
    have length := congrArg List.length same
    cases behind with
    | nil => simp at digit
    | cons first rest =>
      have first_digit : first.point.isOctalDigit = true := by simpa using digit
      have bounds := octalRun_length first.point [] (rest.map Letter.point) (by simpa using first_digit)
      rw [List.length_map] at length
      simp only [List.cons_append, List.nil_append, ← List.map_cons] at bounds
      rw [← length] at bounds
      simp only [List.length_nil] at bounds
      omega
  have shows : (shown (.escaped CodePoint.backslash :: behind)).codeUnits =
      CodePoint.backslash.val :: taken.map (fun letter => letter.point.val) ++ (shown left).codeUnits := by
    rw [shown_escaped, split, shown_others taken left plain, Text.codeUnits_append,
      Text.codeUnits_octal (by simpa using octal), List.map_map, List.cons_append]
    rfl
  change Next _ ([Text.octalValue (taken.map Letter.point)] ++ units)
  refine .apart (by rw [split, List.length_cons, List.length_append]; omega) ?_ means shows
    (diverges_longer (by decide) (by simpa using some)) ?_
  · rw [sound_other rfl, split, sound_others taken left plain] at sound
    exact sound
  · rw [inStep_escaped]
    rintro ⟨spent, -⟩
    have head := head_of_spent spent
    rw [split] at head
    cases taken with
    | nil => simp at some
    | cons first taken =>
      obtain rfl : first = .written CodePoint.backslash := Option.some.inj head
      exact absurd (octal _ List.mem_cons_self) (by decide)

theorem next_escaped_letter {point : CodePoint} {next : Letter} {rest : List Letter} {units : List Nat}
    (known : letterFor? point = some next.point) (other : next.isBackslash = false)
    (sound : Sound (.escaped CodePoint.backslash :: next :: rest)) (means : Means (rest.map Letter.point) units) :
    Next (.escaped CodePoint.backslash :: next :: rest) (point.codeUnits ++ units) := by
  have shows : (shown (.escaped CodePoint.backslash :: next :: rest)).codeUnits =
      CodePoint.backslash.val :: next.point.codeUnits ++ (shown rest).codeUnits := by
    rw [shown_escaped, shown_other other, Text.codeUnits_cons, List.cons_append]
  refine .apart (by simp only [List.length_cons]; omega) ?_ means shows (diverges_longer (by decide) ?_) ?_
  · rw [sound_other rfl, sound_other other] at sound
    exact sound
  · rw [length_letterEscape known]
    exact length_codeUnits_pos next.point
  · rw [inStep_escaped]
    rintro ⟨spent, -⟩
    have head := Option.some.inj (head_of_spent spent)
    rw [head] at other
    exact absurd other (by decide)

theorem next_escaped_end :
    Next [.escaped CodePoint.backslash, .written CodePoint.backslash] CodePoint.backslash.codeUnits := by
  have shows : (shown [.escaped CodePoint.backslash, .written CodePoint.backslash]).codeUnits =
      CodePoint.backslash.val :: [CodePoint.backslash.val] ++ (shown []).codeUnits := by
    rw [shown_escaped, shown_end, shown.eq_def]
    rfl
  have sound : Sound [] := by simp [Sound, openings]
  have diverges : Diverges CodePoint.backslash.val [CodePoint.backslash.val] CodePoint.backslash.codeUnits :=
    diverges_longer (by decide) (by decide)
  rw [← List.append_nil CodePoint.backslash.codeUnits]
  refine .apart (by simp) sound .nil shows diverges ?_
  · rw [inStep_escaped]
    rintro ⟨⟨pairs, next, rest, split, -⟩, -⟩
    have length := congrArg List.length split
    simp at length
    omega

theorem next_escaped_pair {rest : List Letter} {units : List Nat}
    (sound : Sound (.escaped CodePoint.backslash :: .written CodePoint.backslash :: .written CodePoint.backslash :: rest))
    (means : Means (CodePoint.backslash :: rest.map Letter.point) units) :
    Next (.escaped CodePoint.backslash :: .written CodePoint.backslash :: .written CodePoint.backslash :: rest)
      (CodePoint.backslash.codeUnits ++ units) := by
  -- For the language the translated backslash goes with the first of the two, and the second begins its next escape;
  -- the reader is where it would be without the two.
  have shows : (shown (.escaped CodePoint.backslash :: .written CodePoint.backslash ::
      .written CodePoint.backslash :: rest)).codeUnits =
      CodePoint.backslash.codeUnits ++ (shown (.escaped CodePoint.backslash :: rest)).codeUnits := by
    rw [shown_escaped, shown_escaped, shown_single rfl, Text.codeUnits_cons]
    rfl
  rw [sound_other rfl, sound_written] at sound
  have meansAgain : Means ((Letter.escaped CodePoint.backslash :: rest).map Letter.point) units := means
  refine .together (by simp) ((sound_other rfl rest).mpr sound.2) meansAgain shows ?_
  rw [inStep_escaped, inStep_escaped, spent_pair, inStep_single (by decide)]

theorem next_escaped_digit {point : CodePoint} {rest : List Letter} {units : List Nat}
    (digit : point.isOctalDigit = true)
    (sound : Sound (.escaped CodePoint.backslash :: .written CodePoint.backslash :: .written point :: rest))
    (means : Means (point :: rest.map Letter.point) units) :
    Next (.escaped CodePoint.backslash :: .written CodePoint.backslash :: .written point :: rest)
      (CodePoint.backslash.codeUnits ++ units) := by
  rw [sound_other rfl] at sound
  obtain ⟨digits, after, rfl, -, octal, soundAfter, shows, -⟩ := written_octal sound digit
  have octalPoints : ∀ digit ∈ point :: digits.map Letter.point, digit.isOctalDigit = true := by
    simpa [Letter.written] using octal
  have digitUnits : ∀ unit ∈ (point :: digits.map Letter.point).map Fin.val, IsDigitUnit unit :=
    List.forall_mem_map.mpr fun digit member => val_octal (octalPoints digit member)
  obtain ⟨first, more⟩ := List.forall_mem_cons.mp digitUnits
  rw [List.map_append, ← List.cons_append] at means
  obtain ⟨others, rfl, meansAfter⟩ := means_digits octalPoints means
  have showsAll : (shown (.escaped CodePoint.backslash :: .written CodePoint.backslash :: .written point ::
      (digits ++ after))).codeUnits =
      CodePoint.backslash.val :: [Text.octalValue (point :: digits.map Letter.point)] ++ (shown after).codeUnits := by
    rw [shown_escaped, shows]
    rfl
  have diverges : Diverges CodePoint.backslash.val [Text.octalValue (point :: digits.map Letter.point)]
      (CodePoint.backslash.val :: point.val :: (digits.map Letter.point).map Fin.val) := by
    refine diverges_second more (fun _ => first) fun single => ?_
    rw [List.map_eq_nil_iff.mp single]
    simp only [IsDigitUnit, Text.octalValue, List.foldl_cons, List.foldl_nil] at first ⊢
    omega
  rw [← List.append_assoc]
  refine .apart (by simp only [List.length_cons, List.length_append]; omega) soundAfter meansAfter showsAll diverges ?_
  rw [inStep_escaped, spent_single (ne_backslash_of_isOctalDigit digit)]
  exact fun both => absurd both.1.2.1 (by simp [digit])

theorem next_escaped_single {point : CodePoint} {rest : List Letter} {units : List Nat}
    (plain : point ≠ CodePoint.backslash) (noDigit : point.isOctalDigit = false)
    (sound : Sound (.escaped CodePoint.backslash :: .written CodePoint.backslash :: .written point :: rest))
    (means : Means (point :: rest.map Letter.point) units) :
    Next (.escaped CodePoint.backslash :: .written CodePoint.backslash :: .written point :: rest)
      (CodePoint.backslash.codeUnits ++ units) := by
  rw [sound_other rfl] at sound
  obtain ⟨-, soundRest⟩ := (sound_written _ _).mp sound
  obtain ⟨others, rfl, meansRest⟩ := means_plain plain means
  have shows : (shown (.escaped CodePoint.backslash :: .written CodePoint.backslash :: .written point :: rest)).codeUnits =
      CodePoint.backslash.val :: ((letters.lookup point).getD point).codeUnits ++ (shown rest).codeUnits := by
    rw [shown_escaped, shown_single (show (Letter.written point).isWrittenDigit = false from noDigit), Text.codeUnits_cons]
    rfl
  have inStep := inStep_escaped (.written CodePoint.backslash :: .written point :: rest)
  rw [spent_single plain, inStep_single noDigit] at inStep
  rw [← List.append_assoc]
  by_cases inert : IsInert point
  · rw [inert_itself inert] at shows
    exact .together (by simp only [List.length_cons]; omega) soundRest meansRest shows (by simpa [inert] using inStep)
  · have meaning : point ∈ (['b', 't', 'n', 'f', 'r', 's'] : Text) :=
      Decidable.byContradiction fun absent => inert ⟨plain, noDigit, absent⟩
    obtain ⟨units, itself, other⟩ := not_itself meaning
    rw [units] at shows
    rw [itself]
    have diverges : Diverges CodePoint.backslash.val [((letters.lookup point).getD point).val]
        [CodePoint.backslash.val, point.val] := diverges_second (by simp) (by simp) fun _ => other
    exact .apart (by simp only [List.length_cons]; omega) soundRest meansRest shows diverges
      (by rw [inStep]; exact fun both => inert both.1)

theorem means_backslash {rest : Text} {units : List Nat} (means : Means (CodePoint.backslash :: rest) units) :
    (∃ letter point tail others, rest = letter :: tail ∧ letterFor? point = some letter ∧
      units = point.codeUnits ++ others ∧ Means tail others) ∨
    (rest.head?.any CodePoint.isOctalDigit = true ∧
      ∃ others, units = Text.octalValue (octalRun rest) :: others ∧ Means (rest.drop (octalRun rest).length) others) := by
  cases means with
  | plain itself => simp at itself
  | letter known others => exact .inl ⟨_, _, _, _, rfl, known, rfl, others⟩
  | octal digit others => exact .inr ⟨digit, _, rfl, others⟩

theorem next_escaped {rest : List Letter} {units : List Nat} (sound : Sound (.escaped CodePoint.backslash :: rest))
    (means : Means (CodePoint.backslash :: rest.map Letter.point) units) :
    Next (.escaped CodePoint.backslash :: rest) units := by
  rcases means_backslash means with
    ⟨letter, point, tail, others, split, known, rfl, behind⟩ | ⟨digit, others, rfl, behind⟩
  · obtain ⟨next, rest, rfl, rfl, rfl⟩ := List.map_eq_cons_iff.mp split
    cases backslash : next.isBackslash with
    | false => exact next_escaped_letter known backslash sound behind
    | true =>
      obtain rfl : next = .written CodePoint.backslash := of_decide_eq_true backslash
      obtain rfl := backslash_of_letterFor? known
      cases rest with
      | nil =>
        cases behind
        rw [List.append_nil]
        exact next_escaped_end
      | cons letter rest =>
        have untouched := ((sound_written letter rest).mp ((sound_other rfl _).mp sound)).1.1
        rw [eq_written untouched] at sound ⊢
        by_cases plain : letter.point = CodePoint.backslash
        · rw [plain] at sound ⊢
          rw [List.map_cons, plain] at behind
          exact next_escaped_pair sound behind
        · cases digit : letter.point.isOctalDigit with
          | true => exact next_escaped_digit digit sound behind
          | false => exact next_escaped_single plain digit sound behind
  · exact next_escaped_octal sound digit behind

theorem next_of_means {spelled : List Letter} {units : List Nat} (sound : Sound spelled)
    (means : Means (spelled.map Letter.point) units) : Next spelled units := by
  cases spelled with
  | nil =>
    cases means
    exact .done
  | cons letter rest =>
    by_cases plain : letter.point = CodePoint.backslash
    · rw [List.map_cons, plain] at means
      cases translated : letter.translated with
      | true =>
        obtain rfl : letter = .escaped CodePoint.backslash := by
          cases letter
          simp_all [Letter.escaped]
        exact next_escaped sound means
      | false =>
        obtain rfl : letter = .written CodePoint.backslash := plain ▸ eq_written translated
        rcases means_backslash means with
          ⟨letter, point, tail, others, split, known, rfl, behind⟩ | ⟨digit, others, rfl, behind⟩
        · obtain ⟨next, rest, rfl, rfl, rfl⟩ := List.map_eq_cons_iff.mp split
          exact next_letter known sound behind
        · cases rest with
          | nil => simp at digit
          | cons next rest => exact next_octal sound (by simpa using digit) behind
    · obtain ⟨others, rfl, behind⟩ := means_plain plain means
      exact next_other plain sound behind

end RouteAtlas.Literal

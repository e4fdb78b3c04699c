import RouteAtlas.Proofs.CutEscapes
import RouteAtlas.Proofs.LiteralSpelling

/-!
String literals as the language defines them, and what the reader makes of them.

The language translates Unicode escapes first, into letters (`Translates`), and then reads the escapes among these letters
(`Means`). The reader does both at once. What it makes of a text can still be told from the letters, if each of them is
marked with whether it was translated (`unescape_of_translates`): a letter that was translated stands for itself.
-/

set_option autoImplicit false

namespace RouteAtlas

namespace CodePoint

def codeUnits (point : CodePoint) : List Nat :=
  if point.val < 0x10000 then [point.val]
  else [0xD800 + (point.val - 0x10000) / 0x400, 0xDC00 + (point.val - 0x10000) % 0x400]

theorem codeUnits_of_lt {point : CodePoint} (small : point.val < 0x10000) : point.codeUnits = [point.val] :=
  if_pos small

theorem codeUnits_octal {point : CodePoint} (octal : point.isOctalDigit = true) : point.codeUnits = [point.val] := by
  simp only [isOctalDigit, Bool.and_eq_true, decide_eq_true_eq] at octal
  exact codeUnits_of_lt (by omega)

end CodePoint

namespace Text

def codeUnits (text : Text) : List Nat :=
  text.flatMap CodePoint.codeUnits

theorem codeUnits_cons (point : CodePoint) (text : Text) :
    codeUnits (point :: text) = point.codeUnits ++ codeUnits text :=
  List.flatMap_cons

theorem codeUnits_append (first second : Text) : codeUnits (first ++ second) = codeUnits first ++ codeUnits second :=
  List.flatMap_append

theorem codeUnits_octal {digits : Text} (octal : ∀ digit ∈ digits, digit.isOctalDigit = true) :
    digits.codeUnits = digits.map Fin.val := by
  induction digits with
  | nil => rfl
  | cons digit rest ih =>
    obtain ⟨first, others⟩ := List.forall_mem_cons.mp octal
    rw [codeUnits_cons, CodePoint.codeUnits_octal first, ih others]
    rfl

end Text

namespace Literal

/-- A character after Unicode escapes have been translated, with whether it was one of them. -/
structure Letter where
  point : CodePoint
  translated : Bool
deriving DecidableEq, Repr

namespace Letter

def written (point : CodePoint) : Letter :=
  { point := point, translated := false }

def escaped (point : CodePoint) : Letter :=
  { point := point, translated := true }

def isBackslash (letter : Letter) : Bool :=
  letter = written CodePoint.backslash

def isWrittenDigit (letter : Letter) : Bool :=
  !letter.translated && letter.point.isOctalDigit

@[simp]
theorem isBackslash_escaped (point : CodePoint) : (escaped point).isBackslash = false := by
  simp [isBackslash, escaped, written]

@[simp]
theorem isBackslash_written (point : CodePoint) : (written point).isBackslash = decide (point = CodePoint.backslash) := by
  simp [isBackslash, written]

@[simp]
theorem isWrittenDigit_escaped (point : CodePoint) : (escaped point).isWrittenDigit = false :=
  rfl

@[simp]
theorem isWrittenDigit_written (point : CodePoint) : (written point).isWrittenDigit = point.isOctalDigit :=
  rfl

end Letter

/-- The letters of a text that stands behind a number of backslashes. A backslash begins a Unicode escape if the number of
those immediately before it is even and a `u` follows, and there must be four digits then. -/
inductive Translates : Nat -> Text -> List Letter -> Prop
  | nil {before : Nat} : Translates before [] []
  | escape {before more number : Nat} {digits rest behind : Text} {letters : List Letter} (even : before % 2 = 0)
    (four : digits.length = 4) (read : Text.fourHexDigits? digits = some number)
    (marked : behind = unicodeMarks more ++ digits ++ rest) (others : Translates 0 rest letters) :
    Translates before (CodePoint.backslash :: behind) (.escaped (CodePoint.ofNat number) :: letters)
  | backslash {before : Nat} {rest : Text} {letters : List Letter}
    (unmarked : before % 2 = 0 -> rest.head? ≠ some letterU) (others : Translates (before + 1) rest letters) :
    Translates before (CodePoint.backslash :: rest) (.written CodePoint.backslash :: letters)
  | other {before : Nat} {point : CodePoint} {rest : Text} {letters : List Letter}
    (plain : point ≠ CodePoint.backslash) (others : Translates 0 rest letters) :
    Translates before (point :: rest) (.written point :: letters)

/-- The digits of an octal escape: as many as there are, up to three if the first is at most 3, and up to two else. -/
def octalRun (behind : Text) : Text :=
  (behind.take (if behind.head?.any fun digit => digit.val ≤ 0x33 then 3 else 2)).takeWhile CodePoint.isOctalDigit

/-- What stands between the quotes of a string literal, and its value in UTF-16. -/
inductive Means : Text -> List Nat -> Prop
  | nil : Means [] []
  | plain {point : CodePoint} {rest : Text} {units : List Nat}
    (itself : point ∉ ([CodePoint.quote, CodePoint.backslash, '\n', '\r'] : Text)) (others : Means rest units) :
    Means (point :: rest) (point.codeUnits ++ units)
  | letter {letter point : CodePoint} {rest : Text} {units : List Nat} (known : letterFor? point = some letter)
    (others : Means rest units) : Means (CodePoint.backslash :: letter :: rest) (point.codeUnits ++ units)
  | octal {behind : Text} {units : List Nat} (digit : behind.head?.any CodePoint.isOctalDigit = true)
    (others : Means (behind.drop (octalRun behind).length) units) :
    Means (CodePoint.backslash :: behind) (Text.octalValue (octalRun behind) :: units)

def writtenOctal (behind : List Letter) : List Letter :=
  (behind.take 3).takeWhile Letter.isWrittenDigit

def shown : List Letter -> Text
  -- What the reader makes of letters: one that was translated stands for itself, wherever it is.
  | [] => []
  | letter :: rest =>
    if letter.isBackslash then
      match rest with
      | [] => [CodePoint.backslash]
      | next :: others =>
        if next.isWrittenDigit then
          CodePoint.ofNat (Text.octalValue ((writtenOctal (next :: others)).map Letter.point)) ::
            shown ((next :: others).drop (writtenOctal (next :: others)).length)
        else (letters.lookup next.point).getD next.point :: shown others
    else letter.point :: shown rest
termination_by letters => letters.length
decreasing_by all_goals simp; try omega

theorem shown_other {letter : Letter} (plain : letter.isBackslash = false) (rest : List Letter) :
    shown (letter :: rest) = letter.point :: shown rest := by
  rw [shown.eq_def]
  simp [plain]

theorem shown_end : shown [.written CodePoint.backslash] = [CodePoint.backslash] := by
  rw [shown.eq_def]
  rfl

theorem shown_single {next : Letter} (noDigit : next.isWrittenDigit = false) (rest : List Letter) :
    shown (.written CodePoint.backslash :: next :: rest) = (letters.lookup next.point).getD next.point :: shown rest := by
  rw [shown.eq_def]
  simp [Letter.isBackslash, noDigit]

theorem shown_octal {next : Letter} (digit : next.isWrittenDigit = true) (rest : List Letter) :
    shown (.written CodePoint.backslash :: next :: rest) =
      CodePoint.ofNat (Text.octalValue ((writtenOctal (next :: rest)).map Letter.point)) ::
        shown ((next :: rest).drop (writtenOctal (next :: rest)).length) := by
  rw [shown.eq_def]
  simp [Letter.isBackslash, digit]

theorem shown_others (taken rest : List Letter) (plain : ∀ letter ∈ taken, letter.isBackslash = false) :
    shown (taken ++ rest) = taken.map Letter.point ++ shown rest := by
  induction taken with
  | nil => rfl
  | cons letter taken ih =>
    obtain ⟨first, others⟩ := List.forall_mem_cons.mp plain
    rw [List.cons_append, shown_other first, ih others]
    rfl

theorem Translates.head_of_odd {before : Nat} {rest : Text} {behind : List Letter}
    (translated : Translates before rest behind) (odd : before % 2 = 1) (unmarked : rest.head? ≠ some letterU) :
    ∀ next ∈ behind.head?, next.translated = false ∧ next.point ≠ letterU := by
  cases translated with
  | nil => simp
  | escape even => omega
  | backslash => simp [Letter.written, show CodePoint.backslash ≠ letterU by decide]
  | other plain others =>
    simp only [List.head?_cons, Option.mem_def, Option.some.injEq, forall_eq']
    exact ⟨rfl, fun same => unmarked (by rw [List.head?_cons]; exact congrArg some same)⟩

def Sound (letters : List Letter) : Prop :=
  ∀ behind ∈ openings Letter.isBackslash false letters, ∀ next ∈ behind.head?,
    next.translated = false ∧ next.point ≠ letterU

theorem Translates.openings {before : Nat} {text : Text} {spelled : List Letter}
    (translated : Translates before text spelled) :
    ∀ behind ∈ openings Letter.isBackslash (before % 2 = 1) spelled, ∀ next ∈ behind.head?,
      next.translated = false ∧ next.point ≠ letterU := by
  induction translated with
  | nil => simp [Literal.openings]
  | escape even four read marked others ih =>
    intro behind member
    rw [mem_openings_cons] at member
    rcases member with ⟨-, begins⟩ | later
    · simp at begins
    · exact ih behind (by simpa using later)
  | @backslash before rest behindLetters unmarked others ih =>
    intro behind member
    rw [mem_openings_cons] at member
    rcases member with ⟨rfl, begins⟩ | later
    · have even : before % 2 = 0 := by simpa [Letter.isBackslash] using begins
      exact others.head_of_odd (by omega) (unmarked even)
    · apply ih behind
      have flips : decide ((before + 1) % 2 = 1) = !decide (before % 2 = 1) := by
        rcases Nat.mod_two_eq_zero_or_one before with even | odd
        · simp [even, show (before + 1) % 2 = 1 by omega]
        · simp [odd, show (before + 1) % 2 = 0 by omega]
      rw [flips]
      simpa [Letter.isBackslash] using later
  | other plain others ih =>
    intro behind member
    rw [mem_openings_cons] at member
    rcases member with ⟨-, begins⟩ | later
    · simp [plain] at begins
    · exact ih behind (by simpa [plain] using later)

theorem sound_of_translates {before : Nat} {text : Text} {spelled : List Letter}
    (translated : Translates before text spelled) (even : before % 2 = 0) : Sound spelled := by
  have follows := translated.openings
  rwa [show decide (before % 2 = 1) = false by simp [even]] at follows

theorem Translates.digits {text : Text} {spelled : List Letter} (translated : Translates 0 text spelled) (most : Nat) :
    let digits := (text.take most).takeWhile CodePoint.isOctalDigit
    let shownDigits := (spelled.take most).takeWhile Letter.isWrittenDigit
    shownDigits.map Letter.point = digits ∧ Translates 0 (text.drop digits.length) (spelled.drop shownDigits.length) := by
  have noDigit : CodePoint.isOctalDigit CodePoint.backslash = false := by decide
  induction most generalizing text spelled with
  | zero => exact ⟨rfl, translated⟩
  | succ most ih =>
    cases translated with
    | nil => exact ⟨rfl, .nil⟩
    | escape even four read marked others =>
      simp only [List.take_succ_cons, List.takeWhile_cons, noDigit, Letter.isWrittenDigit_escaped]
      exact ⟨rfl, .escape even four read marked others⟩
    | backslash unmarked others =>
      simp only [List.take_succ_cons, List.takeWhile_cons, noDigit, Letter.isWrittenDigit_written]
      exact ⟨rfl, .backslash unmarked others⟩
    | @other _ point _ _ plain others =>
      cases digit : point.isOctalDigit with
      | false =>
        simp only [List.take_succ_cons, List.takeWhile_cons, digit, Letter.isWrittenDigit_written]
        exact ⟨rfl, .other plain others⟩
      | true =>
        obtain ⟨same, behind⟩ := ih others
        simp only [List.take_succ_cons, List.takeWhile_cons, digit, Letter.isWrittenDigit_written]
        exact ⟨congrArg (point :: ·) same, behind⟩

theorem fourHexDigits?_append {digits : Text} (four : digits.length = 4) (rest : Text) :
    Text.fourHexDigits? (digits ++ rest) = Text.fourHexDigits? digits := by
  match digits, four with
  | [_, _, _, _], _ => rfl

theorem unescape_marked (more : Nat) {digits : Text} {number : Nat} (four : digits.length = 4)
    (read : Text.fourHexDigits? digits = some number) (rest : Text) :
    unescape (CodePoint.backslash :: (unicodeMarks more ++ digits ++ rest)) =
      (unescape rest).map (CodePoint.ofNat number :: ·) := by
  have noMark : ∀ point ∈ (digits ++ rest).head?, point ≠ letterU := by
    match digits, four, read with
    | [first, _, _, _], _, read =>
      simp only [List.cons_append, List.head?_cons, Option.mem_def, Option.some.injEq, forall_eq']
      rintro rfl
      simp [Text.fourHexDigits?, show letterU.hexDigit? = none by decide] at read
  have marked := unicodeEscape_marks more (digits ++ rest) number noMark (by rw [fourHexDigits?_append four, read])
  apply unescape_escaped
  rw [List.append_assoc, List.length_append, four, unicodeMarks, List.length_replicate]
  exact marked

theorem unescape_single {point : CodePoint} (noMark : point ≠ letterU) (noDigit : point.isOctalDigit = false)
    (rest : Text) :
    unescape (CodePoint.backslash :: point :: rest) =
      (unescape rest).map ((letters.lookup point).getD point :: ·) := by
  apply unescape_escaped [point]
  simp [escape, noMark, noDigit]

theorem unescape_octal {point : CodePoint} (digit : point.isOctalDigit = true) (rest : Text) :
    let others := (rest.take 2).takeWhile CodePoint.isOctalDigit
    unescape (CodePoint.backslash :: point :: rest) =
      (unescape (rest.drop others.length)).map (CodePoint.ofNat (Text.octalValue (point :: others)) :: ·) := by
  intro others
  have noMark : point ≠ letterU := by
    rintro rfl
    exact absurd digit (by decide)
  have split : others ++ rest.drop others.length = rest := List.prefix_iff_eq_append.mp (run_begins _ 2 rest)
  have run : ((point :: rest).take 3).takeWhile CodePoint.isOctalDigit = point :: others := by
    rw [List.take_succ_cons, List.takeWhile_cons, if_pos digit]
  have read := unescape_escaped (point :: others) (rest.drop others.length)
    (CodePoint.ofNat (Text.octalValue (point :: others)))
  simp only [List.cons_append, split] at read
  apply read
  rw [escape, if_neg noMark, if_pos digit, octalEscape, run]

/-- What the reader makes of a text is what it makes of its letters. -/
theorem unescape_of_translates {before : Nat} {text : Text} {spelled : List Letter}
    (translated : Translates before text spelled) (even : before % 2 = 0) : unescape text = .ok (shown spelled) := by
  induction length : text.length using Nat.strongRecOn generalizing before text spelled with
  | _ length ih =>
    subst length
    cases translated with
    | nil => rw [shown.eq_def]; rfl
    | @escape _ more number digits rest behind spelled _ four read marked others =>
      have shorter : rest.length < (CodePoint.backslash :: behind).length := by
        rw [marked, List.length_cons, List.length_append]
        omega
      rw [marked, unescape_marked more four read, ih _ shorter others rfl rfl,
        shown_other (Letter.isBackslash_escaped _)]
      rfl
    | @other _ point rest spelled plain others =>
      rw [unescape_itself point rest plain, ih _ (by rw [List.length_cons]; omega) others rfl rfl,
        shown_other (by simp [plain])]
      rfl
    | @backslash _ rest spelled unmarked others =>
      cases others with
      | nil => rw [shown_end]; rfl
      | escape odd => omega
      | @backslash _ rest spelled _ others =>
        have shorter : rest.length < (CodePoint.backslash :: CodePoint.backslash :: rest).length := by
          simp only [List.length_cons]
          omega
        rw [unescape_single (by decide) (by decide), ih _ shorter others (by omega) rfl, shown_single rfl]
        rfl
      | @other _ point rest spelled plain others =>
        have noMark : point ≠ letterU := fun same => unmarked even (by rw [same]; rfl)
        cases digit : point.isOctalDigit with
        | false =>
          rw [unescape_single noMark digit, ih _ (by simp only [List.length_cons]; omega) others rfl rfl,
            shown_single (show (Letter.written point).isWrittenDigit = false from digit)]
          rfl
        | true =>
          have written : (Letter.written point).isWrittenDigit = true := digit
          have run : writtenOctal (.written point :: spelled) =
              .written point :: (spelled.take 2).takeWhile Letter.isWrittenDigit := by
            rw [writtenOctal, List.take_succ_cons, List.takeWhile_cons, if_pos written]
          obtain ⟨same, behind⟩ := others.digits 2
          have shorter : (rest.drop ((rest.take 2).takeWhile CodePoint.isOctalDigit).length).length <
              (CodePoint.backslash :: point :: rest).length := by
            simp only [List.length_cons, List.length_drop]
            omega
          rw [unescape_octal digit, ih _ shorter behind rfl rfl, shown_octal written, run, List.map_cons, same]
          rfl

theorem plain_of_marked (more : Nat) {digits : Text} {number : Nat} (four : digits.length = 4)
    (read : Text.fourHexDigits? digits = some number) :
    ∀ point ∈ unicodeMarks more ++ digits, point ≠ CodePoint.backslash := by
  obtain ⟨⟨start, rest, split, length, hexadecimal⟩, -⟩ := Text.fourHexDigits?_eq_some read
  have lengths := congrArg List.length split
  rw [List.length_append, four, length] at lengths
  obtain rfl : rest = [] := List.length_eq_zero_iff.mp (by omega)
  rw [List.append_nil] at split
  intro point member
  rcases List.mem_append.mp member with mark | digit
  · rw [List.eq_of_mem_replicate mark]
    decide
  · exact ne_backslash_of_isHexDigit (hexadecimal point (split ▸ digit))

theorem Translates.split {before : Nat} {text : Text} {first second : List Letter}
    (translated : Translates before text (first ++ second)) :
    ∃ start rest after, text = start ++ rest ∧ Translates before start first ∧ Translates after rest second ∧
      endsInside isBackslash (before % 2 = 1) start = decide (after % 2 = 1) := by
  induction first generalizing before text with
  | nil => exact ⟨[], text, before, rfl, .nil, translated, rfl⟩
  | cons letter first ih =>
    cases translated with
    | @escape _ more number digits rest behind letters even four read marked others =>
      obtain ⟨start, left, after, rfl, translates, later, ends⟩ := ih others
      refine ⟨CodePoint.backslash :: (unicodeMarks more ++ digits ++ start), left, after, ?_,
        .escape even four read rfl translates, later, ?_⟩
      · rw [marked, List.cons_append, List.append_assoc _ start left]
      · have marksPlain := endsInside_taken isBackslash true (unicodeMarks more ++ digits) (by simp [unicodeMarks])
          (by simpa only [isBackslash, decide_eq_false_iff_not] using plain_of_marked more four read)
        rw [← ends, endsInside_cons, endsInside_append, show (isBackslash CodePoint.backslash &&
          !decide (before % 2 = 1)) = true by simp [isBackslash, even], marksPlain]
        rfl
    | @backslash _ rest letters unmarked others =>
      obtain ⟨start, left, after, rfl, translates, later, ends⟩ := ih others
      refine ⟨CodePoint.backslash :: start, left, after, rfl, .backslash (fun even => ?_) translates, later, ?_⟩
      · cases start with
        | nil => simp
        | cons point start => exact unmarked even
      · rw [← ends, endsInside_cons]
        congr 1
        simp only [isBackslash, decide_true, Bool.true_and, ← decide_not, decide_eq_decide]
        omega
    | @other _ point rest letters plain others =>
      obtain ⟨start, left, after, rfl, translates, later, ends⟩ := ih others
      refine ⟨point :: start, left, after, rfl, .other plain translates, later, ?_⟩
      rw [← ends, endsInside_cons]
      simp [isBackslash, plain]

theorem Translates.opening {raw : Text} {opening : Letter} {rest : List Letter}
    (translated : Translates 0 raw (opening :: rest)) (opens : opening.point = CodePoint.quote) :
    ∃ left text, raw.drop 1 = left ++ text ∧ Translates 0 text rest ∧ (∀ point ∈ left, point ≠ CodePoint.backslash) ∧
      (opening.translated = false -> left = [] ∧ raw = CodePoint.quote :: text) ∧
      (opening.translated = true -> left ≠ []) := by
  cases translated with
  | @escape _ more number digits text behind letters _ four read marked others =>
    refine ⟨unicodeMarks more ++ digits, text, marked, others, plain_of_marked more four read, ?_, ?_⟩
    · simp [Letter.escaped]
    · simp [unicodeMarks]
  | backslash => exact absurd opens (by decide)
  | @other _ point text letters plain others =>
    obtain rfl : point = CodePoint.quote := opens
    exact ⟨[], text, rfl, others, by simp, fun _ => ⟨rfl, rfl⟩, by simp [Letter.written]⟩

theorem Translates.single {before : Nat} {text : Text} {letter : Letter} (translated : Translates before text [letter])
    (untouched : letter.translated = false) : text = [letter.point] := by
  generalize alone : [letter] = letters at translated
  cases translated with
  | nil => simp at alone
  | escape =>
    obtain ⟨rfl, -⟩ := List.cons.inj alone
    simp [Letter.escaped] at untouched
  | backslash unmarked others =>
    obtain ⟨rfl, rfl⟩ := List.cons.inj alone
    cases others
    rfl
  | other plain others =>
    obtain ⟨rfl, rfl⟩ := List.cons.inj alone
    cases others
    rfl

theorem Translates.noQuote {before : Nat} {text : Text} {body : List Letter} {units : List Nat}
    (translated : Translates before text body) (means : Means (body.map Letter.point) units) :
    text.head? ≠ some CodePoint.quote := by
  have apart : CodePoint.backslash ≠ CodePoint.quote := by decide
  cases translated with
  | nil => simp
  | escape => simp [apart]
  | backslash => simp [apart]
  | @other _ point _ _ plain others =>
    intro begins
    obtain rfl : point = CodePoint.quote := Option.some.inj begins
    cases means with
    | plain itself => simp [Letter.written] at itself

end Literal

end RouteAtlas

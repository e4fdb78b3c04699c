import RouteAtlas.Proofs.LiteralSteps

set_option autoImplicit false

namespace RouteAtlas.Literal

theorem never_caught_up {spelled : List Letter} {units queue : List Nat}
    (sound : Sound spelled) (means : Means (spelled.map Letter.point) units) (ahead : queue ≠ []) :
    queue ++ (shown spelled).codeUnits ≠ units := by
  induction length : spelled.length using Nat.strongRecOn generalizing spelled units queue with
  | _ length ih =>
    subst length
    intro same
    cases next_of_means sound means with
    | done =>
      exact ahead (List.append_eq_nil_iff.mp same).1
    | @together _ rest unit units shorter soundRest meansRest shows _ =>
      rw [shows, ← List.append_assoc] at same
      have positive : 0 < queue.length := List.length_pos_iff.mpr ahead
      obtain ⟨more, some, -, behind⟩ := leftover same (by rw [List.length_append]; omega)
      exact ih _ shorter soundRest meansRest some rfl behind
    | apart shorter soundRest meansRest shows diverges _ =>
      rw [shows] at same
      obtain ⟨more, some, behind⟩ := stays_ahead ahead diverges.apart same
      exact ih _ shorter soundRest meansRest some rfl behind

theorem never_caught_up_by_digits {spelled : List Letter} {units queue : List Nat}
    (sound : Sound spelled) (means : Means (spelled.map Letter.point) units) (ahead : queue ≠ [])
    (digits : ∀ unit ∈ queue, IsDigitUnit unit) : (shown spelled).codeUnits ≠ queue ++ units := by
  induction length : spelled.length using Nat.strongRecOn generalizing spelled units queue with
  | _ length ih =>
    subst length
    intro same
    cases next_of_means sound means with
    | done =>
      rw [shown.eq_def] at same
      exact ahead (List.append_eq_nil_iff.mp same.symm).1
    | @together _ rest unit units shorter soundRest meansRest shows _ =>
      rw [shows, ← List.append_assoc] at same
      have positive : 0 < queue.length := List.length_pos_iff.mpr ahead
      obtain ⟨more, some, turned, behind⟩ := leftover same.symm (by rw [List.length_append]; omega)
      -- The queue has been turned by what both have read.
      have kept : more.Perm queue :=
        (List.perm_append_left_iff unit).mp (turned ▸ List.perm_append_comm)
      have digitsMore : ∀ unit ∈ more, IsDigitUnit unit := fun unit member => digits unit (kept.mem_iff.mp member)
      exact ih _ shorter soundRest meansRest some digitsMore rfl behind.symm
    | apart shorter soundRest meansRest shows diverges _ =>
      rw [shows] at same
      cases queue with
      | nil => exact ahead rfl
      | cons first others =>
        obtain ⟨rfl, -⟩ := List.cons.inj same
        exact diverges.noDigit (digits _ List.mem_cons_self)

theorem shown_eq_iff {spelled : List Letter} {units : List Nat}
    (sound : Sound spelled) (means : Means (spelled.map Letter.point) units) :
    (shown spelled).codeUnits = units ↔ InStep spelled := by
  induction length : spelled.length using Nat.strongRecOn generalizing spelled units with
  | _ length ih =>
    subst length
    cases next_of_means sound means with
    | done => exact iff_of_true (by rw [shown.eq_def]; rfl) inStep_nil
    | @together _ rest unit units shorter soundRest meansRest shows same =>
      rw [shows, List.append_cancel_left_eq, same]
      exact ih _ shorter soundRest meansRest rfl
    | apart shorter soundRest meansRest shows diverges out =>
      rw [shows]
      refine iff_of_false (fun same => ?_) out
      rcases diverges.leads _ _ same with ⟨queue, some, ahead⟩ | ⟨queue, some, digits, ahead⟩
      · exact never_caught_up soundRest meansRest some ahead
      · exact never_caught_up_by_digits soundRest meansRest some digits ahead

/-- A string literal: its letters, of which the first and the last are quotes, and its value in UTF-16. -/
structure IsLiteral (raw : Text) (opening : Letter) (body : List Letter) (closing : Letter) (units : List Nat) : Prop where
  translates : Translates 0 raw (opening :: (body ++ [closing]))
  opens : opening.point = CodePoint.quote
  closes : closing.point = CodePoint.quote
  means : Means (body.map Letter.point) units

theorem unescape_of_decode {raw value : Text} (read : decode raw = .ok (some value)) :
    unescape (raw.drop 1).dropLast = .ok value := by
  rw [decode] at read
  split at read
  · simp at read
  · cases told : unescape (raw.drop 1).dropLast with
    | error reason =>
      rw [told] at read
      cases read
    | ok found =>
      rw [told] at read
      exact congrArg Except.ok (Option.some.inj (Except.ok.inj read))

theorem unescape_plain (taken rest : Text) (plain : ∀ point ∈ taken, point ≠ CodePoint.backslash) :
    unescape (taken ++ rest) = (unescape rest).map (taken ++ ·) := by
  induction taken with
  | nil =>
    rw [List.nil_append]
    cases unescape rest <;> rfl
  | cons point taken ih =>
    obtain ⟨first, others⟩ := List.forall_mem_cons.mp plain
    rw [List.cons_append, unescape_itself point _ first, ih others]
    cases unescape rest <;> rfl

theorem unescape_fails {left text : Text} {body : List Letter} {closing : Letter}
    (translated : Translates 0 text (body ++ [closing])) (escaped : closing.translated = true)
    (plain : ∀ point ∈ left, point ≠ CodePoint.backslash) : ¬ Succeeds (unescape (left ++ text).dropLast) := by
  obtain ⟨start, rest, after, rfl, -, last, ends⟩ := translated.split
  cases last with
  | backslash => simp [Letter.written] at escaped
  | other => simp [Letter.written] at escaped
  | @escape _ more number digits rest behind _ even four read marked others =>
    cases others
    have some : digits ≠ [] := by
      rintro rfl
      simp at four
    have cut : (left ++ (start ++ CodePoint.backslash :: behind)).dropLast =
        left ++ start ++ CodePoint.backslash :: (unicodeMarks more ++ digits.dropLast) := by
      rw [marked, List.append_nil, ← List.append_assoc, List.dropLast_append_of_ne_nil (by simp),
        List.dropLast_cons_of_ne_nil (by simp [some]), List.dropLast_append_of_ne_nil some]
    have outside : endsInside isBackslash false left = false := by
      cases left with
      | nil => rfl
      | cons point left =>
        exact endsInside_taken isBackslash false (point :: left) (by simp)
          (by simpa only [isBackslash, decide_eq_false_iff_not] using plain)
    have opens : unicodeMarks more ++ digits.dropLast ∈
        escapesFrom 0 (left ++ (start ++ CodePoint.backslash :: behind)).dropLast := by
      refine (mem_escapesFrom_iff _ _).mpr ⟨left ++ start, cut, ?_⟩
      have even_run : endsInside isBackslash false (left ++ start) = false := by
        rw [endsInside_append, outside]
        exact ends.trans (by simp [even])
      rw [endsInside_eq, decide_eq_false_iff_not] at even_run
      omega
    intro succeeds
    have finished := (succeeds_unescapeFrom 0 _).mp succeeds _ opens
    rw [(isFinished_eq_false _).mpr ⟨rfl, ?_⟩] at finished
    · simp at finished
    · rw [List.dropWhile_append_of_pos (by simp [unicodeMarks])]
      rintro ⟨hexadecimal, others, split, length, -⟩
      have short := (List.dropWhile_suffix (p := fun point => decide (point = letterU)) (l := digits.dropLast)).length_le
      rw [split, List.length_append, length, List.length_dropLast, four] at short
      omega

theorem codeUnits_ne_nil {text : Text} (some : text ≠ []) : text.codeUnits ≠ [] := by
  cases text with
  | nil => exact absurd rfl some
  | cons point rest =>
    have positive := length_codeUnits_pos point
    rw [Text.codeUnits_cons]
    intro nothing
    simp [(List.append_eq_nil_iff.mp nothing).1] at positive

/-- The reader of literals gives for a string literal the value that it has exactly if the letters of the literal are read
in step and neither of its quotes is a Unicode escape. -/
theorem decode_agrees_iff {raw : Text} {opening closing : Letter} {body : List Letter} {units : List Nat}
    (literal : IsLiteral raw opening body closing units) :
    (∃ value, decode raw = .ok (some value) ∧ value.codeUnits = units) ↔
      opening.translated = false ∧ closing.translated = false ∧ InStep body := by
  obtain ⟨translated, opens, closes, means⟩ := literal
  obtain ⟨left, text, dropped, behind, plain, writtenFirst, escapedFirst⟩ := translated.opening opens
  obtain ⟨start, rest, after, rfl, translatedBody, last, -⟩ := behind.split
  have sound := sound_of_translates translatedBody rfl
  have unescaped := unescape_of_translates translatedBody rfl
  cases ends : closing.translated with
  | true =>
    refine iff_of_false ?_ (by simp)
    rintro ⟨value, read, -⟩
    have found := unescape_of_decode read
    rw [dropped] at found
    exact unescape_fails behind ends plain ⟨value, found⟩
  | false =>
    obtain rfl : rest = [CodePoint.quote] := closes ▸ last.single ends
    cases begins : opening.translated with
    | true =>
      -- What is left of the first quote comes out in front of the value, and is never made up for.
      refine iff_of_false ?_ (by simp)
      rintro ⟨value, read, same⟩
      have found := unescape_of_decode read
      rw [dropped, ← List.append_assoc, List.dropLast_concat, unescape_plain left start plain, unescaped] at found
      obtain rfl : left ++ shown body = value := Except.ok.inj found
      rw [Text.codeUnits_append] at same
      exact never_caught_up sound means (codeUnits_ne_nil (escapedFirst begins)) same
    | false =>
      obtain ⟨-, rfl⟩ := writtenFirst begins
      rw [← List.cons_append, decode_quoted start (translatedBody.noQuote means), unescaped]
      simp [Except.map, shown_eq_iff sound means]

theorem translates_unmarked {before : Nat} {text : Text} (unmarked : letterU ∉ text) :
    Translates before text (text.map .written) := by
  induction text generalizing before with
  | nil => exact .nil
  | cons point text ih =>
    have others : letterU ∉ text := fun member => unmarked (List.mem_cons_of_mem point member)
    by_cases backslash : point = CodePoint.backslash
    · rw [backslash]
      refine .backslash (fun _ begins => ?_) (ih others)
      exact others (List.mem_of_mem_head? begins)
    · exact .other backslash (ih others)

def overlongOctal : Text :=
  Text.ofChars ['"', '\\', '4', '0', '0', '"']

def escapedBackslash : Text :=
  Text.ofChars ['"', '\\', 'u', '0', '0', '5', 'c', 'n', '"']

theorem translates_backslash {rest : Text} (unmarked : letterU ∉ rest) :
    Translates 0 (Text.ofChars ['"', '\\', 'u', '0', '0', '5', 'c'] ++ rest)
      (.written '"' :: .escaped '\\' :: rest.map .written) := by
  have marked : Text.ofChars ['u', '0', '0', '5', 'c'] ++ rest =
      unicodeMarks 0 ++ Text.ofChars ['0', '0', '5', 'c'] ++ rest := rfl
  exact .other (by decide) (.escape rfl rfl rfl marked (translates_unmarked unmarked))

theorem literals_misread :
    (∃ opening body closing, IsLiteral overlongOctal opening body closing [0x20, 0x30] ∧
      decode overlongOctal = .ok (some [0x100]) ∧ Text.codeUnits [0x100] ≠ [0x20, 0x30]) ∧
    ∃ opening body closing, IsLiteral escapedBackslash opening body closing [0x0A] ∧
      decode escapedBackslash = .ok (some ['\\', 'n']) ∧ Text.codeUnits ['\\', 'n'] ≠ [0x0A] := by
  refine ⟨⟨.written '"', (Text.ofChars ['\\', '4', '0', '0']).map .written, .written '"', ?_, by decide, by decide⟩,
    ⟨.written '"', [.escaped '\\', .written 'n'], .written '"', ?_, by decide, by decide⟩⟩
  · have digit : Means (Text.ofChars ['0']) [0x30] := .plain (by decide) .nil
    exact ⟨translates_unmarked (by decide), rfl, rfl, .octal rfl digit⟩
  · have lineFeed : Means (Text.ofChars ['\\', 'n']) [0x0A] :=
      .letter (show letterFor? 0x0A = some ('n' : CodePoint) from rfl) .nil
    exact ⟨translates_backslash (by decide), rfl, rfl, lineFeed⟩

def pairedBackslashes : Text :=
  Text.ofChars ['"', '\\', 'u', '0', '0', '5', 'c', '\\', 'q', '\\', '1', '2', '\\', '\\', '4', '0', '0', '"']

theorem paired_backslashes_agree :
    ∃ body, IsLiteral pairedBackslashes (.written '"') body (.written '"') [0x5C, 0x71, 0x0A, 0x5C, 0x34, 0x30, 0x30] ∧
      InStep body ∧ ∃ value, decode pairedBackslashes = .ok (some value) ∧
        value.codeUnits = [0x5C, 0x71, 0x0A, 0x5C, 0x34, 0x30, 0x30] := by
  let behind := Text.ofChars ['\\', 'q', '\\', '1', '2', '\\', '\\', '4', '0', '0']
  have backslash : letterFor? CodePoint.backslash = some CodePoint.backslash := rfl
  have digits : Means (Text.ofChars ['4', '0', '0']) [0x34, 0x30, 0x30] :=
    .plain (by decide) (.plain (by decide) (.plain (by decide) .nil))
  have number : Means (Text.ofChars ['\\', '1', '2', '\\', '\\', '4', '0', '0']) [0x0A, 0x5C, 0x34, 0x30, 0x30] :=
    .octal rfl (Means.letter backslash digits)
  have means : Means (CodePoint.backslash :: behind) [0x5C, 0x71, 0x0A, 0x5C, 0x34, 0x30, 0x30] :=
    .letter backslash (.plain (by decide) number)
  have literal : IsLiteral pairedBackslashes (.written '"') (.escaped '\\' :: behind.map .written) (.written '"')
      [0x5C, 0x71, 0x0A, 0x5C, 0x34, 0x30, 0x30] :=
    ⟨translates_backslash (by decide), rfl, rfl, means⟩
  have agrees := decode_agrees_iff literal
  have read : decode pairedBackslashes = .ok (some ['\\', 'q', '\n', '\\', '4', '0', '0']) := by decide
  have same : ∃ value, decode pairedBackslashes = .ok (some value) ∧
      value.codeUnits = [0x5C, 0x71, 0x0A, 0x5C, 0x34, 0x30, 0x30] := ⟨_, read, rfl⟩
  exact ⟨_, literal, (agrees.mp same).2.2, same⟩

end RouteAtlas.Literal

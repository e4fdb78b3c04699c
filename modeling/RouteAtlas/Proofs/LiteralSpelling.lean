import Mathlib.Algebra.Group.Nat.Defs
import RouteAtlas.Reading.Literal

set_option autoImplicit false

namespace RouteAtlas

namespace Literal

inductive Style where
  | itself
  | letter
  | octal (width : Nat)
  -- One `u` and some more of them, and for each of the four digits whether it is a capital.
  | unicode (more : Nat) (first second third fourth : Bool)
deriving DecidableEq, Repr

def letterEscapes : List (CodePoint × CodePoint) :=
  [(0x08, 'b'), (0x09, 't'), (0x0A, 'n'), (0x0C, 'f'), (0x0D, 'r'), (0x20, 's'), (0x22, '"'), (0x27, '\''),
    (0x5C, '\\')]

def letterFor? (point : CodePoint) : Option CodePoint :=
  letterEscapes.lookup point

def octalDigit (value : Nat) : CodePoint :=
  CodePoint.ofNat (0x30 + value % 8)

def octalDigits : Nat -> Nat -> Text
  -- The last so many octal digits of a number.
  | 0, _ => []
  | width + 1, value => octalDigits width (value / 8) ++ [octalDigit value]

def hexDigit (capital : Bool) (value : Nat) : CodePoint :=
  let digit := value % 16
  CodePoint.ofNat (if digit < 10 then 0x30 + digit else if capital then 0x37 + digit else 0x57 + digit)

def unicodeMarks (more : Nat) : Text :=
  List.replicate (more + 1) letterU

namespace Style

def escaped (point : CodePoint) : Style -> Text
  -- What stands behind the backslash.
  | itself => []
  | letter => (letterFor? point).toList
  | octal width => octalDigits width point.val
  | unicode more first second third fourth =>
    unicodeMarks more ++ [hexDigit first (point.val / 4096), hexDigit second (point.val / 256),
      hexDigit third (point.val / 16), hexDigit fourth point.val]

def write (point : CodePoint) (style : Style) : Text :=
  match style with
  | itself => [point]
  | _ => CodePoint.backslash :: style.escaped point

def Fits (point : CodePoint) : Style -> Prop
  | itself => point ≠ CodePoint.backslash ∧ point ≠ CodePoint.quote
  | letter => (letterFor? point).isSome = true
  | octal width => 1 ≤ width ∧ width ≤ 3 ∧ point.val < 8 ^ width ∧ point.val ≤ 0xFF
  | unicode _ _ _ _ _ => point.val ≤ 0xFFFF

instance (point : CodePoint) : (style : Style) -> Decidable (style.Fits point)
  | itself => inferInstanceAs (Decidable (_ ∧ _))
  | letter => inferInstanceAs (Decidable (_ = _))
  | octal _ => inferInstanceAs (Decidable (_ ∧ _ ∧ _ ∧ _))
  | unicode _ _ _ _ _ => inferInstanceAs (Decidable (_ ≤ _))

def isShort : Style -> Bool
  | octal width => width < 3
  | _ => false

end Style

structure Spelling where
  point : CodePoint
  style : Style
  fits : style.Fits point

def Spelling.text (spelling : Spelling) : Text :=
  spelling.style.write spelling.point

def spelled (spellings : List Spelling) : Text :=
  spellings.flatMap Spelling.text

/-- Nothing that is written next could be taken for one more digit. -/
def EndsOctal (next : Text) : Prop :=
  next.head?.any CodePoint.isOctalDigit = false

def Separated : List Spelling -> Prop
  | [] => True
  | spelling :: rest =>
    (spelling.style.isShort = true -> EndsOctal (spelled rest)) ∧ Separated rest

instance (next : Text) : Decidable (EndsOctal next) :=
  inferInstanceAs (Decidable (_ = _))

instance decidableSeparated : (spellings : List Spelling) -> Decidable (Separated spellings)
  | [] => .isTrue trivial
  | _ :: rest =>
    have := decidableSeparated rest
    inferInstanceAs (Decidable ((_ -> EndsOctal (spelled rest)) ∧ Separated rest))

theorem isOctalDigit_octalDigit (value : Nat) : (octalDigit value).isOctalDigit = true := by
  have digit : (octalDigit value).val = 0x30 + value % 8 := CodePoint.val_ofNat _ (by omega)
  simp only [CodePoint.isOctalDigit, digit, Bool.and_eq_true, decide_eq_true_eq]
  omega

@[simp]
theorem length_octalDigits (width value : Nat) : (octalDigits width value).length = width := by
  induction width generalizing value with
  | zero => rfl
  | succ width ih => simp [octalDigits, ih]

theorem isOctalDigit_of_mem (width value : Nat) :
    ∀ point ∈ octalDigits width value, point.isOctalDigit = true := by
  induction width generalizing value with
  | zero => simp [octalDigits]
  | succ width ih =>
    intro point member
    rcases List.mem_append.mp member with before | last
    · exact ih _ point before
    · rw [List.mem_singleton.mp last]
      exact isOctalDigit_octalDigit value

theorem octalValue_append (digits : Text) (last : CodePoint) :
    Text.octalValue (digits ++ [last]) = Text.octalValue digits * 8 + (last.val - 0x30) := by
  simp [Text.octalValue]

theorem octalValue_octalDigits (width value : Nat) (fits : value < 8 ^ width) :
    Text.octalValue (octalDigits width value) = value := by
  induction width generalizing value with
  | zero =>
    obtain rfl : value = 0 := by simpa using fits
    rfl
  | succ width ih =>
    have shorter : value / 8 < 8 ^ width := by
      rw [Nat.pow_succ] at fits
      omega
    have digit : (octalDigit value).val = 0x30 + value % 8 := CodePoint.val_ofNat _ (by omega)
    rw [octalDigits, octalValue_append, ih _ shorter, digit]
    omega

theorem val_hexDigit (capital : Bool) (value : Nat) :
    (hexDigit capital value).val =
      if value % 16 < 10 then 0x30 + value % 16 else if capital then 0x37 + value % 16 else 0x57 + value % 16 := by
  apply CodePoint.val_ofNat
  split
  · omega
  · split <;> omega

theorem hexDigit?_hexDigit (capital : Bool) (value : Nat) :
    (hexDigit capital value).hexDigit? = some (value % 16) := by
  simp only [CodePoint.hexDigit?, val_hexDigit, Bool.and_eq_true, decide_eq_true_eq]
  by_cases small : value % 16 < 10
  · rw [if_pos small, if_pos (by omega)]
    exact congrArg some (by omega)
  · cases capital with
    | true =>
      rw [if_neg small, if_pos rfl, if_neg (by omega), if_pos (by omega)]
      exact congrArg some (by omega)
    | false =>
      rw [if_neg small, if_neg Bool.false_ne_true, if_neg (by omega), if_neg (by omega), if_pos (by omega)]
      exact congrArg some (by omega)

theorem hexDigit_ne_letterU (capital : Bool) (value : Nat) : hexDigit capital value ≠ letterU := by
  intro same
  have digit := hexDigit?_hexDigit capital value
  rw [same, show letterU.hexDigit? = none from rfl] at digit
  exact absurd digit (by simp)

theorem fourHexDigits?_hexDigits (first second third fourth : Bool) (value : Nat) (fits : value ≤ 0xFFFF) (rest : Text) :
    Text.fourHexDigits? ([hexDigit first (value / 4096), hexDigit second (value / 256), hexDigit third (value / 16),
      hexDigit fourth value] ++ rest) = some value := by
  simp only [List.cons_append, Text.fourHexDigits?, hexDigit?_hexDigit]
  exact congrArg some (by omega)

theorem letterEscapes_read_back (entry : CodePoint × CodePoint) (listed : entry ∈ letterEscapes) :
    entry.2 ≠ letterU ∧ entry.2.isOctalDigit = false ∧ letters.lookup entry.2 = some entry.1 := by
  -- A test of the table; as a statement about all pairs it would be decided by going through all code points.
  have table : letterEscapes.all (fun entry => decide (entry.2 ≠ letterU ∧ entry.2.isOctalDigit = false ∧
      letters.lookup entry.2 = some entry.1)) = true := by decide
  exact of_decide_eq_true (List.all_eq_true.mp table entry listed)

theorem escape_letter (point letter : CodePoint) (rest : Text) (known : letterFor? point = some letter) :
    escape (letter :: rest) = .ok ⟨point, 1⟩ := by
  obtain ⟨before, after, split, -⟩ := List.lookup_eq_some_iff.mp known
  have listed : (point, letter) ∈ letterEscapes := by
    rw [split]
    simp
  obtain ⟨noMark, noDigit, back⟩ := letterEscapes_read_back _ listed
  simp only at noMark noDigit back
  simp [escape, noMark, noDigit, back]

theorem takeWhile_digits (width : Nat) (digits rest : Text) (octal : ∀ point ∈ digits, point.isOctalDigit = true)
    (length : digits.length = width) (short : width ≤ 3) (apart : width < 3 -> EndsOctal rest) :
    ((digits ++ rest).take 3).takeWhile CodePoint.isOctalDigit = digits := by
  rw [List.take_append, List.take_of_length_le (by omega), List.takeWhile_append_of_pos octal]
  rcases Nat.lt_or_ge width 3 with fewer | full
  · cases rest with
    | nil => simp
    | cons next rest =>
      have other : next.isOctalDigit = false := by simpa [EndsOctal] using apart fewer
      obtain ⟨left, more⟩ : ∃ left, 3 - digits.length = left + 1 := ⟨2 - digits.length, by omega⟩
      simp [more, other]
  · have none : 3 - digits.length = 0 := by omega
    simp [none]

theorem escape_octal (width : Nat) (point : CodePoint) (rest : Text) (nonempty : 1 ≤ width) (short : width ≤ 3)
    (fits : point.val < 8 ^ width) (apart : width < 3 -> EndsOctal rest) :
    escape (octalDigits width point.val ++ rest) = .ok ⟨point, width⟩ := by
  have octal := isOctalDigit_of_mem width point.val
  have taken := takeWhile_digits width _ rest octal (length_octalDigits width point.val) short apart
  have read : octalEscape (octalDigits width point.val ++ rest) = ⟨point, width⟩ := by
    simp only [octalEscape, taken, octalValue_octalDigits width point.val fits, length_octalDigits,
      CodePoint.ofNat_val]
  cases digits : octalDigits width point.val with
  | nil =>
    have length := length_octalDigits width point.val
    rw [digits, List.length_nil] at length
    omega
  | cons first others =>
    have digit : first.isOctalDigit = true := octal first (by simp [digits])
    have noMark : first ≠ letterU := by
      rintro rfl
      exact absurd digit (by decide)
    rw [digits, List.cons_append] at read
    simp [escape, noMark, digit, read]

theorem unicodeEscape_marks (more : Nat) (digits : Text) (value : Nat) (noMark : ∀ point ∈ digits.head?, point ≠ letterU)
    (read : Text.fourHexDigits? digits = some value) :
    unicodeEscape (unicodeMarks more ++ digits) = .ok ⟨CodePoint.ofNat value, more + 5⟩ := by
  have stop : digits.takeWhile (· = letterU) = [] := by
    cases digits with
    | nil => rfl
    | cons first rest => simp [noMark first rfl]
  have run : (unicodeMarks more ++ digits).takeWhile (· = letterU) = unicodeMarks more := by
    rw [List.takeWhile_append_of_pos (by simp [unicodeMarks]), stop, List.append_nil]
  have behind : (unicodeMarks more ++ digits).drop (unicodeMarks more).length = digits := List.drop_left
  simp only [unicodeEscape, run, behind, read]
  simp [unicodeMarks]

theorem escape_unicode (more : Nat) (first second third fourth : Bool) (point : CodePoint) (rest : Text)
    (fits : point.val ≤ 0xFFFF) :
    escape ((Style.unicode more first second third fourth).escaped point ++ rest) = .ok ⟨point, more + 5⟩ := by
  have read := fourHexDigits?_hexDigits first second third fourth point.val fits rest
  have noMark : ∀ digit ∈ ([hexDigit first (point.val / 4096), hexDigit second (point.val / 256),
      hexDigit third (point.val / 16), hexDigit fourth point.val] ++ rest).head?, digit ≠ letterU := by
    intro digit head
    obtain rfl : hexDigit first (point.val / 4096) = digit := by simpa using head
    exact hexDigit_ne_letterU first _
  have marked := unicodeEscape_marks more _ point.val noMark read
  rw [CodePoint.ofNat_val] at marked
  rw [Style.escaped, List.append_assoc, ← marked]
  rfl

theorem unescapeFrom_taken (taken rest : Text) : unescapeFrom taken.length (taken ++ rest) = unescape rest := by
  induction taken with
  | nil => rfl
  | cons point taken ih => exact ih

theorem unescape_escaped (taken rest : Text) (point : CodePoint)
    (read : escape (taken ++ rest) = .ok ⟨point, taken.length⟩) :
    unescape (CodePoint.backslash :: taken ++ rest) = (unescape rest).map (point :: ·) := by
  rw [List.cons_append, unescape, unescapeFrom, if_pos rfl, read]
  change (unescapeFrom taken.length (taken ++ rest)).bind _ = _
  rw [unescapeFrom_taken]
  cases unescape rest <;> rfl

theorem unescape_itself (point : CodePoint) (rest : Text) (plain : point ≠ CodePoint.backslash) :
    unescape (point :: rest) = (unescape rest).map (point :: ·) := by
  rw [unescape, unescapeFrom, if_neg plain]
  change (unescape rest).bind _ = _
  cases unescape rest <;> rfl

theorem unescape_spelling (spelling : Spelling) (rest : Text)
    (apart : spelling.style.isShort = true -> EndsOctal rest) :
    unescape (spelling.text ++ rest) = (unescape rest).map (spelling.point :: ·) := by
  obtain ⟨point, style, fits⟩ := spelling
  change style.isShort = true -> EndsOctal rest at apart
  cases style with
  | itself => exact unescape_itself point rest fits.1
  | letter =>
    obtain ⟨letter, known⟩ := Option.isSome_iff_exists.mp fits
    have read := escape_letter point letter rest known
    have written : Style.write point .letter = [CodePoint.backslash, letter] := by
      simp [Style.write, Style.escaped, known]
    rw [Spelling.text, written]
    exact unescape_escaped [letter] rest point read
  | octal width =>
    obtain ⟨nonempty, short, small, -⟩ := fits
    apply unescape_escaped
    rw [Style.escaped, length_octalDigits]
    exact escape_octal width point rest nonempty short small (fun fewer => apart (decide_eq_true fewer))
  | unicode more first second third fourth =>
    apply unescape_escaped
    rw [escape_unicode more first second third fourth point rest fits]
    simp [Style.escaped, unicodeMarks]

theorem unescape_spelled (spellings : List Spelling) (separated : Separated spellings) :
    unescape (spelled spellings) = .ok (spellings.map Spelling.point) := by
  induction spellings with
  | nil => rfl
  | cons spelling rest ih =>
    obtain ⟨apart, others⟩ := separated
    have first := unescape_spelling spelling (spelled rest) apart
    rw [ih others] at first
    exact first

theorem head_spelled_ne_quote (spellings : List Spelling) : (spelled spellings).head? ≠ some CodePoint.quote := by
  cases spellings with
  | nil => simp [spelled]
  | cons spelling rest =>
    obtain ⟨point, style, fits⟩ := spelling
    intro begins
    cases style with
    | itself =>
      obtain rfl : point = CodePoint.quote := Option.some.inj begins
      exact fits.2 rfl
    | _ =>
      have first : some CodePoint.backslash = some CodePoint.quote := begins
      exact absurd first (by decide)

theorem decode_quoted (body : Text) (noBlock : body.head? ≠ some CodePoint.quote) :
    decode (CodePoint.quote :: body ++ [CodePoint.quote]) = (unescape body).map some := by
  have single : Text.startsWith (CodePoint.quote :: body ++ [CodePoint.quote]) blockStart = false := by
    cases body with
    | nil => rfl
    | cons first rest =>
      have apart : CodePoint.quote ≠ first := by
        rintro rfl
        exact noBlock rfl
      simp [Text.startsWith, blockStart, List.isPrefixOf, apart]
  rw [decode, single, if_neg (by simp)]
  simp

/-- A literal has as its value the text that was written in it, whatever spelling each code point has been given. -/
theorem decode_spelled (text : Text) (spellings : List Spelling) (spells : spellings.map Spelling.point = text)
    (separated : Separated spellings) :
    decode (CodePoint.quote :: spelled spellings ++ [CodePoint.quote]) = .ok (some text) := by
  rw [decode_quoted _ (head_spelled_ne_quote spellings), unescape_spelled spellings separated, spells]
  rfl

def mixedSpellings : List Spelling :=
  [{ point := '\\', style := .letter, fits := by decide },
    { point := 'u', style := .itself, fits := by decide },
    { point := '/', style := .octal 2, fits := by decide },
    { point := '8', style := .octal 3, fits := by decide },
    { point := '8', style := .itself, fits := by decide },
    { point := '\n', style := .letter, fits := by decide },
    { point := 0xD83D, style := .unicode 1 true false true true, fits := by decide },
    { point := 'a', style := .itself, fits := by decide },
    { point := ' ', style := .letter, fits := by decide },
    { point := '"', style := .letter, fits := by decide }]

theorem decode_mixed_spellings :
    Separated mixedSpellings ∧
    spelled mixedSpellings = Text.ofChars ['\\', '\\', 'u', '\\', '5', '7', '\\', '0', '7', '0', '8', '\\', 'n',
      '\\', 'u', 'u', 'D', '8', '3', 'D', 'a', '\\', 's', '\\', '"'] ∧
    decode (CodePoint.quote :: spelled mixedSpellings ++ [CodePoint.quote]) =
      .ok (some ['\\', 'u', '/', '8', '8', '\n', 0xD83D, 'a', ' ', '"']) :=
  ⟨by decide, by decide, decode_spelled _ mixedSpellings rfl (by decide)⟩

end Literal

end RouteAtlas

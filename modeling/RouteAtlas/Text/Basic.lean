set_option autoImplicit false

namespace RouteAtlas

/-- A Unicode code point, surrogates included. -/
abbrev CodePoint := Fin 0x110000

abbrev Text := List CodePoint

namespace CodePoint

def ofChar (char : Char) : CodePoint :=
  ⟨char.toNat, by
    have valid := char.valid
    simp only [UInt32.isValidChar, Nat.isValidChar] at valid
    change char.val.toNat < 0x110000
    omega⟩

def ofNat (value : Nat) : CodePoint :=
  ⟨value % 0x110000, Nat.mod_lt value (by decide)⟩

theorem ofNat_val (point : CodePoint) : ofNat point.val = point := by
  apply Fin.ext
  exact Nat.mod_eq_of_lt point.isLt

theorem val_ofNat (value : Nat) (valid : value < 0x110000) : (ofNat value).val = value :=
  Nat.mod_eq_of_lt valid

instance : Coe Char CodePoint := ⟨ofChar⟩

def isSurrogate (point : CodePoint) : Bool :=
  0xD800 ≤ point.val && point.val < 0xE000

def toChar? (point : CodePoint) : Option Char :=
  if point.isSurrogate then none else some (Char.ofNat point.val)

def inRanges (ranges : List (Nat × Nat)) (point : CodePoint) : Bool :=
  ranges.any fun range => range.1 ≤ point.val && point.val ≤ range.2

abbrev lineFeed : CodePoint := '\n'
abbrev space : CodePoint := ' '
abbrev quote : CodePoint := '"'
abbrev dollar : CodePoint := '$'
abbrev dot : CodePoint := '.'
abbrev slash : CodePoint := '/'
abbrev hash : CodePoint := '#'
abbrev backslash : CodePoint := '\\'

end CodePoint

namespace Text

def ofChars (chars : List Char) : Text :=
  chars.map CodePoint.ofChar

def ofString (string : String) : Text :=
  ofChars string.toList

instance : Coe String Text := ⟨ofString⟩

def ofNat (number : Nat) : Text :=
  ofChars (Nat.toDigits 10 number)

def toString? (text : Text) : Option String :=
  (text.mapM CodePoint.toChar?).map String.ofList

def le : Text -> Text -> Bool
  | [], _ => true
  | _ :: _, [] => false
  | first :: rest, other :: others =>
    if first = other then le rest others else first.val < other.val

theorem le_total (first second : Text) : (le first second || le second first) = true := by
  induction first generalizing second with
  | nil => simp [le]
  | cons point rest ih =>
    cases second with
    | nil => simp [le]
    | cons other others =>
      by_cases same : point = other
      · subst same
        simpa [le] using ih others
      · have apart : point.val ≠ other.val := fun equal => same (Fin.ext equal)
        simp only [le, same, Ne.symm same, if_false, Bool.or_eq_true, decide_eq_true_eq]
        omega

theorem le_trans (first second third : Text) (before : le first second = true) (after : le second third = true) :
    le first third = true := by
  induction first generalizing second third with
  | nil => simp [le]
  | cons point rest ih =>
    match second, third with
    | [], _ => simp [le] at before
    | _ :: _, [] => simp [le] at after
    | other :: others, last :: lasts =>
      by_cases same : point = other <;> by_cases equal : other = last
      · subst same equal
        simp only [le, if_true] at before after ⊢
        exact ih others lasts before after
      · subst same
        simpa [le, equal] using after
      · subst equal
        simpa [le, same] using before
      · simp only [le, same, equal, if_false, decide_eq_true_eq] at before after
        have apart : point ≠ last := fun equal => by
          subst equal
          omega
        simp only [le, apart, if_false, decide_eq_true_eq]
        omega

/-- One text stands before another: at the first code point in which they differ its own is smaller, or missing. -/
def Before (first second : Text) : Prop :=
  List.Lex (fun point other => point.val < other.val) first second

theorem not_before_self (text : Text) : ¬ Before text text :=
  List.lex_irrefl (fun point => Nat.lt_irrefl point.val) text

theorem Before.asymm {first second : Text} (before : Before first second) : ¬ Before second first :=
  List.lex_asymm (fun smaller => Nat.lt_asymm smaller) before

theorem le_iff (first second : Text) : le first second = true ↔ first = second ∨ Before first second := by
  induction first generalizing second with
  | nil => cases second <;> simp [le, Before]
  | cons point rest ih =>
    cases second with
    | nil => simp [le, Before]
    | cons other others =>
      rw [le, Before, List.cons_lex_cons_iff, List.cons.injEq]
      split
      next same => simp [same, ih, Before]
      next apart => simp [apart]

def padRight (width : Nat) (text : Text) : Text :=
  text ++ List.replicate (width - text.length) CodePoint.space

def padLeft (width : Nat) (text : Text) : Text :=
  List.replicate (width - text.length) CodePoint.space ++ text

def startsWith (text : Text) (start : Text) : Bool :=
  start.isPrefixOf text

def endsWith (text : Text) (ending : Text) : Bool :=
  ending.isSuffixOf text

def split (separator : CodePoint) : Text -> List Text
  | [] => [[]]
  | point :: rest =>
    if point = separator then [] :: split separator rest
    else match split separator rest with
      | [] => [[point]]
      | part :: parts => (point :: part) :: parts

theorem split_ne_nil (separator : CodePoint) (text : Text) : split separator text ≠ [] := by
  cases text with
  | nil => simp [split]
  | cons point rest =>
    simp only [split]
    split
    next => simp
    next => split <;> simp

theorem takeWhile_append {keep : CodePoint -> Bool} {text rest : Text} (kept : ∀ point ∈ text, keep point = true)
    (ends : ∀ point ∈ rest.head?, keep point = false) : (text ++ rest).takeWhile keep = text := by
  rw [List.takeWhile_append_of_pos kept]
  cases rest with
  | nil => rw [List.takeWhile_nil, List.append_nil]
  | cons first others => rw [List.takeWhile_cons_of_neg (by simp [ends first rfl]), List.append_nil]

theorem dropWhile_append {drop : CodePoint -> Bool} {text rest : Text} (dropped : ∀ point ∈ text, drop point = true)
    (ends : ∀ point ∈ rest.head?, drop point = false) : (text ++ rest).dropWhile drop = rest := by
  rw [List.dropWhile_append_of_pos dropped]
  cases rest with
  | nil => rfl
  | cons first others => exact List.dropWhile_cons_of_neg (by simp [ends first rfl])

def lastTwo : List Text -> Option Text × Text
  | [] => (none, [])
  | [last] => (none, last)
  | [before, last] => (some before, last)
  | _ :: second :: third :: rest => lastTwo (second :: third :: rest)

end Text

end RouteAtlas

import Mathlib.Algebra.Group.Nat.Defs
import Mathlib.Data.List.Induction
import Mathlib.Data.List.TakeWhile
import RouteAtlas.Proofs.ReadLiterals

set_option autoImplicit false

namespace RouteAtlas

def CodePoint.isHexDigit (point : CodePoint) : Bool :=
  (0x30 ≤ point.val && point.val ≤ 0x39) || (0x41 ≤ point.val && point.val ≤ 0x46)
    || (0x61 ≤ point.val && point.val ≤ 0x66)

theorem CodePoint.hexDigit?_isSome (point : CodePoint) : point.hexDigit?.isSome = point.isHexDigit := by
  simp only [CodePoint.hexDigit?, CodePoint.isHexDigit]
  split
  next decimal => simp [decimal]
  next noDecimal =>
    split
    next capital => simp [capital]
    next noCapital =>
      rw [Bool.not_eq_true] at noDecimal noCapital
      rw [noDecimal, noCapital, Bool.false_or, Bool.false_or]
      split
      next small => simp [small]
      next noSmall => simpa using noSmall

theorem CodePoint.hexDigit?_lt {point : CodePoint} {digit : Nat} (read : point.hexDigit? = some digit) : digit < 16 := by
  simp only [CodePoint.hexDigit?, Bool.and_eq_true, decide_eq_true_eq] at read
  split at read
  · have value := Option.some.inj read
    omega
  · split at read
    · have value := Option.some.inj read
      omega
    · split at read
      · have value := Option.some.inj read
        omega
      · simp at read

namespace Text

def HexDigitsFirst (text : Text) : Prop :=
  ∃ digits rest, text = digits ++ rest ∧ digits.length = 4 ∧ ∀ digit ∈ digits, digit.isHexDigit = true

theorem fourHexDigits?_eq_some {text : Text} {number : Nat} (read : fourHexDigits? text = some number) :
    HexDigitsFirst text ∧ number < 0x10000 := by
  match text, read with
  | first :: second :: third :: fourth :: rest, read =>
    simp only [fourHexDigits?, Option.bind_eq_bind, Option.bind_eq_some_iff, Option.pure_def, Option.some.injEq] at read
    obtain ⟨one, oneRead, two, twoRead, three, threeRead, four, fourRead, value⟩ := read
    refine ⟨⟨[first, second, third, fourth], rest, rfl, rfl, ?_⟩, ?_⟩
    · simp [← CodePoint.hexDigit?_isSome, oneRead, twoRead, threeRead, fourRead]
    · have oneSmall := CodePoint.hexDigit?_lt oneRead
      have twoSmall := CodePoint.hexDigit?_lt twoRead
      have threeSmall := CodePoint.hexDigit?_lt threeRead
      have fourSmall := CodePoint.hexDigit?_lt fourRead
      omega

theorem fourHexDigits?_isSome (text : Text) : (fourHexDigits? text).isSome = true ↔ HexDigitsFirst text := by
  constructor
  · intro known
    obtain ⟨number, read⟩ := Option.isSome_iff_exists.mp known
    exact (fourHexDigits?_eq_some read).1
  · rintro ⟨digits, rest, rfl, four, hexadecimal⟩
    match digits, four with
    | [first, second, third, fourth], _ =>
      simp only [List.forall_mem_cons, ← CodePoint.hexDigit?_isSome, Option.isSome_iff_exists] at hexadecimal
      obtain ⟨⟨one, oneRead⟩, ⟨two, twoRead⟩, ⟨three, threeRead⟩, ⟨four, fourRead⟩, -⟩ := hexadecimal
      simp [fourHexDigits?, oneRead, twoRead, threeRead, fourRead]

theorem octalValue_lt (digits : Text) (octal : ∀ digit ∈ digits, digit.isOctalDigit = true) :
    octalValue digits < 8 ^ digits.length := by
  suffices bound : ∀ value, digits.foldl (fun value digit => value * 8 + (digit.val - 0x30)) value <
      (value + 1) * 8 ^ digits.length by
    have whole := bound 0
    rwa [Nat.zero_add, Nat.one_mul] at whole
  induction digits with
  | nil => simp
  | cons digit rest ih =>
    intro value
    have small : digit.val - 0x30 < 8 := by
      have first := octal digit List.mem_cons_self
      simp only [CodePoint.isOctalDigit, Bool.and_eq_true, decide_eq_true_eq] at first
      omega
    calc (digit :: rest).foldl (fun value digit => value * 8 + (digit.val - 0x30)) value
        < (value * 8 + (digit.val - 0x30) + 1) * 8 ^ rest.length :=
          ih (fun point member => octal point (List.mem_cons_of_mem _ member)) _
      _ ≤ ((value + 1) * 8) * 8 ^ rest.length := Nat.mul_le_mul_right _ (by omega)
      _ = (value + 1) * 8 ^ (digit :: rest).length := by rw [List.length_cons, Nat.pow_succ', Nat.mul_assoc]

end Text

namespace Literal

section Runs

variable {Piece : Type} (test : Piece -> Bool) (most : Nat) (pieces : List Piece)

theorem run_begins : (pieces.take most).takeWhile test <+: pieces :=
  (List.takeWhile_prefix _).trans (List.take_prefix _ _)

theorem length_run_le : ((pieces.take most).takeWhile test).length ≤ most :=
  (List.takeWhile_prefix _).length_le.trans (List.length_take_le _ _)

end Runs

section Openings

variable {Piece : Type} (escaping : Piece -> Bool)

def closingRun (pieces : List Piece) : Nat :=
  (pieces.reverse.takeWhile escaping).length

/-- The last of these pieces escapes what comes behind the list; the first argument tells whether the list itself begins
with a piece that is escaped. -/
def endsInside (inside : Bool) (pieces : List Piece) : Bool :=
  pieces.foldl (fun inside piece => escaping piece && !inside) inside

def openings : Bool -> List Piece -> List (List Piece)
  -- What stands behind each piece that escapes the next.
  | _, [] => []
  | inside, piece :: rest =>
    if escaping piece && !inside then rest :: openings true rest else openings false rest

theorem endsInside_cons (inside : Bool) (piece : Piece) (pieces : List Piece) :
    endsInside escaping inside (piece :: pieces) = endsInside escaping (escaping piece && !inside) pieces :=
  rfl

theorem endsInside_append (inside : Bool) (first second : List Piece) :
    endsInside escaping inside (first ++ second) = endsInside escaping (endsInside escaping inside first) second :=
  List.foldl_append

theorem closingRun_append_singleton (pieces : List Piece) (piece : Piece) :
    closingRun escaping (pieces ++ [piece]) = if escaping piece then closingRun escaping pieces + 1 else 0 := by
  rw [closingRun, List.reverse_append, List.reverse_singleton, List.singleton_append, List.takeWhile_cons]
  split <;> rfl

theorem endsInside_eq (pieces : List Piece) :
    endsInside escaping false pieces = decide (closingRun escaping pieces % 2 = 1) := by
  induction pieces using List.reverseRecOn with
  | nil => rfl
  | append_singleton pieces piece ih =>
    rw [endsInside_append, ih, closingRun_append_singleton]
    cases escapes : escaping piece with
    | true =>
      rw [if_pos rfl]
      rcases Nat.mod_two_eq_zero_or_one (closingRun escaping pieces) with even | odd
      · have next : (closingRun escaping pieces + 1) % 2 = 1 := by omega
        simp [endsInside, escapes, even, next]
      · have next : (closingRun escaping pieces + 1) % 2 = 0 := by omega
        simp [endsInside, escapes, odd, next]
    | false => simp [endsInside, escapes]

theorem mem_openings_cons (inside : Bool) (piece : Piece) (pieces behind : List Piece) :
    behind ∈ openings escaping inside (piece :: pieces) ↔
      (behind = pieces ∧ (escaping piece && !inside) = true) ∨
        behind ∈ openings escaping (escaping piece && !inside) pieces := by
  rw [openings]
  cases escaping piece && !inside <;> simp

theorem mem_openings (inside : Bool) (pieces behind : List Piece) :
    behind ∈ openings escaping inside pieces ↔
      ∃ before piece, pieces = before ++ piece :: behind ∧ escaping piece = true ∧
        endsInside escaping inside before = false := by
  induction pieces generalizing inside with
  | nil => simp [openings]
  | cons first pieces ih =>
    rw [mem_openings_cons, ih]
    constructor
    · rintro (⟨rfl, begins⟩ | ⟨before, piece, rfl, escapes, even⟩)
      · simp only [Bool.and_eq_true, Bool.not_eq_true'] at begins
        exact ⟨[], first, rfl, begins.1, begins.2⟩
      · exact ⟨first :: before, piece, rfl, escapes, even⟩
    · rintro ⟨before, piece, split, escapes, even⟩
      cases before with
      | nil =>
        obtain ⟨rfl, rfl⟩ := List.cons.inj split
        have outside : inside = false := even
        exact .inl ⟨rfl, by rw [escapes, outside]; rfl⟩
      | cons other before =>
        obtain ⟨rfl, rfl⟩ := List.cons.inj split
        exact .inr ⟨before, piece, rfl, escapes, even⟩

theorem mem_openings_iff (pieces behind : List Piece) :
    behind ∈ openings escaping false pieces ↔
      ∃ before piece, pieces = before ++ piece :: behind ∧ escaping piece = true ∧
        closingRun escaping before % 2 = 0 := by
  simp [mem_openings, endsInside_eq]

theorem endsInside_taken (inside : Bool) (taken : List Piece) (some : taken ≠ [])
    (plain : ∀ piece ∈ taken, escaping piece = false) : endsInside escaping inside taken = false := by
  obtain ⟨others, last, rfl⟩ := List.eq_nil_or_concat' taken |>.resolve_left some
  rw [endsInside_append]
  simp [endsInside, plain last]

theorem openings_taken (inside : Bool) (taken rest : List Piece) (some : taken ≠ [])
    (plain : ∀ piece ∈ taken, escaping piece = false) :
    openings escaping inside (taken ++ rest) = openings escaping false rest := by
  induction taken generalizing inside with
  | nil => exact absurd rfl some
  | cons piece taken ih =>
    have first : escaping piece = false := plain piece List.mem_cons_self
    rw [List.cons_append, openings, if_neg (by simp [first])]
    cases taken with
    | nil => rfl
    | cons next taken => exact ih false (by simp) fun other member => plain other (List.mem_cons_of_mem _ member)

end Openings

def isBackslash (point : CodePoint) : Bool :=
  point = CodePoint.backslash

theorem ne_backslash_of_isOctalDigit {point : CodePoint} (octal : point.isOctalDigit = true) :
    point ≠ CodePoint.backslash := by
  rintro rfl
  exact absurd octal (by decide)

theorem ne_backslash_of_isHexDigit {point : CodePoint} (hexadecimal : point.isHexDigit = true) :
    point ≠ CodePoint.backslash := by
  rintro rfl
  exact absurd hexadecimal (by decide)

theorem letterU_of_mem_run {text : Text} {point : CodePoint} (member : point ∈ text.takeWhile (· = letterU)) :
    point = letterU := by
  simpa using List.mem_takeWhile_imp member

theorem drop_run (text : Text) : text.drop (text.takeWhile (· = letterU)).length = text.dropWhile (· = letterU) := by
  have split := List.takeWhile_append_dropWhile (p := fun point : CodePoint => decide (point = letterU)) (l := text)
  calc text.drop (text.takeWhile (· = letterU)).length
      = (text.takeWhile (· = letterU) ++ text.dropWhile (· = letterU)).drop
          (text.takeWhile (· = letterU)).length := by rw [split]
    _ = text.dropWhile (· = letterU) := List.drop_left

theorem unicodeEscape_taken {text : Text} {found : Escape} (read : unicodeEscape text = .ok found) :
    ∃ taken rest, text = taken ++ rest ∧ taken.length = found.length ∧ taken ≠ [] ∧
      ∀ point ∈ taken, point ≠ CodePoint.backslash := by
  have split : text.takeWhile (· = letterU) ++ text.dropWhile (· = letterU) = text := List.takeWhile_append_dropWhile
  rw [unicodeEscape, drop_run] at read
  split at read
  next number four =>
    obtain ⟨⟨digits, rest, behind, length, hexadecimal⟩, -⟩ := Text.fourHexDigits?_eq_some four
    obtain rfl := Except.ok.inj read
    rw [behind, ← List.append_assoc] at split
    refine ⟨text.takeWhile (· = letterU) ++ digits, rest, split.symm, ?_, ?_, fun point member => ?_⟩
    · rw [List.length_append, length]
    · simp [← List.length_eq_zero_iff, length]
    · rcases List.mem_append.mp member with mark | digit
      · rw [letterU_of_mem_run mark]
        decide
      · exact ne_backslash_of_isHexDigit (hexadecimal point digit)
  next => simp at read

theorem octalEscape_taken {point : CodePoint} {behind : Text} (octal : point.isOctalDigit = true) :
    ∃ taken rest, point :: behind = taken ++ rest ∧ taken.length = (octalEscape (point :: behind)).length ∧ taken ≠ [] ∧
      ∀ point ∈ taken, point ≠ CodePoint.backslash := by
  obtain ⟨rest, split⟩ := run_begins CodePoint.isOctalDigit 3 (point :: behind)
  refine ⟨_, rest, split.symm, rfl, by simp [octal], ?_⟩
  exact fun other member => ne_backslash_of_isOctalDigit (List.mem_takeWhile_imp member)

theorem escape_taken {text : Text} {found : Escape} (read : escape text = .ok found) :
    (text = [] ∧ found.length = 0) ∨ (∃ rest, text = CodePoint.backslash :: rest ∧ found.length = 1) ∨
      ∃ taken rest, text = taken ++ rest ∧ taken.length = found.length ∧ taken ≠ [] ∧
        ∀ point ∈ taken, point ≠ CodePoint.backslash := by
  cases text with
  | nil =>
    obtain rfl := Except.ok.inj read
    exact .inl ⟨rfl, rfl⟩
  | cons point rest =>
    rw [escape] at read
    split at read
    next => exact .inr (.inr (unicodeEscape_taken read))
    next =>
      split at read
      next octal =>
        obtain rfl := Except.ok.inj read
        exact .inr (.inr (octalEscape_taken octal))
      next =>
        obtain rfl := Except.ok.inj read
        by_cases escaping : point = CodePoint.backslash
        · exact .inr (.inl ⟨rest, by rw [escaping], rfl⟩)
        · exact .inr (.inr ⟨[point], rest, rfl, rfl, by simp, by simp [escaping]⟩)

theorem openings_escape (text : Text) :
    openings isBackslash true text = openings isBackslash false (text.drop (escapeLength text)) := by
  cases read : escape text with
  | error reason =>
    -- An escape that cannot be read begins with a mark, and takes nothing.
    have cut : ¬ isFinished text = true := by
      rw [← succeeds_escape, read]
      exact not_succeeds_error reason
    have marked : text.head? = some letterU := by
      simp only [isFinished, ne_eq, Bool.not_eq_true, Bool.or_eq_false_iff, decide_eq_false_iff_not, not_not] at cut
      exact cut.1
    obtain ⟨rest, rfl⟩ := List.head?_eq_some_iff.mp marked
    rw [escapeLength, read, List.drop_zero]
    rfl
  | ok found =>
    have length : escapeLength text = found.length := by rw [escapeLength, read]
    rw [length]
    rcases escape_taken read with ⟨rfl, none⟩ | ⟨rest, rfl, one⟩ | ⟨taken, rest, rfl, all, some, plain⟩
    · rw [List.drop_nil]
      rfl
    · rw [one]
      rfl
    · rw [openings_taken isBackslash true taken rest some (by simpa [isBackslash] using plain), ← all, List.drop_left]

theorem escapesFrom_eq (taken : Nat) (text : Text) :
    escapesFrom taken text = openings isBackslash false (text.drop taken) := by
  induction text generalizing taken with
  | nil => simp [escapesFrom, openings]
  | cons point rest ih =>
    cases taken with
    | succ taken => exact ih taken
    | zero =>
      rw [escapesFrom, List.drop_zero, openings]
      by_cases begins : point = CodePoint.backslash
      · rw [if_pos begins, if_pos (by simp [isBackslash, begins]), ih, openings_escape]
      · rw [if_neg begins, if_neg (by simp [isBackslash, begins]), ih, List.drop_zero]

theorem mem_escapesFrom_iff (text rest : Text) :
    rest ∈ escapesFrom 0 text ↔
      ∃ before, text = before ++ CodePoint.backslash :: rest ∧ closingRun isBackslash before % 2 = 0 := by
  rw [escapesFrom_eq, List.drop_zero, mem_openings_iff]
  simp [isBackslash]

/-- Behind a backslash, marks of a Unicode escape that no four digits follow. -/
def IsCut (text : Text) : Prop :=
  text.head? = some letterU ∧ ¬ Text.HexDigitsFirst (text.dropWhile (· = letterU))

theorem isFinished_eq_false (text : Text) : isFinished text = false ↔ IsCut text := by
  rw [isFinished, drop_run, IsCut, ← Text.fourHexDigits?_isSome]
  simp

def number? (text : Text) : Option Nat :=
  if text.head? = some letterU then Text.fourHexDigits? (text.dropWhile (· = letterU))
  else if text.head?.any CodePoint.isOctalDigit then
    some (Text.octalValue ((text.take 3).takeWhile CodePoint.isOctalDigit))
  else none

theorem number?_lt {text : Text} {number : Nat} (spelled : number? text = some number) : number < 0x110000 := by
  rw [number?] at spelled
  split at spelled
  · have small := (Text.fourHexDigits?_eq_some spelled).2
    omega
  · split at spelled
    · obtain rfl := Option.some.inj spelled
      have small := Text.octalValue_lt ((text.take 3).takeWhile CodePoint.isOctalDigit)
        fun digit member => List.mem_takeWhile_imp member
      have most : 8 ^ ((text.take 3).takeWhile CodePoint.isOctalDigit).length ≤ 8 ^ 3 :=
        Nat.pow_le_pow_right (by decide) (length_run_le _ 3 text)
      omega
    · simp at spelled

theorem escape_number {text : Text} {number : Nat} (spelled : number? text = some number) :
    ∃ found, escape text = .ok found ∧ found.value.val = number := by
  have small := number?_lt spelled
  rw [number?] at spelled
  cases text with
  | nil => simp at spelled
  | cons point rest =>
    rw [escape]
    by_cases marked : point = letterU
    · rw [if_pos (by simp [marked])] at spelled
      rw [if_pos marked, unicodeEscape, drop_run, spelled]
      exact ⟨_, rfl, CodePoint.val_ofNat number small⟩
    · rw [if_neg (by simp [marked])] at spelled
      rw [if_neg marked]
      split at spelled
      next octal =>
        obtain rfl := Option.some.inj spelled
        rw [if_pos (by simpa using octal)]
        exact ⟨_, rfl, CodePoint.val_ofNat _ small⟩
      next => simp at spelled

theorem decode_error_iff (raw : Text) (long : 2 ≤ raw.length) (single : raw.startsWith blockStart = false) :
    decode raw = .error .unicodeEscape ↔ ∃ behind ∈ escapesFrom 0 (raw.drop 1).dropLast, IsCut behind := by
  have whole : Succeeds (decode raw) ↔ (escapesFrom 0 (raw.drop 1).dropLast).all isFinished = true := by
    have fits : decide (raw.length < 2) = false := decide_eq_false (by omega)
    rw [succeeds_decode, isWhole, single, fits, Bool.false_or, Bool.false_or]
  have fails : decode raw = .error .unicodeEscape ↔ ¬ Succeeds (decode raw) := by
    cases decode raw with
    | error reason => cases reason; simp
    | ok value => simp
  rw [fails, whole, Bool.not_eq_true, List.all_eq_false]
  simp [← isFinished_eq_false]

/-- A literal has no value exactly if a backslash with an even number of them before it is followed by marks without four
digits behind them. Every other one has a value, and no number that an escape spells is too large for a code point. -/
theorem decode_fails_iff (raw : Text) (long : 2 ≤ raw.length) (single : raw.startsWith blockStart = false) :
    (decode raw = .error .unicodeEscape ↔
      ∃ before behind, (raw.drop 1).dropLast = before ++ CodePoint.backslash :: behind ∧
        closingRun isBackslash before % 2 = 0 ∧ behind.head? = some letterU ∧
        ¬ Text.HexDigitsFirst (behind.dropWhile (· = letterU))) ∧
    (decode raw ≠ .error .unicodeEscape -> ∃ value, decode raw = .ok (some value)) ∧
    ∀ behind number, number? behind = some number ->
      number < 0x110000 ∧ ∃ found, escape behind = .ok found ∧ found.value.val = number := by
  refine ⟨?_, ?_, fun behind number spelled => ⟨number?_lt spelled, escape_number spelled⟩⟩
  · rw [decode_error_iff raw long single]
    simp only [mem_escapesFrom_iff, IsCut]
    constructor
    · rintro ⟨behind, ⟨before, split, even⟩, marked, cut⟩
      exact ⟨before, behind, split, even, marked, cut⟩
    · rintro ⟨before, behind, split, even, marked, cut⟩
      exact ⟨behind, ⟨before, split, even⟩, marked, cut⟩
  · intro fine
    have fits : decide (raw.length < 2) = false := decide_eq_false (by omega)
    rw [decode, single, fits] at fine ⊢
    cases told : unescape (raw.drop 1).dropLast with
    | error reason =>
      cases reason
      exact absurd (by rw [told]; rfl) fine
    | ok value => exact ⟨value, rfl⟩

def cutLiteral : Text :=
  Text.ofChars ['"', '\\', '\\', '\\', 'u', 'u', '1', '2', '"']

theorem cut_literal_fails :
    2 ≤ cutLiteral.length ∧ cutLiteral.startsWith blockStart = false ∧ decode cutLiteral = .error .unicodeEscape := by
  have long : 2 ≤ cutLiteral.length := by decide
  have single : cutLiteral.startsWith blockStart = false := by decide
  refine ⟨long, single, (decode_fails_iff cutLiteral long single).1.mpr ?_⟩
  refine ⟨['\\', '\\'], ['u', 'u', '1', '2'], by decide, by decide, by decide, ?_⟩
  rw [← Text.fourHexDigits?_isSome]
  decide

end Literal

end RouteAtlas

import RouteAtlas.Proofs.JsonGrammar

set_option autoImplicit false

namespace RouteAtlas.JsonGrammar

abbrev Reader (α : Type) := Text -> Option (α × Text)

def skipGap (text : Text) : Text :=
  text.dropWhile isBlank

def isWord (point : CodePoint) : Bool :=
  isDigit point || (0x41 ≤ point.val && point.val ≤ 0x5A) || (0x61 ≤ point.val && point.val ≤ 0x7A) ||
    point = '+' || point = '-' || point = '.'

def meaning? (word : Text) : Option Value :=
  if word = "null" then some .null
  else if word = "true" then some (.boolean true)
  else if word = "false" then some (.boolean false)
  else if isNumber word then some (.number word)
  else none

def word? : Reader Value := fun text => do
  let value <- meaning? (text.takeWhile isWord)
  return (value, text.dropWhile isWord)

def codeUnit? : Reader Nat
  | mark :: letter :: digits =>
    if mark = CodePoint.backslash ∧ letter = letterU then
      (Text.fourHexDigits? digits).map fun unit => (unit, digits.drop 4)
    else none
  | _ => none

def codeUnits? : Reader CodePoint := fun text => do
  let (unit, rest) <- codeUnit? text
  if isHigh unit then
    let (low, rest) <- codeUnit? rest
    if isLow low then return (joined unit low, rest) else none
  else if isLow unit then none
  else return (CodePoint.ofNat unit, rest)

def character? : Reader CodePoint
  | [] => none
  | first :: rest =>
    if first ≠ CodePoint.backslash then if isPlain first then some (first, rest) else none
    else match rest with
      | [] => none
      | letter :: others =>
        if letter = letterU then codeUnits? (first :: letter :: others)
        else (shortEscapes.lookup letter).map fun point => (point, others)

def characters? : Nat -> Reader Text
  | 0, _ => none
  | fuel + 1, text =>
    if text.head? = some CodePoint.quote then some ([], text.tail)
    else do
      let (point, rest) <- character? text
      let (points, rest) <- characters? fuel rest
      return (point :: points, rest)

def string? : Reader Text := fun text =>
  characters? text.length text

section

variable {α : Type}

def padded? (item? : Reader α) : Reader α := fun text => do
  let (value, rest) <- item? (skipGap text)
  return (value, skipGap rest)

def separated? (item? : Reader α) (closing : CodePoint) : Nat -> Reader (List α)
  | 0, _ => none
  | fuel + 1, text => do
    let (value, rest) <- item? text
    if rest.head? = some closing then return ([value], rest.tail)
    else if rest.head? = some comma then
      let (values, rest) <- separated? item? closing fuel rest.tail
      return (value :: values, rest)
    else none

def enclosed? (item? : Reader α) (closing : CodePoint) : Reader (List α) := fun text =>
  if (skipGap text).head? = some closing then some ([], (skipGap text).tail)
  else separated? item? closing text.length text

end

def named? (item? : Reader Value) : Reader (Text × Value)
  | [] => none
  | first :: rest =>
    if first = CodePoint.quote then do
      let (name, rest) <- string? rest
      if (skipGap rest).head? = some colon then
        let (value, rest) <- item? (skipGap (skipGap rest).tail)
        return ((name, value), rest)
      else none
    else none

def value? : Nat -> Reader Value
  | 0, _ => none
  | _ + 1, [] => none
  | depth + 1, first :: rest =>
    if first = CodePoint.quote then (string? rest).map (Prod.map .string id)
    else if first = openBracket then (enclosed? (padded? (value? depth)) closeBracket rest).map (Prod.map .array id)
    else if first = openBrace then
      (enclosed? (padded? (named? (value? depth))) closeBrace rest).map (Prod.map .object id)
    else word? (first :: rest)

def read? (text : Text) : Option Value :=
  -- No value is nested deeper than the text is long.
  match padded? (value? (text.length + 1)) text with
  | some (value, []) => some value
  | _ => none

theorem skipGap_append {gap rest : Text} (blank : Gap gap) (visible : ∀ point ∈ rest.head?, isBlank point = false) :
    skipGap (gap ++ rest) = rest :=
  Text.dropWhile_append blank visible

def Words (text : Text) : Prop :=
  ∀ point ∈ text, isWord point = true

theorem words_cons {first : CodePoint} {rest : Text} : Words (first :: rest) ↔ isWord first = true ∧ Words rest :=
  List.forall_mem_cons

theorem ne_of_isWord {point other : CodePoint} (belongs : isWord point = true) (apart : isWord other = false) :
    point ≠ other := by
  rintro rfl
  rw [belongs] at apart
  contradiction

theorem isWord_of_isDigit {point : CodePoint} (digit : isDigit point = true) : isWord point = true := by
  simp [isWord, digit]

theorem words_of_isDigits {text : Text} (digits : isDigits text = true) : Words text := by
  rw [isDigits, Bool.and_eq_true, List.all_eq_true] at digits
  exact fun point member => isWord_of_isDigit (digits.2 point member)

theorem words_of_dropWhile {text : Text} (others : Words (text.dropWhile isDigit)) : Words text := by
  intro point member
  rw [← List.takeWhile_append_dropWhile (p := isDigit) (l := text), List.mem_append] at member
  cases member with
  | inl digit => exact isWord_of_isDigit (List.all_eq_true.mp List.all_takeWhile point digit)
  | inr other => exact others point other

theorem words_of_afterSign {signs text : Text} (signed : Words signs) (others : Words (afterSign signs text)) :
    Words text := by
  cases text with
  | nil => exact others
  | cons first rest =>
    rw [afterSign] at others
    split at others
    next sign => exact words_cons.mpr ⟨signed first sign, others⟩
    next => exact others

theorem words_of_isExponent {text : Text} (exponent : isExponent text = true) : Words text := by
  cases text with
  | nil => simp [Words]
  | cons mark rest =>
    simp only [isExponent, Bool.and_eq_true, Bool.or_eq_true, decide_eq_true_eq] at exponent
    obtain ⟨marked, digits⟩ := exponent
    refine words_cons.mpr ⟨?_, words_of_afterSign (List.all_eq_true.mp rfl) (words_of_isDigits digits)⟩
    rcases marked with rfl | rfl <;> rfl

theorem words_of_isFraction {text : Text} (fraction : isFraction text = true) : Words text := by
  cases text with
  | nil => simp [Words]
  | cons mark rest =>
    rw [isFraction] at fraction
    split at fraction
    next dot =>
      rw [Bool.and_eq_true] at fraction
      subst dot
      exact words_cons.mpr ⟨rfl, words_of_dropWhile (words_of_isExponent fraction.2)⟩
    next => exact words_of_isExponent fraction

theorem words_of_isUnsigned {text : Text} (unsigned : isUnsigned text = true) : Words text := by
  cases text with
  | nil => simp [Words]
  | cons first rest =>
    rw [isUnsigned] at unsigned
    split at unsigned
    next zero =>
      subst zero
      exact words_cons.mpr ⟨rfl, words_of_isFraction unsigned⟩
    next =>
      rw [Bool.and_eq_true] at unsigned
      exact words_cons.mpr ⟨isWord_of_isDigit unsigned.1, words_of_dropWhile (words_of_isFraction unsigned.2)⟩

theorem words_of_isNumber {text : Text} (number : isNumber text = true) : Words text :=
  words_of_afterSign (List.all_eq_true.mp rfl) (words_of_isUnsigned number)

theorem meaning?_number {text : Text} (number : isNumber text = true) : meaning? text = some (.number text) := by
  have apart (word : Text) (not : isNumber word = false) : text ≠ word := by
    rintro rfl
    rw [number] at not
    contradiction
  rw [meaning?, if_neg (apart _ rfl), if_neg (apart _ rfl), if_neg (apart _ rfl), if_pos number]

theorem ne_nil_of_meaning? {word : Text} {value : Value} (meant : meaning? word = some value) : word ≠ [] := by
  rintro rfl
  exact absurd meant (by rw [show meaning? [] = none from rfl]; simp)

theorem codeUnit?_append {written : Text} {unit : Nat} (escape : CodeUnit written unit) (rest : Text) :
    codeUnit? (written ++ rest) = some (unit, rest) := by
  cases escape with
  | @intro first second third fourth _ read =>
    have four : Text.fourHexDigits? (first :: second :: third :: fourth :: rest) = some unit := read
    simp [codeUnit?, four]

theorem character?_codeUnit {written : Text} {unit : Nat} (escape : CodeUnit written unit) (rest : Text) :
    character? (written ++ rest) = codeUnits? (written ++ rest) := by
  cases escape
  rfl

theorem character?_append {written : Text} {point : CodePoint} (character : Character written point) (rest : Text) :
    character? (written ++ rest) = some (point, rest) := by
  cases character with
  | plain itself =>
    have apart : point ≠ CodePoint.backslash := by
      rintro rfl
      exact absurd itself (by decide)
    simp [character?, itself, apart]
  | @short letter _ meant =>
    have apart : letter ≠ letterU := by
      rintro rfl
      rw [show shortEscapes.lookup letterU = none from rfl] at meant
      contradiction
    simp [character?, apart, meant]
  | unit escape notHigh notLow =>
    rw [character?_codeUnit escape, codeUnits?, codeUnit?_append escape]
    simp [notHigh, notLow]
  | pair escape next isHigh isLow =>
    rw [List.append_assoc, character?_codeUnit escape, codeUnits?, codeUnit?_append escape]
    simp [codeUnit?_append next, isHigh, isLow]

theorem starts_of_character {written : Text} {point : CodePoint} (character : Character written point) :
    ∃ first rest, written = first :: rest ∧ first ≠ CodePoint.quote := by
  cases character with
  | plain itself =>
    refine ⟨point, [], rfl, ?_⟩
    rintro rfl
    exact absurd itself (by decide)
  | short meant => exact ⟨_, _, rfl, by decide⟩
  | unit escape notHigh notLow =>
    cases escape
    exact ⟨_, _, rfl, by decide⟩
  | pair escape next isHigh isLow =>
    cases escape
    exact ⟨_, _, rfl, by decide⟩

theorem characters?_append {written text : Text} (characters : Characters written text) {fuel : Nat}
    (enough : written.length < fuel) (rest : Text) :
    characters? fuel (written ++ CodePoint.quote :: rest) = some (text, rest) := by
  induction characters generalizing fuel with
  | nil =>
    obtain ⟨fuel, rfl⟩ := Nat.exists_eq_succ_of_ne_zero (Nat.ne_of_gt enough)
    rfl
  | @cons written others point points character _ ih =>
    obtain ⟨fuel, rfl⟩ := Nat.exists_eq_succ_of_ne_zero (Nat.ne_of_gt (Nat.zero_lt_of_lt enough))
    obtain ⟨first, tail, rfl, apart⟩ := starts_of_character character
    have shorter : others.length < fuel := by
      simp only [List.length_append, List.length_cons] at enough
      omega
    rw [List.append_assoc, characters?, if_neg (by simpa using apart), character?_append character]
    simp [ih shorter]

theorem string?_append {written text : Text} (characters : Characters written text) (rest : Text) :
    string? (written ++ CodePoint.quote :: rest) = some (text, rest) := by
  apply characters?_append characters
  simp only [List.length_append, List.length_cons]
  omega

/-- What may follow a value: no letter or digit, which would belong to the value. -/
def Ends (rest : Text) : Prop :=
  ∀ point ∈ rest.head?, isWord point = false

def Closes (rest : Text) : Prop :=
  ∀ point ∈ rest.head?, isWord point = false ∧ isBlank point = false

theorem not_isWord_of_isBlank {point : CodePoint} (blank : isBlank point = true) : isWord point = false := by
  simp only [isBlank, Bool.or_eq_true, decide_eq_true_eq] at blank
  rcases blank with ((rfl | rfl) | rfl) | rfl <;> rfl

theorem ends_append {gap rest : Text} (blank : Gap gap) (closes : Closes rest) : Ends (gap ++ rest) := by
  cases gap with
  | nil => exact fun point starts => (closes point starts).1
  | cons first others =>
    rintro _ ⟨⟩
    exact not_isWord_of_isBlank (blank first List.mem_cons_self)

theorem closes_cons {point : CodePoint} (closing : point = comma ∨ point = closeBracket ∨ point = closeBrace)
    (rest : Text) : Closes (point :: rest) := by
  rintro _ ⟨⟩
  rcases closing with rfl | rfl | rfl <;> decide

section

variable {α : Type} {item? : Reader α} {Item : Text -> α -> Prop} {bound : Nat}

/-- The reader finds everything of a form that is shorter than the bound. -/
def Finds (item? : Reader α) (Item : Text -> α -> Prop) (Follows : Text -> Prop) (bound : Nat) : Prop :=
  ∀ written value rest, Item written value -> written.length < bound -> Follows rest ->
    item? (written ++ rest) = some (value, rest)

def Visible (Item : Text -> α -> Prop) : Prop :=
  ∀ written value, Item written value ->
    ∃ first rest, written = first :: rest ∧ isBlank first = false ∧ first ≠ closeBracket ∧ first ≠ closeBrace

theorem skipGap_padded (visible : Visible Item) {before written : Text} {value : α} (first : Gap before)
    (item : Item written value) (rest : Text) : skipGap (before ++ written ++ rest) = written ++ rest := by
  obtain ⟨start, others, rfl, seen, -⟩ := visible written value item
  rw [List.append_assoc, skipGap_append first]
  rintro _ ⟨⟩
  exact seen

theorem finds_padded (visible : Visible Item) (finds : Finds item? Item Ends bound) :
    Finds (padded? item?) (Padded Item) Closes bound := by
  rintro _ value rest @⟨before, written, after, _, first, item, last⟩ within closes
  simp only [List.length_append] at within
  have found := finds written value (after ++ rest) item (by omega) (ends_append last closes)
  have behind : skipGap (after ++ rest) = rest := skipGap_append last fun point starts => (closes point starts).2
  rw [padded?, List.append_assoc, skipGap_padded visible first item, found]
  simp [behind]

theorem separated?_append {written : Text} {values : List α} (items : Separated Item written values)
    (finds : Finds item? Item Closes bound) {closing : CodePoint}
    (closes : closing = closeBracket ∨ closing = closeBrace) {fuel : Nat} (enough : written.length < fuel)
    (within : written.length < bound) (rest : Text) :
    separated? item? closing fuel (written ++ closing :: rest) = some (values, rest) := by
  obtain ⟨fuel, rfl⟩ := Nat.exists_eq_succ_of_ne_zero (Nat.ne_of_gt (Nat.zero_lt_of_lt enough))
  have apart : comma ≠ closing := by
    rcases closes with rfl | rfl <;> decide
  induction items generalizing fuel with
  | @last written value item =>
    rw [separated?, finds written value _ item within (closes_cons (.inr closes) rest)]
    simp
  | @more written others value values item _ ih =>
    -- The comma pays for the step.
    simp only [List.length_append, List.length_cons] at within enough
    obtain ⟨fuel, rfl⟩ := Nat.exists_eq_succ_of_ne_zero (show fuel ≠ 0 by omega)
    have found := ih (by omega) fuel (by omega)
    rw [List.append_assoc, List.cons_append, separated?,
      finds written value _ item (by omega) (closes_cons (.inl rfl) _)]
    simp [apart, found]

theorem head?_skipGap_separated (visible : Visible Item) {written : Text} {values : List α}
    (items : Separated (Padded Item) written values) {closing : CodePoint}
    (closes : closing = closeBracket ∨ closing = closeBrace) (rest : Text) :
    (skipGap (written ++ rest)).head? ≠ some closing := by
  have starts {written : Text} {value : α} (item : Padded Item written value) (rest : Text) :
      (skipGap (written ++ rest)).head? ≠ some closing := by
    obtain ⟨first, item, last⟩ := item
    rw [List.append_assoc, skipGap_padded visible first item]
    obtain ⟨start, others, rfl, -, bracket, brace⟩ := visible _ _ item
    rcases closes with rfl | rfl
    · simpa using bracket
    · simpa using brace
  cases items with
  | last item => exact starts item rest
  | more item others =>
    rw [List.append_assoc]
    exact starts item _

theorem enclosed?_append (visible : Visible Item) (finds : Finds item? Item Ends bound) {opening closing : CodePoint}
    (closes : closing = closeBracket ∨ closing = closeBrace) {written : Text} {values : List α}
    (items : Enclosed opening closing (Padded Item) written values) (within : written.length ≤ bound) :
    ∃ inner, written = opening :: inner ∧
      ∀ rest, enclosed? (padded? item?) closing (inner ++ rest) = some (values, rest) := by
  cases items with
  | @none gap blank =>
    refine ⟨gap ++ [closing], rfl, fun rest => ?_⟩
    have behind : skipGap (gap ++ closing :: rest) = closing :: rest :=
      skipGap_append blank fun point starts => (closes_cons (.inr closes) rest point starts).2
    simp [enclosed?, behind]
  | @some inner _ items =>
    refine ⟨inner ++ [closing], rfl, fun rest => ?_⟩
    simp only [List.length_cons, List.length_append] at within
    rw [List.append_assoc, enclosed?, if_neg (head?_skipGap_separated visible items closes _)]
    apply separated?_append items (finds_padded visible finds) closes
    · simp only [List.length_append, List.length_cons, List.singleton_append]
      omega
    · omega

end

theorem visible_denotes : Visible Denotes := by
  intro written value denotes
  cases denotes with
  | null => exact ⟨_, _, rfl, by decide⟩
  | truth => exact ⟨_, _, rfl, by decide⟩
  | falsehood => exact ⟨_, _, rfl, by decide⟩
  | number valid =>
    obtain ⟨first, rest, rfl⟩ := List.exists_cons_of_ne_nil (ne_nil_of_meaning? (meaning?_number valid))
    have belongs := (words_cons.mp (words_of_isNumber valid)).1
    refine ⟨first, rest, rfl, ?_, ne_of_isWord belongs rfl, ne_of_isWord belongs rfl⟩
    rw [← Bool.not_eq_true]
    intro blank
    rw [not_isWord_of_isBlank blank] at belongs
    contradiction
  | string characters => exact ⟨_, _, rfl, by decide⟩
  | array items => cases items <;> exact ⟨_, _, rfl, by decide⟩
  | object items => cases items <;> exact ⟨_, _, rfl, by decide⟩

theorem visible_named {Item : Text -> Value -> Prop} : Visible (Named Item) := by
  rintro _ _ ⟨characters, first, second, meant⟩
  exact ⟨_, _, rfl, by decide⟩

theorem finds_named {item? : Reader Value} {bound : Nat} (finds : Finds item? Denotes Ends bound) :
    Finds (named? item?) (Named Denotes) Ends bound := by
  rintro _ _ rest @⟨written, name, between, behind, item, value, characters, first, second, meant⟩ within ends
  simp only [List.length_cons, List.length_append] at within
  have found := finds item value rest meant (by omega) ends
  have sign : skipGap (between ++ colon :: (behind ++ (item ++ rest))) = colon :: (behind ++ (item ++ rest)) :=
    skipGap_append first (by rintro _ ⟨⟩; rfl)
  have item : skipGap (behind ++ (item ++ rest)) = item ++ rest := by
    rw [← List.append_assoc, skipGap_padded visible_denotes second meant]
  simp only [List.cons_append, List.append_assoc, named?]
  rw [string?_append characters]
  simp [sign, item, found]

theorem word?_append {word : Text} {value : Value} (words : Words word) (meant : meaning? word = some value)
    {rest : Text} (ends : Ends rest) : word? (word ++ rest) = some (value, rest) := by
  rw [word?, Text.takeWhile_append words ends, Text.dropWhile_append words ends, meant]
  rfl

theorem value?_word {word : Text} {value : Value} (words : Words word) (meant : meaning? word = some value)
    {rest : Text} (ends : Ends rest) (depth : Nat) : value? (depth + 1) (word ++ rest) = some (value, rest) := by
  obtain ⟨first, others, rfl⟩ := List.exists_cons_of_ne_nil (ne_nil_of_meaning? meant)
  have belongs := (words_cons.mp words).1
  rw [List.cons_append, value?, if_neg (ne_of_isWord belongs rfl), if_neg (ne_of_isWord belongs rfl),
    if_neg (ne_of_isWord belongs rfl), ← List.cons_append, word?_append words meant ends]

theorem finds_value (depth : Nat) : Finds (value? depth) Denotes Ends depth := by
  -- On the depth: brackets take a point each, so that what they hold is shorter by more than one.
  induction depth with
  | zero => exact fun written value rest denotes within => absurd within (Nat.not_lt_zero _)
  | succ depth ih =>
    intro written value rest denotes within ends
    cases denotes with
    | null => exact value?_word (List.all_eq_true.mp rfl) rfl ends depth
    | truth => exact value?_word (List.all_eq_true.mp rfl) rfl ends depth
    | falsehood => exact value?_word (List.all_eq_true.mp rfl) rfl ends depth
    | number valid => exact value?_word (words_of_isNumber valid) (meaning?_number valid) ends depth
    | string characters =>
      rw [List.cons_append, List.append_assoc, List.singleton_append, value?, if_pos rfl, string?_append characters]
      rfl
    | array items =>
      obtain ⟨inner, rfl, found⟩ := enclosed?_append visible_denotes ih (.inl rfl) items (Nat.le_of_lt_succ within)
      rw [List.cons_append, value?, if_neg (by decide), if_pos rfl, found]
      rfl
    | object items =>
      obtain ⟨inner, rfl, found⟩ :=
        enclosed?_append visible_named (finds_named ih) (.inr rfl) items (Nat.le_of_lt_succ within)
      rw [List.cons_append, value?, if_neg (by decide), if_neg (by decide), if_pos rfl, found]
      rfl

theorem isReader_read? : IsReader read? := by
  intro text value padded
  have found := finds_padded visible_denotes (finds_value (text.length + 1)) text value [] padded (Nat.lt_succ_self _)
    (by rintro _ ⟨⟩)
  rw [List.append_nil] at found
  rw [read?, found]

example : read? "[-1.5e+3, \"\\ud83d\\ude00\"]" = some (.array [.number "-1.5e+3", .string [0x1F600]]) := by
  rfl

example : read? "[01]" = none := by
  rfl

end RouteAtlas.JsonGrammar

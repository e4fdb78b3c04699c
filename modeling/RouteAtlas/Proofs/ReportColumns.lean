import RouteAtlas.Report.Lines

set_option autoImplicit false

namespace RouteAtlas

namespace Text

def spaces (count : Nat) : Text :=
  List.replicate count CodePoint.space

theorem padRight_eq (width : Nat) (text : Text) : padRight width text = text ++ spaces (width - text.length) :=
  rfl

theorem padLeft_eq (width : Nat) (text : Text) : padLeft width text = spaces (width - text.length) ++ text :=
  rfl

theorem length_padLeft {width : Nat} {text : Text} (fits : text.length ≤ width) :
    (padLeft width text).length = width := by
  rw [padLeft, List.length_append, List.length_replicate]
  omega

theorem length_spaces (count : Nat) : (spaces count).length = count :=
  List.length_replicate

theorem length_ofNat_le {number bound : Nat} (within : number ≤ bound) :
    (ofNat number).length ≤ (ofNat bound).length := by
  simp only [ofNat, ofChars, List.length_map]
  have written : 0 < (Nat.toDigits 10 bound).length := List.length_pos_iff.mpr Nat.toDigits_ne_nil
  rw [Nat.length_toDigits_le_iff (by decide) written]
  exact Nat.lt_of_le_of_lt within ((Nat.length_toDigits_le_iff (by decide) written).mp (Nat.le_refl _))

end Text

namespace Report

theorem le_foldl_max (lengths : List Nat) (start : Nat) : start ≤ lengths.foldl max start := by
  induction lengths generalizing start with
  | nil => exact Nat.le_refl start
  | cons length rest ih => exact Nat.le_trans (Nat.le_max_left start length) (ih _)

theorem le_widest {texts : List Text} {text : Text} (member : text ∈ texts) : text.length ≤ widest texts := by
  have bounded (lengths : List Nat) (start : Nat) : ∀ length ∈ lengths, length ≤ lengths.foldl max start := by
    induction lengths generalizing start with
    | nil => simp
    | cons length rest ih =>
      refine List.forall_mem_cons.mpr ⟨?_, ih _⟩
      exact Nat.le_trans (Nat.le_max_right start length) (le_foldl_max rest _)
  exact bounded _ 0 _ (List.mem_map_of_mem member)

structure Widths.Hold (widths : Widths) (index : Nat) (endpoint : Endpoint) : Prop where
  index : (Text.ofNat index).length ≤ widths.index
  path : endpoint.path.length ≤ widths.path
  method : endpoint.method.length ≤ widths.method
  declaration : endpoint.declaration.length ≤ widths.declaration

theorem widths_hold {endpoints : List Endpoint} {position : Nat} {endpoint : Endpoint}
    (found : endpoints[position]? = some endpoint) : (Widths.ofEndpoints endpoints).Hold (position + 1) endpoint := by
  have member := List.mem_of_getElem? found
  have within : position < endpoints.length := (List.getElem?_eq_some_iff.mp found).1
  exact {
    index := Text.length_ofNat_le within
    path := le_widest (List.mem_map_of_mem member)
    method := le_widest (List.mem_map_of_mem member)
    declaration := le_widest (List.mem_map_of_mem member) }

theorem length_lines (endpoints : List Endpoint) : (lines endpoints).length = endpoints.length := by
  simp [lines, Endpoint.sorted]

theorem getElem?_lines {endpoints : List Endpoint} {position : Nat} {endpoint : Endpoint}
    (found : (Endpoint.sorted endpoints)[position]? = some endpoint) :
    (lines endpoints)[position]? =
      some (line (Widths.ofEndpoints (Endpoint.sorted endpoints)) (position + 1) endpoint) := by
  rw [lines, List.getElem?_mapIdx, found, Option.map_some]

structure Columns where
  bracket : Nat
  path : Nat
  method : Nat
  equalsSign : Nat
  parenthesis : Nat

/-- A line that holds an index and the fields of an endpoint in columns, with spaces before or behind them. -/
def Columns.Shown (columns : Columns) (index : Nat) (endpoint : Endpoint) (line : Text) : Prop :=
  ∃ first second third fourth : Nat,
    let toBracket : Text := "[" ++ Text.spaces first ++ Text.ofNat index
    let toPath := toBracket ++ "] "
    let toMethod := toPath ++ endpoint.path ++ Text.spaces second ++ " "
    let toEqualsSign := toMethod ++ endpoint.method ++ Text.spaces third ++ " "
    let toParenthesis := toEqualsSign ++ "= " ++ endpoint.declaration ++ Text.spaces fourth ++ " "
    line = toParenthesis ++ "(" ++ endpoint.file ++ ")" ∧
    toBracket.length = columns.bracket ∧ toPath.length = columns.path ∧ toMethod.length = columns.method ∧
    toEqualsSign.length = columns.equalsSign ∧ toParenthesis.length = columns.parenthesis

def Widths.columns (widths : Widths) : Columns :=
  { bracket := 1 + widths.index
    path := widths.index + 3
    method := widths.index + widths.path + 4
    equalsSign := widths.index + widths.path + widths.method + 5
    parenthesis := widths.index + widths.path + widths.method + widths.declaration + 8 }

theorem line_shown {widths : Widths} {index : Nat} {endpoint : Endpoint} (hold : widths.Hold index endpoint) :
    widths.columns.Shown index endpoint (line widths index endpoint) := by
  obtain ⟨number, path, method, declaration⟩ := hold
  have apart : (" = " : Text) = " " ++ "= " := rfl
  have behind : (" (" : Text) = " " ++ "(" := rfl
  refine ⟨widths.index - (Text.ofNat index).length, widths.path - endpoint.path.length,
    widths.method - endpoint.method.length, widths.declaration - endpoint.declaration.length, ?_⟩
  have bracket : ("[" : Text).length = 1 := rfl
  have closing : ("] " : Text).length = 2 := rfl
  have gap : (" " : Text).length = 1 := rfl
  have sign : ("= " : Text).length = 2 := rfl
  refine ⟨?_, ?_, ?_, ?_, ?_, ?_⟩
  · simp only [line, Text.padLeft_eq, Text.padRight_eq, apart, behind, List.append_assoc]
  all_goals
    simp only [Widths.columns, Text.length_spaces, List.length_append, bracket, closing, gap, sign]
    omega

def isSpace (point : CodePoint) : Bool :=
  point = CodePoint.space

def field (text : Text) : Text :=
  text.takeWhile fun point => !isSpace point

def afterField (text : Text) : Text :=
  (text.dropWhile fun point => !isSpace point).dropWhile isSpace

def readLine (indexWidth : Nat) (line : Text) : Endpoint :=
  let fromPath := line.drop (indexWidth + 3)
  let fromMethod := afterField fromPath
  let fromDeclaration := (afterField fromMethod).drop 2
  let fromFile := (afterField fromDeclaration).drop 1
  { method := field fromMethod
    path := field fromPath
    declaration := field fromDeclaration
    file := fromFile.dropLast }

def readLines (lines : List Text) : List Endpoint :=
  lines.map (readLine (Text.ofNat lines.length).length)

structure Plain (endpoint : Endpoint) : Prop where
  path : CodePoint.space ∉ endpoint.path
  method : CodePoint.space ∉ endpoint.method
  declaration : CodePoint.space ∉ endpoint.declaration
  named : endpoint.method ≠ []

theorem not_isSpace {text : Text} (unbroken : CodePoint.space ∉ text) : ∀ point ∈ text, (!isSpace point) = true := by
  intro point member
  have apart : point ≠ CodePoint.space := fun same => unbroken (same ▸ member)
  simp [isSpace, apart]

theorem padded_space (width : Nat) (text rest : Text) :
    Text.padRight width text ++ CodePoint.space :: rest =
      text ++ CodePoint.space :: (Text.spaces (width - text.length) ++ rest) := by
  rw [Text.padRight_eq, List.append_assoc, Text.spaces, ← List.cons_append, ← List.replicate_succ, List.replicate_succ',
    List.append_assoc, List.singleton_append]

theorem field_padded {text : Text} (unbroken : CodePoint.space ∉ text) (width : Nat) (rest : Text) :
    field (Text.padRight width text ++ CodePoint.space :: rest) = text := by
  rw [field, padded_space, Text.takeWhile_append (not_isSpace unbroken)]
  rintro _ ⟨⟩
  rfl

theorem afterField_padded {text : Text} (unbroken : CodePoint.space ∉ text) (width : Nat) {rest : Text}
    (starts : ∀ point ∈ rest.head?, isSpace point = false) :
    afterField (Text.padRight width text ++ CodePoint.space :: rest) = rest := by
  have blank : ∀ point ∈ Text.spaces (width - text.length + 1), isSpace point = true := by
    intro point member
    simp [isSpace, List.eq_of_mem_replicate member]
  rw [afterField, padded_space, Text.dropWhile_append (not_isSpace unbroken)]
  · rw [← List.cons_append]
    exact Text.dropWhile_append blank starts
  · rintro _ ⟨⟩
    rfl

theorem readLine_line {widths : Widths} {index : Nat} {endpoint : Endpoint} (hold : widths.Hold index endpoint)
    (plain : Plain endpoint) : readLine widths.index (line widths index endpoint) = endpoint := by
  let fromFile : Text := "(" ++ endpoint.file ++ ")"
  let fromDeclaration := Text.padRight widths.declaration endpoint.declaration ++ CodePoint.space :: fromFile
  let fromMethod := Text.padRight widths.method endpoint.method ++ CodePoint.space :: ("= " ++ fromDeclaration)
  let fromPath := Text.padRight widths.path endpoint.path ++ CodePoint.space :: fromMethod
  have written : line widths index endpoint =
      ("[" ++ Text.padLeft widths.index (Text.ofNat index) ++ "] ") ++ fromPath := by
    have gap : (" " : Text) = [CodePoint.space] := rfl
    have sign : (" = " : Text) = CodePoint.space :: "= " := rfl
    have opening : (" (" : Text) = CodePoint.space :: "(" := rfl
    simp only [line, fromPath, fromMethod, fromDeclaration, fromFile, gap, sign, opening, List.append_assoc,
      List.cons_append, List.nil_append]
  have first : (line widths index endpoint).drop (widths.index + 3) = fromPath := by
    rw [written]
    apply List.drop_left'
    simp only [List.length_append, Text.length_padLeft hold.index, show ("[" : Text).length = 1 from rfl,
      show ("] " : Text).length = 2 from rfl]
    omega
  have second : afterField fromPath = fromMethod := by
    apply afterField_padded plain.path
    obtain ⟨start, rest, method⟩ := List.exists_cons_of_ne_nil plain.named
    have visible : CodePoint.space ≠ start := fun same => plain.method (by simp [method, same])
    simp [fromMethod, method, Text.padRight, isSpace, visible.symm]
  have third : (afterField fromMethod).drop 2 = fromDeclaration := by
    rw [afterField_padded plain.method widths.method (by rintro _ ⟨⟩; rfl)]
    rfl
  have fourth : (afterField fromDeclaration).drop 1 = endpoint.file ++ ")" := by
    rw [afterField_padded plain.declaration widths.declaration (by rintro _ ⟨⟩; rfl)]
    rfl
  simp only [readLine, first, second, third, fourth]
  rw [field_padded plain.path, field_padded plain.method, field_padded plain.declaration,
    show (")" : Text) = [(')' : CodePoint)] from rfl, List.dropLast_concat]

theorem readLines_lines {endpoints : List Endpoint} (plain : ∀ endpoint ∈ endpoints, Plain endpoint) :
    readLines (lines endpoints) = Endpoint.sorted endpoints := by
  have count : (lines endpoints).length = (Endpoint.sorted endpoints).length := by
    rw [length_lines, Endpoint.sorted, List.length_mergeSort]
  apply List.ext_getElem?
  intro position
  rw [readLines, List.getElem?_map]
  cases found : (Endpoint.sorted endpoints)[position]? with
  | none =>
    rw [List.getElem?_eq_none_iff] at found
    rw [List.getElem?_eq_none (count ▸ found), Option.map_none]
  | some endpoint =>
    have member : endpoint ∈ endpoints := List.mem_mergeSort.mp (List.mem_of_getElem? found)
    have width : (Text.ofNat (lines endpoints).length).length =
        (Widths.ofEndpoints (Endpoint.sorted endpoints)).index := by
      rw [count, Widths.ofEndpoints]
    rw [getElem?_lines found, Option.map_some, width, readLine_line (widths_hold found) (plain endpoint member)]

/-- The lines of a report stand in columns and hold whole endpoints; and lines of endpoints whose parts have no spaces
tell which endpoints these are. -/
theorem lines_aligned_and_distinct (endpoints : List Endpoint) :
    (lines endpoints).length = endpoints.length ∧
    (∃ columns : Columns, ∀ position endpoint, (Endpoint.sorted endpoints)[position]? = some endpoint ->
      ∃ line, (lines endpoints)[position]? = some line ∧ columns.Shown (position + 1) endpoint line) ∧
    ∀ others : List Endpoint, (∀ endpoint ∈ endpoints, Plain endpoint) -> (∀ endpoint ∈ others, Plain endpoint) ->
      lines endpoints = lines others -> Endpoint.sorted endpoints = Endpoint.sorted others := by
  refine ⟨length_lines endpoints, ?_, ?_⟩
  · refine ⟨(Widths.ofEndpoints (Endpoint.sorted endpoints)).columns, fun position endpoint found => ?_⟩
    exact ⟨_, getElem?_lines found, line_shown (widths_hold found)⟩
  · intro others plain othersPlain same
    rw [← readLines_lines plain, same, readLines_lines othersPlain]

theorem awkward_fields_told_apart :
    let first : Endpoint := { method := "=", path := "", declaration := "(A#m)", file := "a b" }
    let second : Endpoint := { method := "=", path := "=", declaration := "", file := "(A#m) (a b" }
    (∀ endpoint ∈ [first], Plain endpoint) ∧ (∀ endpoint ∈ [second], Plain endpoint) ∧ lines [first] ≠ lines [second] := by
  intro first second
  have plain : ∀ endpoint ∈ [first], Plain endpoint := by
    rintro endpoint (_ | ⟨_, ⟨⟩⟩)
    exact { path := by decide, method := by decide, declaration := by decide, named := by decide }
  have otherPlain : ∀ endpoint ∈ [second], Plain endpoint := by
    rintro endpoint (_ | ⟨_, ⟨⟩⟩)
    exact { path := by decide, method := by decide, declaration := by decide, named := by decide }
  refine ⟨plain, otherPlain, fun same => ?_⟩
  obtain ⟨-, -, distinct⟩ := lines_aligned_and_distinct [first]
  have ordered := distinct [second] plain otherPlain same
  rw [Endpoint.sorted, Endpoint.sorted, List.mergeSort_singleton, List.mergeSort_singleton] at ordered
  exact absurd ordered (by decide)

end Report

end RouteAtlas

import RouteAtlas.Syntax.Node
import RouteAtlas.Text.Blank
import RouteAtlas.Reading.Literal

set_option autoImplicit false

namespace RouteAtlas

/-- The value of a constant expression: a string, or a name that stands for something unknown. -/
inductive Value where
  | string (text : Text)
  | symbol (name : Text)
deriving DecidableEq, Repr

namespace Value

def string? : Value -> Option Text
  | string text => some text
  | symbol _ => none

def symbol? : Value -> Option Text
  | string _ => none
  | symbol name => some name

def append? : Option Value -> Option Value -> Option Value
  | some (string first), some (string second) => some (string (first ++ second))
  | _, _ => none

end Value

/-- The string constants recorded in a file. -/
structure Constants where
  ofTypes : List (Text × List (Text × Text))
  -- Name of a constant in any type; it has no value once it has been recorded twice.
  ofFile : List (Text × Option Text)
deriving DecidableEq, Repr

def alter {Entry : Type} (change : Option Entry -> Entry) (key : Text) : List (Text × Entry) -> List (Text × Entry)
  | [] => [(key, change none)]
  | (other, entry) :: rest =>
    if other = key then (other, change (some entry)) :: rest else (other, entry) :: alter change key rest

theorem lookup_alter_self {Entry : Type} (change : Option Entry -> Entry) (key : Text)
    (entries : List (Text × Entry)) :
    (alter change key entries).lookup key = some (change (entries.lookup key)) := by
  induction entries with
  | nil => simp [alter]
  | cons first rest ih =>
    obtain ⟨other, entry⟩ := first
    by_cases same : other = key
    · simp [alter, same]
    · have unseen : (key == other) = false := by simpa using Ne.symm same
      simp [alter, same, List.lookup_cons, unseen, ih]

theorem lookup_alter_of_ne {Entry : Type} (change : Option Entry -> Entry) (key other : Text)
    (entries : List (Text × Entry)) (apart : other ≠ key) :
    (alter change key entries).lookup other = entries.lookup other := by
  have unseen : (other == key) = false := by simpa using apart
  induction entries with
  | nil => simp [alter, List.lookup_cons, unseen]
  | cons first rest ih =>
    obtain ⟨known, entry⟩ := first
    by_cases same : known = key
    · simp [alter, same, List.lookup_cons, unseen]
    · simp [alter, same, List.lookup_cons, ih]

namespace Constants

def empty : Constants :=
  { ofTypes := [], ofFile := [] }

def inType? (constants : Constants) (type : Text) (name : Text) : Option Text :=
  (constants.ofTypes.lookup type).bind fun table => table.lookup name

def inFile? (constants : Constants) (name : Text) : Option Text :=
  (constants.ofFile.lookup name).join

def lookup? (constants : Constants) (owners : List Text) (name : Text) : Option Text :=
  match owners with
  | [] => constants.inFile? name
  | owner :: outer => (constants.inType? owner name).or (constants.lookup? outer name)

def declareType (constants : Constants) (type : Text) : Constants :=
  { constants with ofTypes := alter (fun table => table.getD []) type constants.ofTypes }

def record (constants : Constants) (type : Text) (name : Text) (value : Text) : Constants :=
  -- Records a constant: the first value counts for its type, and a second one withdraws it from the file.
  { ofTypes := alter (fun table => alter (fun known => known.getD value) name (table.getD [])) type constants.ofTypes
    ofFile := alter (fun known => if known.isSome then none else some value) name constants.ofFile }

def nameValue (constants : Constants) (owners : List Text) (name : Text) : Value :=
  match constants.lookup? owners name with
  | some value => .string value
  | none => .symbol name

def dottedValue (constants : Constants) (source : Text) : Value :=
  -- The value of a dotted name, given as its source text. Only its last two parts count.
  let parts := Text.lastTwo (Text.split CodePoint.dot (Text.compact source))
  match parts.1.bind fun type => constants.inType? type parts.2 with
  | some value => .string value
  | none => .symbol parts.2

def plus : Text :=
  "+"

mutual

def value? (constants : Constants) (owners : List Text) : Node -> Except LiteralError (Option Value)
  | ⟨.stringLiteral, text, _, _, _, _, _⟩ => (Literal.decode text).map fun decoded => decoded.map Value.string
  | ⟨.identifier, text, _, _, _, _, _⟩ => .ok (some (constants.nameValue owners text))
  | ⟨.fieldAccess, text, _, _, _, _, _⟩ => .ok (some (constants.dottedValue text))
  | ⟨.scopedIdentifier, text, _, _, _, _, _⟩ => .ok (some (constants.dottedValue text))
  | ⟨.parenthesizedExpression, _, _, _, _, _, children⟩ =>
    if (children.filter fun child => child.named && !child.isComment).length = 1 then
      onlyValue? constants owners children
    else .ok none
  | ⟨.binaryExpression, _, _, _, _, _, children⟩ =>
    let operator := (children.find? fun child => child.field = some .operator).elim [] Node.text
    let has := fun place => children.any fun child => child.field = some place
    if operator = plus && has .left && has .right then do
      let left <- operandValue? constants owners .left children
      let right <- operandValue? constants owners .right children
      return Value.append? left right
    else .ok none
  | _ => .ok none

def onlyValue? (constants : Constants) (owners : List Text) : List Node -> Except LiteralError (Option Value)
  | [] => .ok none
  | node :: rest =>
    if node.named && !node.isComment then value? constants owners node else onlyValue? constants owners rest

def operandValue? (constants : Constants) (owners : List Text) (field : Field) :
    List Node -> Except LiteralError (Option Value)
  | [] => .ok none
  | node :: rest =>
    if node.field = some field then value? constants owners node else operandValue? constants owners field rest

end

def recordDeclarator (owner : Text) (outer : List Text) (constants : Constants) (declarator : Node) :
    Except LiteralError Constants :=
  match declarator.child? .value with
  | none => .ok constants
  | some initializer => do
    match (<- constants.value? (owner :: outer) initializer).bind Value.string? with
    | some value => return constants.record owner (declarator.textAt .name) value
    | none => return constants

def recordField (owners : List Text) (constants : Constants) (node : Node) : Except LiteralError Constants :=
  match owners with
  | [] => .ok constants
  | owner :: outer =>
    if node.kind = .constantDeclaration || node.isFinal then
      (node.childrenAt .declarator).foldlM (recordDeclarator owner outer) (constants.declareType owner)
    else .ok constants

def ownersInside (parent : Option Kind) (owners : List Text) (node : Node) : List Text :=
  if node.kind.isTypeDeclaration then node.textAt .name :: owners
  else if node.kind.isAnonymousBody parent then [] :: owners
  else owners

mutual

def collect (parent : Option Kind) (owners : List Text) (constants : Constants) : Node ->
    Except LiteralError Constants
  | ⟨kind, text, line, named, field, missing, children⟩ =>
    let node : Node := ⟨kind, text, line, named, field, missing, children⟩
    if kind.isField then recordField owners constants node
    else collectAll kind (ownersInside parent owners node) constants children

def collectAll (parent : Kind) (owners : List Text) (constants : Constants) : List Node ->
    Except LiteralError Constants
  | [] => .ok constants
  | node :: rest => do
    let recorded <- if node.named then collect (some parent) owners constants node else .ok constants
    collectAll parent owners recorded rest

end

def ofRoot (root : Node) : Except LiteralError Constants :=
  collect none [] empty root

end Constants

end RouteAtlas

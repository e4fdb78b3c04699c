import RouteAtlas.Java.Grammar.Keywords

set_option autoImplicit false

namespace RouteAtlas.Java

/-- Whether an expression may be followed by the arrow of its own. In the label of a switch rule the arrow belongs to
the rule. -/
inductive ExpressionPlace where
  | ordinary
  | label
deriving DecidableEq, Repr

/-- The rules that refer to each other, at one depth of nesting. -/
structure Grammar where
  type : Rule
  typeArguments : Rule
  annotation : Rule
  expression : ExpressionPlace -> Rule
  operand : ExpressionPlace -> Rule
  elementValue : Rule
  arrayInitializer : Rule
  statement : Rule
  block : Rule
  switchBlock : Rule
  recordPattern : Rule
  classBody : Rule
  -- A type declaration after its modifiers.
  typeDeclaration : List Part -> Rule

def Grammar.exhausted : Grammar :=
  { type := Rule.failure
    typeArguments := Rule.failure
    annotation := Rule.failure
    expression := fun _ => Rule.failure
    operand := fun _ => Rule.failure
    elementValue := Rule.failure
    arrayInitializer := Rule.failure
    statement := Rule.failure
    block := Rule.failure
    switchBlock := Rule.failure
    recordPattern := Rule.failure
    classBody := Rule.failure
    typeDeclaration := fun _ => Rule.failure }

namespace Types

open Rule

def name : Rule :=
  -- A name with dots, each prefix of which is a node; a dot that no name follows is left unread.
  andThen identifier (extendMany fun left cursor =>
    if cursor.atSymbol "." && cursor.advance.word?.isSome then
      some (extend .scopedIdentifier left (seq [symbol ".", field .name identifier]))
    else none)

def typeIdentifier (keywords : List String) : Rule :=
  nameExcept (.other "type_identifier") keywords

def primitive : Rule :=
  choice [node (.other "void_type") (keyword "void"), node (.other "boolean_type") (keyword "boolean"),
    node (.other "floating_point_type") (anyKeyword ["float", "double"]),
    node (.other "integral_type") (anyKeyword ["byte", "short", "int", "long", "char"])]

def withArguments (g : Grammar) (left : List Part) : Rule :=
  ifAt (fun cursor => cursor.atSymbol "<") (choice [extend (.other "generic_type") left g.typeArguments, given left])
    (given left)

def classType (g : Grammar) (keywords : List String) : Rule :=
  andThen (andThen (typeIdentifier keywords) (withArguments g)) (extendMany fun left cursor =>
    if cursor.atSymbol "." && cursor.sees (seq [symbol ".", many g.annotation, typeIdentifier Keywords.afterDot])
        (fun _ => true) then
      some (andThen
        (extend (.other "scoped_type_identifier") left
          (seq [symbol ".", many g.annotation, typeIdentifier Keywords.afterDot]))
        (withArguments g))
    else none)

def simple (g : Grammar) (keywords : List String) : Rule :=
  ifAt (fun cursor => cursor.atAnyWord Keywords.primitiveTypes) primitive (classType g keywords)

def dimensions (g : Grammar) : Rule :=
  node (.other "dimensions") (many1 (seq [many g.annotation, symbol "[", symbol "]"]))

def atDimensions (cursor : Cursor) : Bool :=
  (cursor.atSymbol "[" && cursor.advance.atSymbol "]") || cursor.atSymbol "@"

def perhapsDimensions (g : Grammar) : Rule :=
  ifAt atDimensions (optional (dimensions g)) nothing

def unannotated (g : Grammar) (keywords : List String) : Rule :=
  andThen (simple g keywords) fun left =>
    ifAt atDimensions (choice [extend (.other "array_type") left (dimensions g), given left]) (given left)

def type (g : Grammar) : Rule :=
  ifAt (fun cursor => cursor.atSymbol "@")
    (node (.other "annotated_type") (seq [many1 g.annotation, unannotated g []]))
    (unannotated g [])

def wildcard (g : Grammar) : Rule :=
  node (.other "wildcard") (seq [many g.annotation, symbol "?",
    optional (seq [anyKeyword ["extends", "super"], g.type])])

def typeArguments (g : Grammar) : Rule :=
  node (.other "type_arguments")
    (seq [symbol "<", commas (choice [wildcard g, g.type]), symbol ">"])

def typeParameter (g : Grammar) : Rule :=
  node (.other "type_parameter") (seq [many g.annotation, typeIdentifier [],
    optional (node (.other "type_bound") (seq [keyword "extends", separated1 "&" g.type]))])

def typeParameters (g : Grammar) : Rule :=
  node (.other "type_parameters") (seq [symbol "<", commas1 (typeParameter g), symbol ">"])

def perhapsTypeParameters (g : Grammar) : Rule :=
  ifAt (fun cursor => cursor.atSymbol "<") (typeParameters g) nothing

def elementValuePair (g : Grammar) : Rule :=
  node .elementValuePair (seq [field .key (identifierExcept Keywords.values), symbol "=", field .value g.elementValue])

def annotationArguments (g : Grammar) : Rule :=
  node (.other "annotation_argument_list") (parens (ifAt (fun cursor => cursor.atSymbol ")") nothing
    (ifAt (fun cursor => cursor.word?.isSome && cursor.advance.atSymbol "=") (commas1 (elementValuePair g))
      g.elementValue)))

def oneAnnotation (g : Grammar) : Rule :=
  fun cursor =>
    if cursor.atSymbol "@" && !cursor.advance.atWord "interface" then
      andThen (seq [symbol "@", field .name name]) (fun left =>
        ifAt (fun place => place.atSymbol "(")
          (extend .annotationWithArguments left (field .arguments (annotationArguments g)))
          (extend .annotationMarker left nothing)) cursor
    else cursor.fail

def elementValue (g : Grammar) : Rule :=
  choose fun cursor =>
    if cursor.atSymbol "\x7b" then
      node .elementValueArray (braces (seq [commas g.elementValue, optional (symbol ",")]))
    else if cursor.atSymbol "@" then g.annotation
    else g.expression .ordinary

def atNonSealed (cursor : Cursor) : Bool :=
  match cursor.rest with
  | first :: dash :: second :: _ =>
    first.text = "non" && dash.text = "-" && second.text = "sealed" && dash.follows first && second.follows dash
  | _ => false

def atSealed (cursor : Cursor) : Bool :=
  cursor.atWord "sealed" && (cursor.advance.word?.isSome || cursor.advance.atSymbol "@")

def modifier (g : Grammar) : Rule :=
  choose fun cursor =>
    if cursor.atSymbol "@" then g.annotation
    else if atNonSealed cursor then seq [keyword "non", symbol "-", keyword "sealed"]
    else if atSealed cursor then keyword "sealed"
    else anyKeyword Keywords.modifiers

def modifiers (g : Grammar) : Rule :=
  fun cursor =>
    match many (modifier g) cursor with
    | .failed furthest => .failed furthest
    | .found [] after => .found [] after
    | .found parts after => .found [wrap .modifiers parts after] after

end Types

end RouteAtlas.Java

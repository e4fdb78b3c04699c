import RouteAtlas.Java.Grammar.Statements

set_option autoImplicit false

namespace RouteAtlas.Java

def grammar : Nat -> Grammar
  | 0 => Grammar.exhausted
  | depth + 1 => {
      type := fun cursor => Types.type (grammar depth) cursor
      typeArguments := fun cursor => Types.typeArguments (grammar depth) cursor
      annotation := fun cursor => Types.oneAnnotation (grammar depth) cursor
      expression := fun place cursor => Expressions.expression (grammar depth) place cursor
      operand := fun place cursor => Expressions.operand (grammar depth) place cursor
      elementValue := fun cursor => Types.elementValue (grammar depth) cursor
      arrayInitializer := fun cursor => Expressions.arrayInitializer (grammar depth) cursor
      statement := fun cursor => Statements.anyStatement (grammar depth) cursor
      block := fun cursor => Statements.block (grammar depth) cursor
      switchBlock := fun cursor => Statements.switchBlock (grammar depth) cursor
      recordPattern := fun cursor => Statements.recordPattern (grammar depth) cursor
      classBody := fun cursor => Declarations.classBody (grammar depth) cursor
      typeDeclaration := fun left cursor => Declarations.typeDeclaration (grammar depth) left cursor }

def depthFor (count : Nat) : Nat :=
  -- How deep a text of so many tokens can be nested: each token opens only a few rules inside each other.
  8 * count + 8

def unit (depth : Nat) : Rule :=
  Rule.node .program (Rule.many (Statements.topLevel (grammar depth)))

def readTokens (source : Array CodePoint) (tokens : List Token) : Except Nat Node :=
  -- What reading tokens gives: a tree of all of them, or the number of those before the first that cannot be used.
  let start : Cursor := { source := source, rest := tokens, last := none, position := 0, furthest := 0 }
  match unit (depthFor tokens.length) start with
  | .failed furthest => .error furthest
  | .found parts after =>
    match parts, after.rest with
    | [part], [] => .ok part.node
    | _, _ => .error (max after.furthest after.position)

end RouteAtlas.Java

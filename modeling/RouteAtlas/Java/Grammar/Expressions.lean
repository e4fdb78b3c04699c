import RouteAtlas.Java.Grammar.Types

set_option autoImplicit false

namespace RouteAtlas.Java.Expressions

open Rule

def afterParens? : Nat -> Cursor -> List Token -> Option Cursor
  -- The place after the parenthesis that closes the one here; the count is of those open.
  | _, _, [] => none
  | depth, cursor, token :: rest =>
    let next := cursor.advance
    if token.kind = .symbol && token.text = "(" then afterParens? (depth + 1) next rest
    else if token.kind = .symbol && token.text = ")" then
      if depth ≤ 1 then some next else afterParens? (depth - 1) next rest
    else afterParens? depth next rest

def parensBeforeArrow (cursor : Cursor) : Bool :=
  cursor.atSymbol "(" && (afterParens? 0 cursor cursor.rest).any fun after => after.atSymbol "->"

def atOperand (cursor : Cursor) : Bool :=
  match cursor.next? with
  | none => false
  | some token =>
    match token.kind with
    | .word => token.text ≠ "instanceof"
    | .literal | .stringStart => true
    | .symbol => ["(", "!", "~"].contains token.text
    | _ => false

def atPrefixedOperand (cursor : Cursor) : Bool :=
  match cursor.symbol? with
  | some "+" | some "-" => true
  | some "++" | some "--" => atOperand cursor.advance
  | _ => false

inductive CastForm where
  | simpleName
  | dottedName
  | otherType
deriving DecidableEq, Repr

def kinds (parts : List Part) : List Kind :=
  parts.map fun part => part.node.kind

def castForm (parts : List Part) : CastForm :=
  match kinds parts with
  | [.other "type_identifier"] => .simpleName
  | [.other "scoped_type_identifier"] => .dottedName
  | _ => .otherType

def atCast (g : Grammar) (cursor : Cursor) : Bool :=
  -- Whether a cast begins here. A name in parentheses is a type only if an operand follows; before a sign a name with
  -- dots is taken for a type and a name without dots is not.
  if !cursor.atSymbol "(" then false
  else match separated1 "&" g.type cursor.advance with
    | .failed _ => false
    | .found parts after =>
      if !after.atSymbol ")" then false
      else
        let behind := after.advance
        match castForm parts with
        | .simpleName =>
          atOperand behind || ((behind.atSymbol "++" || behind.atSymbol "--") && atOperand behind.advance)
        | .dottedName => atOperand behind || atPrefixedOperand behind
        | .otherType => atOperand behind || atPrefixedOperand behind

def assignmentOperators : List String :=
  ["=", "+=", "-=", "*=", "/=", "&=", "|=", "^=", "%=", "<<="]

def assignmentLength (cursor : Cursor) : Nat :=
  match cursor.rest with
  | first :: rest =>
    if first.kind ≠ .symbol then 0
    else if assignmentOperators.contains first.text then 1
    else if first.text = ">" then
      match rest with
      | second :: third :: fourth :: _ =>
        if second.text = ">" && second.follows first then
          if third.text = "=" && third.follows second then 3
          else if third.text = ">" && third.follows second && fourth.text = "=" && fourth.follows third then 4
          else 0
        else 0
      | _ => 0
    else 0
  | [] => 0

def tiers : List (String × Nat) :=
  [("*", 1), ("/", 1), ("%", 1), ("+", 2), ("-", 2), ("<<", 3), ("<", 4), ("<=", 4), ("==", 5), ("!=", 5), ("&", 6),
    ("^", 7), ("|", 8), ("&&", 9), ("||", 10)]

def relationTier : Nat :=
  4

def lastTier : Nat :=
  10

def binaryOperator? (cursor : Cursor) : Option (Nat × Nat) :=
  match cursor.rest with
  | first :: rest =>
    if first.kind ≠ .symbol then none
    else if first.text = ">" then
      match rest with
      | second :: third :: fourth :: _ =>
        if second.text = "=" && second.follows first then some (relationTier, 2)
        else if second.text = ">" && second.follows first then
          if third.text = ">" && third.follows second then
            if fourth.text = "=" && fourth.follows third then none else some (3, 3)
          else if third.text = "=" && third.follows second then none
          else some (3, 2)
        else some (relationTier, 1)
      | _ => some (relationTier, 1)
    else (tiers.lookup first.text).map fun tier => (tier, 1)
  | [] => none

def operator (count : Nat) : Rule :=
  fun cursor =>
    let taken := cursor.rest.take count
    let text := String.join (taken.map Token.text)
    match taken with
    | [] => cursor.fail
    | first :: _ =>
      let node : Node := {
        kind := .other text
        text := Text.ofString text
        line := first.line
        named := false
        field := some .operator
        missing := false
        children := [] }
      .found [{ node := node, start := first.start }] (cursor.advanceBy taken.length)

def parenthesized (g : Grammar) : Rule :=
  node .parenthesizedExpression (parens (g.expression .ordinary))

def arguments (g : Grammar) : Rule :=
  node (.other "argument_list") (parens (commas (g.expression .ordinary)))

def variableName (g : Grammar) : Rule :=
  seq [field .name identifier, Types.perhapsDimensions g]

def receiverParameter (g : Grammar) : Rule :=
  node (.other "receiver_parameter") (seq [many g.annotation, Types.unannotated g Keywords.memberStart,
    many (seq [identifierExcept ["this"], symbol "."]), keyword "this"])

def variableDeclarator (g : Grammar) : Rule :=
  node (.other "variable_declarator") (seq [variableName g,
    ifAt (fun cursor => cursor.atSymbol "=")
      (seq [symbol "=", field .value (ifAt (fun cursor => cursor.atSymbol "\x7b") g.arrayInitializer
        (g.expression .ordinary))])
      nothing])

def formalParameter (g : Grammar) : Rule :=
  andThen (seq [Types.modifiers g, Types.unannotated g Keywords.modifiers]) fun left =>
    ifAt (fun cursor => cursor.atSymbol "..." || cursor.atSymbol "@")
      (extend (.other "spread_parameter") left (seq [many g.annotation, symbol "...", many g.annotation,
        variableDeclarator g]))
      (extend (.other "formal_parameter") left (variableName g))

def formalParameters (g : Grammar) : Rule :=
  node (.other "formal_parameters") (parens (ifAt (fun cursor => cursor.sees (receiverParameter g) fun _ => true)
    (seq [receiverParameter g, many (seq [symbol ",", formalParameter g])])
    (commas (formalParameter g))))

def inferredParameters : Rule :=
  node (.other "inferred_parameters") (parens (commas1 identifier))

def atInferredParameters (cursor : Cursor) : Bool :=
  cursor.atSymbol "(" && cursor.advance.word?.isSome
    && (cursor.advance.advance.atSymbol "," || cursor.advance.advance.atSymbol ")")

def lambda (g : Grammar) : Rule :=
  node (.other "lambda_expression") (seq [
    ifAt (fun cursor => !cursor.atSymbol "(") identifier (ifAt atInferredParameters inferredParameters
      (formalParameters g)),
    symbol "->",
    ifAt (fun cursor => cursor.atSymbol "\x7b") g.block (g.expression .ordinary)])

def switchExpression (g : Grammar) : Rule :=
  node (.other "switch_expression") (seq [keyword "switch", parenthesized g, g.switchBlock])

def stringToken (kind : TokenKind) : Rule :=
  token (fun found => found.kind = kind) false fun found => .other found.text

def stringLiteral (g : Grammar) : Rule :=
  node .stringLiteral (seq [stringToken .stringStart,
    many (node (.other "string_interpolation")
      (seq [stringToken .embeddedStart, g.expression .ordinary, stringToken .embeddedEnd])),
    stringToken .stringEnd])

def literal : Rule :=
  token (fun found => found.kind = .literal) true fun _ => .other "literal"

def wordLiteral : Rule :=
  token (fun found => found.kind = .word && ["true", "false", "null"].contains found.text) true fun found =>
    .other found.text

def creation (g : Grammar) (left : List Part) : Rule :=
  andThen (seq [given left, keyword "new", many g.annotation,
      ifAt (fun cursor => cursor.atSymbol "<") g.typeArguments nothing, Types.simple g []]) fun parts =>
    ifAt (fun cursor => cursor.atSymbol "(")
      (extend .objectCreation parts (seq [field .arguments (arguments g),
        ifAt (fun cursor => cursor.atSymbol "\x7b") g.classBody nothing]))
      (extend (.other "array_creation_expression") parts
        (ifAt (fun cursor => cursor.sees (Types.dimensions g) fun _ => true)
          (seq [Types.dimensions g, g.arrayInitializer])
          (seq [many1 (guarded (fun cursor => !cursor.sees (Types.dimensions g) fun _ => true)
              (node (.other "dimensions_expr")
                (seq [many g.annotation, symbol "[", g.expression .ordinary, symbol "]"]))),
            Types.perhapsDimensions g])))

def reference (g : Grammar) (left : List Part) : Rule :=
  extend (.other "method_reference") left (seq [symbol "::",
    ifAt (fun cursor => cursor.atSymbol "<") g.typeArguments nothing,
    ifAt (fun cursor => cursor.atWord "new") (keyword "new") identifier])

def call (g : Grammar) (left : List Part) : Rule :=
  extend (.other "method_invocation") left (seq [
    ifAt (fun cursor => cursor.atSymbol "<") g.typeArguments nothing,
    field .name identifier, field .arguments (arguments g)])

def member (g : Grammar) (left : List Part) : Rule :=
  ifAt (fun cursor => cursor.atSymbol "<" || (cursor.word?.isSome && cursor.advance.atSymbol "(")) (call g left)
    (extend .fieldAccess left (identifierExcept Keywords.afterDot))

def afterDot (g : Grammar) (left : List Part) : Rule :=
  andThen (seq [given left, symbol "."]) fun parts =>
    choose fun cursor =>
      if cursor.atWord "new" then creation g parts
      else if cursor.atWord "class" then extend (.other "class_literal") parts (keyword "class")
      else if cursor.atWord "this" then extend .fieldAccess parts (node (.other "this") (keyword "this"))
      else if cursor.atWord "super" then
        andThen (seq [given parts, node (.other "super") (keyword "super"), symbol "."]) (member g)
      else if cursor.next?.any fun token => token.kind = .stringStart then
        extend (.other "template_expression") parts (stringLiteral g)
      else member g parts

def step (g : Grammar) (left : List Part) (cursor : Cursor) : Option Rule :=
  if cursor.atSymbol "." then
    if cursor.advance.atWord "super" && !cursor.advance.advance.atSymbol "." then none else some (afterDot g left)
  else if cursor.atSymbol "[" then
    some (extend (.other "array_access") left (seq [symbol "[", g.expression .ordinary, symbol "]"]))
  else if cursor.atSymbol "::" then some (reference g left)
  else none

def fromType (g : Grammar) : Rule :=
  andThen g.type fun left =>
    ifAt (fun cursor => cursor.atSymbol "::") (reference g left)
      (extend (.other "class_literal") left (seq [symbol ".", keyword "class"]))

def atTypeExpression (g : Grammar) (cursor : Cursor) : Bool :=
  cursor.word?.isSome
    && (cursor.atAnyWord Keywords.primitiveTypes
      || match g.type cursor with
        | .failed _ => false
        | .found parts after =>
          castForm parts = .otherType && (after.atSymbol "::" || (after.atSymbol "." && after.advance.atWord "class")))

def atom (g : Grammar) : Rule :=
  -- The first step of an expression: a literal, a name, a call, a creation or what stands in parentheses.
  choose fun cursor =>
    match cursor.next? with
    | none => failure
    | some token =>
      match token.kind with
      | .literal => literal
      | .stringStart => stringLiteral g
      | .symbol => parenthesized g
      | .word =>
        if ["true", "false", "null"].contains token.text then wordLiteral
        else if token.text = "this" then node (.other "this") (keyword "this")
        else if token.text = "super" then
          andThen (node (.other "super") (keyword "super")) fun left =>
            ifAt (fun place => place.atSymbol "::") (reference g left)
              (andThen (seq [given left, symbol "."]) (member g))
        else if token.text = "new" then creation g []
        else if atTypeExpression g cursor then fromType g
        else if cursor.advance.atSymbol "(" then call g []
        else identifierExcept Keywords.values
      | _ => failure

def primary (g : Grammar) : Rule :=
  andThen (atom g) (extendMany (step g))

def isAssignable (parts : List Part) : Bool :=
  match kinds parts with
  | [.identifier] | [.fieldAccess] | [.other "array_access"] => true
  | _ => false

def afterOperand (left : List Part) : Rule :=
  extendMany (fun parts cursor =>
    if cursor.atSymbol "++" || cursor.atSymbol "--" then
      some (extend (.other "update_expression") parts (choice [symbol "++", symbol "--"]))
    else none) left

def assignable (g : Grammar) (place : ExpressionPlace) : Rule :=
  andThen (primary g) fun left =>
    choose fun cursor =>
      let length := assignmentLength cursor
      if 0 < length && isAssignable left then
        extend (.other "assignment_expression") left (seq [operator length, field .right (g.expression place)])
      else afterOperand left

def operand (g : Grammar) (place : ExpressionPlace) : Rule :=
  choose fun cursor =>
    match cursor.symbol? with
    | some "+" | some "-" | some "!" | some "~" =>
      node (.other "unary_expression") (seq [operator 1, g.operand place])
    | some "++" | some "--" => node (.other "update_expression") (seq [operator 1, g.operand place])
    | some "(" =>
      if place = .ordinary && parensBeforeArrow cursor then lambda g
      else if atCast g cursor then
        node (.other "cast_expression") (seq [parens (separated1 "&" g.type), g.operand place])
      else assignable g place
    | _ =>
      if place = .ordinary && cursor.word?.isSome && cursor.advance.atSymbol "->" then lambda g
      else if cursor.atWord "switch" then switchExpression g
      else assignable g place

def typeTest (g : Grammar) (left : List Part) : Rule :=
  extend (.other "instanceof_expression") left (seq [keyword "instanceof",
    ifAt (fun cursor => cursor.atWord "final") (keyword "final") nothing,
    ifAt (fun cursor => cursor.sees g.recordPattern fun _ => true) g.recordPattern
      (seq [g.type, ifAt (fun cursor => cursor.word?.isSome && !cursor.atAnyWord ["instanceof", "when"])
        identifier nothing])])

def tier (g : Grammar) (place : ExpressionPlace) : Nat -> Rule
  | 0 => operand g place
  | below + 1 =>
    andThen (tier g place below) (extendMany fun left cursor =>
      if below + 1 = relationTier && cursor.atWord "instanceof" then some (typeTest g left)
      else match binaryOperator? cursor with
        | some (found, length) =>
          if found = below + 1 then
            some (extend .binaryExpression
              (left.map fun part => { part with node := { part.node with field := some .left } })
              (seq [operator length, field .right (tier g place below)]))
          else none
        | none => none)

def expression (g : Grammar) (place : ExpressionPlace) : Rule :=
  andThen (tier g place lastTier) fun left =>
    ifAt (fun cursor => cursor.atSymbol "?")
      (extend (.other "ternary_expression") left
        (seq [symbol "?", g.expression .ordinary, symbol ":", g.expression place]))
      (given left)

def arrayInitializer (g : Grammar) : Rule :=
  node (.other "array_initializer") (braces (seq [
    commas (ifAt (fun cursor => cursor.atSymbol "\x7b") g.arrayInitializer (g.expression .ordinary)),
    optional (symbol ",")]))

end RouteAtlas.Java.Expressions

import RouteAtlas.Java.Grammar.Declarations

set_option autoImplicit false

namespace RouteAtlas.Java.Statements

open Rule

def semicolon : Rule :=
  symbol ";"

def statement (kind : String) (rules : List Rule) : Rule :=
  node (.other kind) (seq rules)

def anyExpression (g : Grammar) : Rule :=
  g.expression .ordinary

def perhapsExpression (g : Grammar) : Rule :=
  ifAt (fun cursor => cursor.atSymbol ";") nothing (anyExpression g)

def block (g : Grammar) : Rule :=
  node (.other "block") (braces (many g.statement))

def atVariable (g : Grammar) (keywords : List String) (cursor : Cursor) : Bool :=
  cursor.sees (Types.unannotated g keywords) fun after => after.word?.isSome && !after.atWord "instanceof"

def typeKeywords (modifiers : List Part) : List String :=
  -- Keywords at the start of a type after modifiers, or at the start of a statement if there are none.
  if modifiers.isEmpty then Keywords.statementTypeStart else Keywords.memberStart

def declaredVariables (g : Grammar) (left : List Part) : Rule :=
  extend (.other "local_variable_declaration") left
    (seq [Types.unannotated g (typeKeywords left), Declarations.declarators g, semicolon])

def perhapsExpressions (g : Grammar) : Rule :=
  commas (anyExpression g)

def sequenceVariable (g : Grammar) : Rule :=
  seq [Types.modifiers g, Types.unannotated g Keywords.memberStart, Expressions.variableName g, symbol ":"]

def forStatement (g : Grammar) : Rule :=
  andThen (seq [keyword "for", symbol "("]) fun left =>
    ifAt (fun cursor => cursor.sees (sequenceVariable g) fun _ => true)
      (extend (.other "enhanced_for_statement") left
        (seq [sequenceVariable g, anyExpression g, symbol ")", g.statement]))
      (extend (.other "for_statement") left (seq [
        andThen (Types.modifiers g) fun modifiers =>
          ifAt (fun cursor => !modifiers.isEmpty || atVariable g Keywords.statementTypeStart cursor)
            (declaredVariables g modifiers)
            (seq [ifAt (fun cursor => cursor.atSymbol ";") nothing (perhapsExpressions g), semicolon]),
        perhapsExpression g, semicolon,
        ifAt (fun cursor => cursor.atSymbol ")") nothing (perhapsExpressions g), symbol ")", g.statement]))

def catchClause (g : Grammar) : Rule :=
  statement "catch_clause" [keyword "catch", parens (node (.other "catch_formal_parameter") (seq [Types.modifiers g,
    node (.other "catch_type") (separated1 "|" (Types.unannotated g Keywords.modifiers)), Expressions.variableName g])),
    g.block]

def finallyClause (g : Grammar) : Rule :=
  statement "finally_clause" [keyword "finally", g.block]

def catches (g : Grammar) : Rule :=
  many (guarded (fun cursor => cursor.atWord "catch") (catchClause g))

def perhapsFinally (g : Grammar) : Rule :=
  ifAt (fun cursor => cursor.atWord "finally") (finallyClause g) nothing

def resource (g : Grammar) : Rule :=
  node (.other "resource") (andThen (Types.modifiers g) fun left =>
    ifAt (fun cursor => !left.isEmpty || atVariable g Keywords.statementTypeStart cursor)
      (seq [given left, Types.unannotated g Keywords.memberStart, Expressions.variableName g, symbol "=",
        anyExpression g])
      (Expressions.primary g))

def resources (g : Grammar) : Rule :=
  node (.other "resource_specification") (parens (seq [resource g,
    many (guarded (fun cursor => !cursor.advance.atSymbol ")") (seq [semicolon, resource g])), optional semicolon]))

def tryStatement (g : Grammar) : Rule :=
  andThen (keyword "try") fun left =>
    ifAt (fun cursor => cursor.atSymbol "(")
      (extend (.other "try_with_resources_statement") left (seq [resources g, g.block, catches g, perhapsFinally g]))
      (extend (.other "try_statement") left (seq [g.block,
        ifAt (fun cursor => cursor.atWord "finally") (finallyClause g)
          (seq [catchClause g, catches g, perhapsFinally g])]))

def typePattern (g : Grammar) : Rule :=
  node (.other "type_pattern") (seq [Types.unannotated g Keywords.values, identifier])

def patternComponent (g : Grammar) : Rule :=
  choose fun cursor =>
    if cursor.atWord "_" && !cursor.advance.word?.isSome then identifier
    else if cursor.sees g.recordPattern fun _ => true then g.recordPattern
    else node (.other "record_pattern_component") (seq [Types.unannotated g [], identifier])

def recordPattern (g : Grammar) : Rule :=
  node (.other "record_pattern") (seq [
    andThen (Types.typeIdentifier Keywords.values) (Types.withArguments g),
    node (.other "record_pattern_body") (parens (commas (patternComponent g)))])

def endsLabel (cursor : Cursor) : Bool :=
  cursor.atSymbol "->" || cursor.atSymbol ":" || cursor.atWord "when"

def labelValues (g : Grammar) : Rule :=
  choose fun cursor =>
    if cursor.sees (typePattern g) endsLabel then node (.other "pattern") (typePattern g)
    else if cursor.sees g.recordPattern endsLabel then node (.other "pattern") g.recordPattern
    else commas1 (g.expression .label)

def guardClause (g : Grammar) : Rule :=
  ifAt (fun cursor => cursor.atWord "when") (statement "guard" [keyword "when", g.expression .label]) nothing

def switchLabel (g : Grammar) : Rule :=
  node (.other "switch_label") (ifAt (fun cursor => cursor.atWord "default") (keyword "default")
    (seq [keyword "case", labelValues g, guardClause g]))

def atLabel (cursor : Cursor) : Bool :=
  cursor.atWord "case"
    || (cursor.atWord "default" && (cursor.advance.atSymbol ":" || cursor.advance.atSymbol "->"))

def expressionStatement (g : Grammar) : Rule :=
  statement "expression_statement" [anyExpression g, semicolon]

def throwStatement (g : Grammar) : Rule :=
  statement "throw_statement" [keyword "throw", anyExpression g, semicolon]

def ruleBody (g : Grammar) : Rule :=
  choose fun cursor =>
    if cursor.atSymbol "\x7b" then g.block
    else if cursor.atWord "throw" then throwStatement g
    else expressionStatement g

def labelledGroup (g : Grammar) : Rule :=
  statement "switch_block_statement_group" [many1 (guarded atLabel (seq [switchLabel g, symbol ":"])),
    many (guarded (fun cursor => !atLabel cursor) g.statement)]

def switchRule (g : Grammar) : Rule :=
  statement "switch_rule" [switchLabel g, symbol "->", ruleBody g]

def switchBlock (g : Grammar) : Rule :=
  node (.other "switch_block") (braces (ifAt
    (fun cursor => cursor.sees (switchLabel g) fun after => after.atSymbol "->")
    (many (switchRule g)) (many (labelledGroup g))))

def atPackage (left : List Part) (cursor : Cursor) : Bool :=
  -- A package is declared here. After one annotation the keyword cannot be a type; after several it is one if a simple
  -- name follows, and after other modifiers always.
  let marks := left.flatMap fun part => part.node.children
  cursor.atWord "package" && marks.all (fun mark => mark.kind.isAnnotation)
    && (marks.length ≤ 1 || !cursor.advance.advance.atSymbol ";")

def packageDeclaration (left : List Part) : Rule :=
  extend .packageDeclaration left (seq [keyword "package", Types.name, semicolon])

def importDeclaration : Rule :=
  statement "import_declaration" [keyword "import", ifAt (fun cursor => cursor.atWord "static") (keyword "static")
    nothing, Types.name, ifAt (fun cursor => cursor.atSymbol ".") (seq [symbol ".",
      node (.other "asterisk") (symbol "*")]) nothing, semicolon]

def atModule (cursor : Cursor) : Bool :=
  let named := fun (place : Cursor) => place.atWord "module" && place.advance.word?.isSome
  named cursor || (cursor.atWord "open" && named cursor.advance)

def names (word : String) : Rule :=
  ifAt (fun cursor => cursor.atWord word) (seq [keyword word, commas1 Types.name]) nothing

def directive : Rule :=
  choose fun cursor =>
    if cursor.atWord "requires" then
      statement "requires_module_directive" [keyword "requires",
        many (guarded (fun place => place.atAnyWord ["transitive", "static"] && !place.advance.atSymbol ";")
          (anyKeyword ["transitive", "static"])), Types.name, semicolon]
    else if cursor.atWord "exports" then
      statement "exports_module_directive" [keyword "exports", Types.name, names "to", semicolon]
    else if cursor.atWord "opens" then
      statement "opens_module_directive" [keyword "opens", Types.name, names "to", semicolon]
    else if cursor.atWord "uses" then statement "uses_module_directive" [keyword "uses", Types.name, semicolon]
    else
      statement "provides_module_directive" [keyword "provides", Types.name, keyword "with", commas1 Types.name,
        semicolon]

def moduleDeclaration (left : List Part) : Rule :=
  extend (.other "module_declaration") left (seq [
    ifAt (fun cursor => cursor.atWord "open") (keyword "open") nothing, keyword "module", field .name Types.name,
    node (.other "module_body") (braces (many directive))])

def keywordStatement (g : Grammar) (word : String) : Rule :=
  match word with
  | "if" => statement "if_statement" [keyword "if", Expressions.parenthesized g, g.statement,
      ifAt (fun cursor => cursor.atWord "else") (seq [keyword "else", g.statement]) nothing]
  | "while" => statement "while_statement" [keyword "while", Expressions.parenthesized g, g.statement]
  | "for" => forStatement g
  | "do" => statement "do_statement" [keyword "do", g.statement, keyword "while", Expressions.parenthesized g,
      semicolon]
  | "switch" => Expressions.switchExpression g
  | "return" => statement "return_statement" [keyword "return", perhapsExpression g, semicolon]
  | "yield" => choice [statement "yield_statement" [keyword "yield", anyExpression g, semicolon],
      expressionStatement g]
  | "throw" => throwStatement g
  | "break" => statement "break_statement" [keyword "break", optional identifier, semicolon]
  | "continue" => statement "continue_statement" [keyword "continue", optional identifier, semicolon]
  | "assert" => statement "assert_statement" [keyword "assert", anyExpression g,
      ifAt (fun cursor => cursor.atSymbol ":") (seq [symbol ":", anyExpression g]) nothing, semicolon]
  | "synchronized" => statement "synchronized_statement" [keyword "synchronized", Expressions.parenthesized g, g.block]
  | "try" => tryStatement g
  | _ => failure

def atKeywordStatement (cursor : Cursor) : Bool :=
  cursor.atAnyWord Keywords.statements && (!cursor.atWord "synchronized" || cursor.advance.atSymbol "(")

def atName (cursor : Cursor) : Bool :=
  cursor.word?.any fun word => Keywords.values.contains word || !Keywords.statementStart.contains word

def declaration (g : Grammar) (left : List Part) : Rule :=
  choose fun cursor =>
    if Declarations.atTypeDeclaration cursor then g.typeDeclaration left
    else if atPackage left cursor then packageDeclaration left
    else if atModule cursor then moduleDeclaration left
    else if !left.isEmpty || atVariable g Keywords.statementTypeStart cursor then declaredVariables g left
    else if cursor.atWord "import" then importDeclaration
    else if !cursor.word?.isSome || atName cursor then expressionStatement g
    else failure

def anyStatement (g : Grammar) : Rule :=
  choose fun cursor =>
    if cursor.atSymbol "\x7b" then g.block
    else if cursor.atSymbol ";" then semicolon
    else if atKeywordStatement cursor then keywordStatement g (cursor.word?.getD "")
    else if atName cursor && cursor.advance.atSymbol ":" then
      statement "labeled_statement" [identifier, symbol ":", g.statement]
    else andThen (Types.modifiers g) (declaration g)

def topLevel (g : Grammar) : Rule :=
  ifAt atKeywordStatement g.statement (andThen (Types.modifiers g) fun left =>
    ifAt (fun cursor => cursor.atSymbol "<" || Declarations.atMethod g (typeKeywords left) cursor)
      (Declarations.method g left)
      (ifAt (fun _ => left.isEmpty) g.statement (declaration g left)))

end RouteAtlas.Java.Statements

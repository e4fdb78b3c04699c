import RouteAtlas.Java.Grammar.Expressions

set_option autoImplicit false

namespace RouteAtlas.Java.Declarations

open Rule

def semicolon : Rule :=
  symbol ";"

def typeList (g : Grammar) : Rule :=
  node (.other "type_list") (commas1 g.type)

def perhapsTypes (g : Grammar) (kind : String) (word : String) : Rule :=
  ifAt (fun cursor => cursor.atWord word) (node (.other kind) (seq [keyword word, typeList g])) nothing

def superclass (g : Grammar) : Rule :=
  ifAt (fun cursor => cursor.atWord "extends") (node (.other "superclass") (seq [keyword "extends", g.type])) nothing

def declarators (g : Grammar) : Rule :=
  field .declarator (commas1 (Expressions.variableDeclarator g))

def atMethod (g : Grammar) (keywords : List String) (cursor : Cursor) : Bool :=
  cursor.sees (seq [Types.unannotated g keywords, identifier]) fun after => after.atSymbol "("

def throwsClause (g : Grammar) : Rule :=
  ifAt (fun cursor => cursor.atWord "throws") (node (.other "throws") (seq [keyword "throws", commas1 g.type])) nothing

def method (g : Grammar) (left : List Part) : Rule :=
  -- A method after its modifiers; a single underscore is no name for it.
  extend .methodDeclaration left (seq [
    ifAt (fun cursor => cursor.atSymbol "<") (seq [Types.typeParameters g, many g.annotation]) nothing,
    Types.unannotated g Keywords.memberStart, field .name (identifierExcept ["_"]), Expressions.formalParameters g,
    Types.perhapsDimensions g, throwsClause g, ifAt (fun cursor => cursor.atSymbol ";") semicolon g.block])

def fields (g : Grammar) (kind : Kind) (left : List Part) : Rule :=
  extend kind left (seq [Types.unannotated g Keywords.memberStart, declarators g, semicolon])

def atRecord (cursor : Cursor) : Bool :=
  cursor.atWord "record" && cursor.advance.word?.isSome
    && (cursor.advance.advance.atSymbol "(" || cursor.advance.advance.atSymbol "<")

def atAnnotationType (cursor : Cursor) : Bool :=
  cursor.atSymbol "@" && cursor.advance.atWord "interface"

def atTypeDeclaration (cursor : Cursor) : Bool :=
  cursor.atAnyWord ["class", "interface", "enum"] || atRecord cursor || atAnnotationType cursor

def constructorCall (g : Grammar) : Rule :=
  node (.other "explicit_constructor_invocation") (seq [
    choice [seq [ifAt (fun cursor => cursor.atSymbol "<") g.typeArguments nothing, anyKeyword ["this", "super"]],
      seq [Expressions.primary g, symbol ".", ifAt (fun cursor => cursor.atSymbol "<") g.typeArguments nothing,
        keyword "super"]],
    Expressions.arguments g, semicolon])

def constructorBody (g : Grammar) : Rule :=
  node (.other "constructor_body") (braces (seq [
    ifAt (fun cursor => cursor.sees (constructorCall g) fun _ => true) (constructorCall g) nothing,
    many g.statement]))

def constructor (g : Grammar) (left : List Part) : Rule :=
  extend (.other "constructor_declaration") left (seq [Types.perhapsTypeParameters g,
    field .name (identifierExcept Keywords.memberStart), Expressions.formalParameters g, throwsClause g,
    constructorBody g])

def isStatic (parts : List Part) : Bool :=
  parts.any fun part => part.node.children.map Node.kind = [.other "static"]

def atConstructor (g : Grammar) (cursor : Cursor) : Bool :=
  cursor.sees (seq [Types.perhapsTypeParameters g, identifierExcept Keywords.memberStart]) fun after =>
    after.atSymbol "("

def classMember (g : Grammar) (left : List Part) : Rule :=
  choose fun cursor =>
    if atTypeDeclaration cursor then g.typeDeclaration left
    else if cursor.atSymbol ";" && left.isEmpty then semicolon
    else if cursor.atSymbol "\x7b" then
      if left.isEmpty then g.block
      else if isStatic left then
        extend (.other "static_initializer") left g.block
      else failure
    else if cursor.word?.isSome && !cursor.atAnyWord Keywords.memberStart && cursor.advance.atSymbol "\x7b" then
      extend (.other "compact_constructor_declaration") left (seq [field .name identifier, g.block])
    else if atConstructor g cursor then constructor g left
    else if cursor.atSymbol "<" || atMethod g Keywords.memberStart cursor then method g left
    else fields g .fieldDeclaration left

def interfaceMember (g : Grammar) (left : List Part) : Rule :=
  choose fun cursor =>
    if atTypeDeclaration cursor then g.typeDeclaration left
    else if cursor.atSymbol ";" && left.isEmpty then semicolon
    else if cursor.atSymbol "<" || atMethod g Keywords.memberStart cursor then method g left
    else fields g .constantDeclaration left

def element (g : Grammar) (left : List Part) : Rule :=
  extend (.other "annotation_type_element_declaration") left (seq [Types.unannotated g Keywords.memberStart,
    field .name identifier, symbol "(", symbol ")", Types.perhapsDimensions g,
    ifAt (fun cursor => cursor.atWord "default") (seq [keyword "default", field .value g.elementValue]) nothing,
    semicolon])

def annotationTypeMember (g : Grammar) (left : List Part) : Rule :=
  choose fun cursor =>
    if atRecord cursor then failure
    else if atTypeDeclaration cursor then g.typeDeclaration left
    else if cursor.atSymbol ";" && left.isEmpty then semicolon
    else if atMethod g Keywords.memberStart cursor then element g left
    else fields g .constantDeclaration left

def members (g : Grammar) (member : List Part -> Rule) : Rule :=
  many (andThen (Types.modifiers g) member)

def classBody (g : Grammar) : Rule :=
  node .classBody (braces (members g (classMember g)))

def interfaceBody (g : Grammar) : Rule :=
  node .interfaceBody (braces (members g (interfaceMember g)))

def annotationTypeBody (g : Grammar) : Rule :=
  node .annotationTypeBody (braces (members g (annotationTypeMember g)))

def enumConstant (g : Grammar) : Rule :=
  andThen (Types.modifiers g) fun left =>
    extend .enumConstant left (seq [field .name (identifierExcept Keywords.modifiers),
      ifAt (fun cursor => cursor.atSymbol "(") (field .arguments (Expressions.arguments g)) nothing,
      ifAt (fun cursor => cursor.atSymbol "\x7b") g.classBody nothing])

def enumBody (g : Grammar) : Rule :=
  node .enumBody (braces (seq [commas (enumConstant g), optional (symbol ","),
    ifAt (fun cursor => cursor.atSymbol ";") (node .enumBodyDeclarations (seq [semicolon, members g (classMember g)]))
      nothing]))

def classDeclaration (g : Grammar) (left : List Part) : Rule :=
  extend .classDeclaration left (seq [keyword "class", field .name identifier, Types.perhapsTypeParameters g,
    superclass g, perhapsTypes g "super_interfaces" "implements", perhapsTypes g "permits" "permits", g.classBody])

def recordDeclaration (g : Grammar) (left : List Part) : Rule :=
  extend .recordDeclaration left (seq [keyword "record", field .name identifier, Types.perhapsTypeParameters g,
    Expressions.formalParameters g, perhapsTypes g "super_interfaces" "implements", g.classBody])

def interfaceDeclaration (g : Grammar) (left : List Part) : Rule :=
  extend .interfaceDeclaration left (seq [keyword "interface", field .name identifier, Types.perhapsTypeParameters g,
    perhapsTypes g "extends_interfaces" "extends", perhapsTypes g "permits" "permits", interfaceBody g])

def enumDeclaration (g : Grammar) (left : List Part) : Rule :=
  extend .enumDeclaration left (seq [keyword "enum", field .name identifier,
    perhapsTypes g "super_interfaces" "implements", enumBody g])

def annotationTypeDeclaration (g : Grammar) (left : List Part) : Rule :=
  extend .annotationTypeDeclaration left (seq [symbol "@", keyword "interface", field .name identifier,
    annotationTypeBody g])

def typeDeclaration (g : Grammar) (left : List Part) : Rule :=
  choose fun cursor =>
    if cursor.atWord "class" then classDeclaration g left
    else if cursor.atWord "interface" then interfaceDeclaration g left
    else if cursor.atWord "enum" then enumDeclaration g left
    else if atRecord cursor then recordDeclaration g left
    else annotationTypeDeclaration g left

end RouteAtlas.Java.Declarations

set_option autoImplicit false

namespace RouteAtlas

inductive Kind where
  | program
  | packageDeclaration
  | classDeclaration
  | interfaceDeclaration
  | enumDeclaration
  | recordDeclaration
  | annotationTypeDeclaration
  | classBody
  | interfaceBody
  | enumBody
  | enumBodyDeclarations
  | annotationTypeBody
  | objectCreation
  | enumConstant
  | methodDeclaration
  | fieldDeclaration
  | constantDeclaration
  | modifiers
  | finalKeyword
  | annotationMarker
  | annotationWithArguments
  | elementValuePair
  | elementValueArray
  | identifier
  | scopedIdentifier
  | fieldAccess
  | stringLiteral
  | parenthesizedExpression
  | binaryExpression
  | lineComment
  | blockComment
  | comment
  | error
  | other (name : String)
deriving DecidableEq, Repr

namespace Kind

def named : List (String × Kind) :=
  [("program", program), ("package_declaration", packageDeclaration), ("class_declaration", classDeclaration),
    ("interface_declaration", interfaceDeclaration), ("enum_declaration", enumDeclaration),
    ("record_declaration", recordDeclaration), ("annotation_type_declaration", annotationTypeDeclaration),
    ("class_body", classBody), ("interface_body", interfaceBody), ("enum_body", enumBody),
    ("enum_body_declarations", enumBodyDeclarations), ("annotation_type_body", annotationTypeBody),
    ("object_creation_expression", objectCreation), ("enum_constant", enumConstant),
    ("method_declaration", methodDeclaration), ("field_declaration", fieldDeclaration),
    ("constant_declaration", constantDeclaration), ("modifiers", modifiers), ("final", finalKeyword),
    ("annotation", annotationWithArguments), ("marker_annotation", annotationMarker),
    ("element_value_pair", elementValuePair), ("element_value_array_initializer", elementValueArray),
    ("identifier", identifier), ("scoped_identifier", scopedIdentifier), ("field_access", fieldAccess),
    ("string_literal", stringLiteral), ("parenthesized_expression", parenthesizedExpression),
    ("binary_expression", binaryExpression), ("line_comment", lineComment), ("block_comment", blockComment),
    ("comment", comment), ("ERROR", error)]

def ofName (name : String) : Kind :=
  (named.lookup name).getD (other name)

def isTypeDeclaration : Kind -> Bool
  | classDeclaration | interfaceDeclaration | enumDeclaration | recordDeclaration | annotationTypeDeclaration => true
  | _ => false

def holdsMembers : Kind -> Bool
  -- A node whose type declarations are members, or stand at the top of the file; elsewhere they are local.
  | program | classBody | interfaceBody | enumBody | enumBodyDeclarations | annotationTypeBody => true
  | _ => false

def ownsAnonymousBody : Kind -> Bool
  | objectCreation | enumConstant => true
  | _ => false

def isAnonymousBody (parent : Option Kind) (kind : Kind) : Bool :=
  kind = classBody && parent.any ownsAnonymousBody

def holdsLocals (parent : Option Kind) : Bool :=
  parent.any fun outside => !outside.holdsMembers

def isField : Kind -> Bool
  | fieldDeclaration | constantDeclaration => true
  | _ => false

def isAnnotation : Kind -> Bool
  | annotationWithArguments | annotationMarker => true
  | _ => false

def isComment : Kind -> Bool
  | lineComment | blockComment | comment => true
  | _ => false

end Kind

inductive Field where
  | name
  | arguments
  | key
  | value
  | left
  | operator
  | right
  | declarator
  | other (label : String)
deriving DecidableEq, Repr

namespace Field

def named : List (String × Field) :=
  [("name", name), ("arguments", arguments), ("key", key), ("value", value), ("left", left), ("operator", operator),
    ("right", right), ("declarator", declarator)]

def ofLabel (label : String) : Field :=
  (named.lookup label).getD (other label)

end Field

end RouteAtlas

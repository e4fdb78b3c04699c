import RouteAtlas.Proofs.Sites
import RouteAtlas.Reading.Constants

set_option autoImplicit false

namespace RouteAtlas.Sketch

def leaf (kind : Kind) (field : Option Field) (text : Text) : Node :=
  ⟨kind, text, 1, true, field, false, []⟩

def branch (kind : Kind) (field : Option Field) (children : List Node) : Node :=
  ⟨kind, [], 1, true, field, false, children⟩

def file (types : List Node) : Node :=
  branch .program none types

def bare (field : Option Field) (name : Text) : Node :=
  leaf .identifier field name

def quoted (field : Option Field) (text : Text) : Node :=
  leaf .stringLiteral field (CodePoint.quote :: text ++ [CodePoint.quote])

def sum (left right : Node) : Node :=
  branch .binaryExpression (some .value) [left, leaf (.other "+") (some .operator) Constants.plus, right]

def body (members : List Node) : Node :=
  branch .classBody none members

def classOf (name : Text) (members : List Node) : Node :=
  branch .classDeclaration none [bare (some .name) name, body members]

def method (name : Text) : Node :=
  branch .methodDeclaration none [bare (some .name) name]

def declarator (name : Text) (initializer : Node) : Node :=
  branch (.other "variable_declarator") (some .declarator) [bare (some .name) name, initializer]

def constant (name : Text) (initializer : Node) : Node :=
  branch .fieldDeclaration none [branch .modifiers none [leaf .finalKeyword none []], declarator name initializer]

def marker (arguments : List Node) : Node :=
  branch .annotationWithArguments none
    [bare (some .name) ['M'], branch (.other "annotation_argument_list") (some .arguments) arguments]

def routed (name : Text) (arguments : List Node) : Node :=
  branch .methodDeclaration none [branch .modifiers none [marker arguments], bare (some .name) name]

def within (position : Nat) (name : Text) (members : List Node) (above : Trail) : Trail :=
  (1, body members) :: (position, classOf name members) :: above

end RouteAtlas.Sketch

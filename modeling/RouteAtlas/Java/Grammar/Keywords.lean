import RouteAtlas.Java.Grammar.Rule

set_option autoImplicit false

namespace RouteAtlas.Java.Keywords

def modifiers : List String :=
  ["public", "protected", "private", "abstract", "static", "final", "strictfp", "default", "synchronized", "native",
    "transient", "volatile"]

def primitiveTypes : List String :=
  ["byte", "short", "int", "long", "char", "float", "double", "boolean", "void"]

def values : List String :=
  primitiveTypes ++ ["this", "super", "new", "true", "false", "null", "switch"]

def contextual : List String :=
  ["open", "module", "record", "with", "sealed"]

def statements : List String :=
  ["if", "while", "for", "do", "switch", "return", "yield", "throw", "break", "continue", "assert", "synchronized",
    "try"]

def declarations : List String :=
  ["class", "interface", "enum", "package", "import"]

def statementStart : List String :=
  values ++ modifiers ++ statements ++ declarations

def statementTypeStart : List String :=
  statementStart ++ contextual

def memberStart : List String :=
  modifiers ++ primitiveTypes ++ ["class", "interface", "enum", "record", "sealed"]

def afterDot : List String :=
  ["class", "new", "super", "this"]

end RouteAtlas.Java.Keywords

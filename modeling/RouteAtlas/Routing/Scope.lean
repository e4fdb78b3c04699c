import RouteAtlas.Reading.Methods

set_option autoImplicit false

namespace RouteAtlas

/-- What one routing annotation declares. Without methods it leaves them open, without paths it adds none. -/
structure Scope where
  methods : List Text
  paths : List Text
deriving DecidableEq, Repr

def pairs {First Second : Type} (firsts : List First) (seconds : List Second) : List (First × Second) :=
  firsts.flatMap fun first => seconds.map fun second => (first, second)

namespace Scope

def pathKey : Text :=
  "path"

def methodKey : Text :=
  "method"

def ofUse (source : AnnotationUse) : Scope :=
  { methods := source.symbols methodKey
    paths := source.strings pathKey ++ source.strings AnnotationUse.defaultKey }

def ofMethod? (names : List Text) (method : Method) : Option (List Scope) :=
  (AnnotationUse.findNamed? names method.annotations).map fun own =>
    ((AnnotationUse.findNamed? names method.typeAnnotations).map ofUse).toList ++ [ofUse own]

def extendPaths (paths : List Text) (scope : Scope) : List Text :=
  if scope.paths.isEmpty then paths
  else (pairs paths scope.paths).map fun pair => pair.1 ++ pair.2

def foldPaths (scopes : List Scope) : List Text :=
  scopes.foldl extendPaths [[]]

def overrideMethods (methods : List Text) (scope : Scope) : List Text :=
  if scope.methods.isEmpty then methods else scope.methods

def foldMethods (scopes : List Scope) : List Text :=
  scopes.foldl overrideMethods []

end Scope

end RouteAtlas

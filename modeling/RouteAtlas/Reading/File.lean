import RouteAtlas.Reading.Walk

set_option autoImplicit false

namespace RouteAtlas

structure FileReading where
  package : Text
  constants : Constants
  methods : List Method
deriving DecidableEq, Repr

namespace FileReading

def packageIn? (declaration : Node) : Option Text :=
  (declaration.namedChildren.find? fun part => part.kind = .scopedIdentifier || part.kind = .identifier).map
    fun name => Text.compact name.text

def packageOf (root : Node) : Text :=
  ((root.namedChildren.filter fun child => child.kind = .packageDeclaration).findSome? packageIn?).getD []

def ofRoot (root : Node) : Except LiteralError FileReading := do
  let package := packageOf root
  let constants <- Constants.ofRoot root
  let methods <- Method.walk { package := package, constants := constants } root
  return { package := package, constants := constants, methods := methods }

end FileReading

end RouteAtlas

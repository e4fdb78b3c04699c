import RouteAtlas.Reading.Constants

set_option autoImplicit false

namespace RouteAtlas

/-- An annotation with its attributes, in the order in which their keys first appear. -/
structure AnnotationUse where
  name : Text
  attributes : List (Text × List Value)
deriving DecidableEq, Repr

namespace AnnotationUse

def defaultKey : Text :=
  "value"

def valuesOf (source : AnnotationUse) (key : Text) : List Value :=
  (source.attributes.lookup key).getD []

def strings (source : AnnotationUse) (key : Text) : List Text :=
  (source.valuesOf key).filterMap Value.string?

def symbols (source : AnnotationUse) (key : Text) : List Text :=
  (source.valuesOf key).filterMap Value.symbol?

def findNamed? (names : List Text) (sources : List AnnotationUse) : Option AnnotationUse :=
  sources.find? fun source => names.contains source.name

mutual

def elementValues (constants : Constants) (owners : List Text) : Node -> Except LiteralError (List Value)
  | ⟨kind, text, line, named, field, missing, children⟩ =>
    if kind = .elementValueArray then arrayValues constants owners children
    else if kind.isComment then .ok []
    else (constants.value? owners ⟨kind, text, line, named, field, missing, children⟩).map Option.toList

def arrayValues (constants : Constants) (owners : List Text) : List Node -> Except LiteralError (List Value)
  | [] => .ok []
  | node :: rest => do
    let values <- if node.named then elementValues constants owners node else .ok []
    let others <- arrayValues constants owners rest
    return values ++ others

end

def argumentParts (argument : Node) : Text × Option Node :=
  if argument.kind = .elementValuePair then (argument.textAt .key, argument.child? .value)
  else (defaultKey, some argument)

def addArgument (constants : Constants) (owners : List Text) (attributes : List (Text × List Value))
    (argument : Node) : Except LiteralError (List (Text × List Value)) :=
  if argument.isComment then .ok attributes
  else do
    let parts := argumentParts argument
    let values <- parts.2.elim (.ok []) (elementValues constants owners)
    return alter (fun known => known.getD [] ++ values) parts.1 attributes

def ofNode (constants : Constants) (owners : List Text) (node : Node) : Except LiteralError AnnotationUse := do
  let arguments := (node.child? .arguments).elim [] Node.namedChildren
  let attributes <- arguments.foldlM (addArgument constants owners) []
  return { name := Text.compact (node.textAt .name), attributes := attributes }

def ofDeclaration (constants : Constants) (owners : List Text) (node : Node) :
    Except LiteralError (List AnnotationUse) :=
  node.annotationNodes.mapM (ofNode constants owners)

end AnnotationUse

end RouteAtlas

import RouteAtlas.Reading.AnnotationUse

set_option autoImplicit false

namespace RouteAtlas

structure Method where
  name : Text
  type : Text
  annotations : List AnnotationUse
  typeAnnotations : List AnnotationUse
  line : Nat
deriving DecidableEq, Repr

namespace Method

def id (method : Method) : Text :=
  method.type ++ CodePoint.hash :: method.name

end Method

structure TypeFrame where
  fullName : Text
  -- Simple names of the named types around a member, innermost first.
  owners : List Text
  annotations : List AnnotationUse
deriving DecidableEq, Repr

/-- How many local types of each name a type holds so far; anonymous types count under the empty name. -/
abbrev LocalCounts := List (Text × Nat)

namespace LocalCounts

def count (counts : LocalCounts) (name : Text) : Nat :=
  (counts.lookup name).getD 0

def increment (counts : LocalCounts) (name : Text) : LocalCounts :=
  alter (fun known => known.getD 0 + 1) name counts

end LocalCounts

namespace TypeFrame

def topName (package : Text) (name : Text) : Text :=
  if package.isEmpty then name else package ++ CodePoint.dot :: name

def memberName (outer : Text) (name : Text) : Text :=
  outer ++ CodePoint.dollar :: name

def numberedName (outer : Text) (number : Nat) (name : Text) : Text :=
  memberName outer (Text.ofNat number ++ name)

end TypeFrame

structure FileContext where
  package : Text
  constants : Constants

/-- Where a node stands: in which type, if any, and how many local types that type holds before the node. -/
structure Place where
  frame : Option TypeFrame
  counts : LocalCounts

namespace Place

def top : Place :=
  { frame := none, counts := [] }

def nameType (file : FileContext) (isLocal : Bool) (place : Place) (name : Text) : Text × LocalCounts :=
  -- The full name of a named type that stands at a place, and the counts of the place after it.
  match place.frame with
  | none => (TypeFrame.topName file.package name, place.counts)
  | some outer =>
    if isLocal then
      let counts := place.counts.increment name
      (TypeFrame.numberedName outer.fullName (counts.count name) name, counts)
    else (TypeFrame.memberName outer.fullName name, place.counts)

def enterNamed (file : FileContext) (isLocal : Bool) (place : Place) (node : Node) :
    Except LiteralError (Place × LocalCounts) :=
  let name := node.textAt .name
  let owners := place.frame.elim [] TypeFrame.owners
  let named := place.nameType file isLocal name
  (AnnotationUse.ofDeclaration file.constants owners node).map fun annotations =>
    let frame := { fullName := named.1, owners := name :: owners, annotations := annotations }
    ({ frame := some frame, counts := [] }, named.2)

def enterAnonymous (outer : TypeFrame) (counts : LocalCounts) : Place × LocalCounts :=
  let counts := counts.increment []
  let fullName := TypeFrame.numberedName outer.fullName (counts.count []) []
  ({ frame := some { fullName := fullName, owners := outer.owners, annotations := [] }, counts := [] }, counts)

end Place

namespace Method

def ofNode (file : FileContext) (frame : TypeFrame) (node : Node) : Except LiteralError Method := do
  let annotations <- AnnotationUse.ofDeclaration file.constants frame.owners node
  return {
    name := node.textAt .name
    type := frame.fullName
    annotations := annotations
    typeAnnotations := frame.annotations
    line := node.line }

mutual

def list (file : FileContext) (parent : Option Kind) (place : Place) : Node ->
    Except LiteralError (List Method × LocalCounts)
  | ⟨kind, text, line, named, field, missing, children⟩ => do
    let node : Node := ⟨kind, text, line, named, field, missing, children⟩
    if kind.isTypeDeclaration then
      let entered <- place.enterNamed file (Kind.holdsLocals parent) node
      let inside <- listAll file kind entered.1 children
      return (inside.1, entered.2)
    else match place.frame with
      | none => listAll file kind place children
      | some frame =>
        if kind.isAnonymousBody parent then
          let entered := Place.enterAnonymous frame place.counts
          let inside <- listAll file kind entered.1 children
          return (inside.1, entered.2)
        else
          let own <- if kind = .methodDeclaration then (ofNode file frame node).map fun method => [method] else .ok []
          let inside <- listAll file kind place children
          return (own ++ inside.1, inside.2)

def listAll (file : FileContext) (parent : Kind) (place : Place) : List Node ->
    Except LiteralError (List Method × LocalCounts)
  | [] => .ok ([], place.counts)
  | node :: rest => do
    let first <- if node.named then list file (some parent) place node else .ok ([], place.counts)
    let others <- listAll file parent { place with counts := first.2 } rest
    return (first.1 ++ others.1, others.2)

end

end Method

end RouteAtlas

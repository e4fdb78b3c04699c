import RouteAtlas.Text.Basic

set_option autoImplicit false

namespace RouteAtlas

/-- A path by its root, which is empty for a relative path, and its components. -/
structure Path where
  root : Text
  components : List Text
deriving DecidableEq, Repr

namespace Path

def current : Text :=
  [CodePoint.dot]

def parent : Text :=
  [CodePoint.dot, CodePoint.dot]

def rootOf (text : Text) : Text :=
  -- What the slashes at the start of a path mean: two of them are kept, any other number counts as one.
  match (text.takeWhile (· = CodePoint.slash)).length with
  | 0 => []
  | 2 => [CodePoint.slash, CodePoint.slash]
  | _ => [CodePoint.slash]

def ofText (text : Text) : Path :=
  { root := rootOf text
    components := (Text.split CodePoint.slash text).filter fun part => !part.isEmpty && part ≠ current }

def toText (path : Path) : Text :=
  -- The path as it is written; the empty path is a dot.
  if path.root.isEmpty && path.components.isEmpty then current
  else path.root ++ List.intercalate [CodePoint.slash] path.components

def child (path : Path) (name : Text) : Path :=
  { path with components := path.components ++ [name] }

def name (path : Path) : Text :=
  path.components.getLast?.getD []

def startsAtHome (path : Path) : Bool :=
  path.root.isEmpty && (path.components.headD []).head? = some ('~' : CodePoint)

end Path

end RouteAtlas

import RouteAtlas.Routing.Endpoint

set_option autoImplicit false

namespace RouteAtlas

/-- The endpoints found so far, and the annotated declarations for which no method is known. -/
structure Collection where
  endpoints : List Endpoint
  unresolved : List Text
deriving DecidableEq, Repr

namespace Collection

def empty : Collection :=
  { endpoints := [], unresolved := [] }

def size (collection : Collection) : Nat :=
  collection.endpoints.length

def append (first : Collection) (second : Collection) : Collection :=
  { endpoints := first.endpoints ++ second.endpoints
    unresolved := first.unresolved ++ second.unresolved }

def ofMethod (names : List Text) (file : Text) (method : Method) : Collection :=
  -- What one method contributes: nothing unless it is annotated, and its id alone if no method is known for it.
  match Scope.ofMethod? names method with
  | none => empty
  | some scopes =>
    match Endpoint.ofScopes scopes file method.id with
    | [] => { endpoints := [], unresolved := [method.id] }
    | found => { endpoints := found, unresolved := [] }

def addFile (names : List Text) (file : Text) (collection : Collection) (methods : List Method) : Collection :=
  methods.foldl (fun found method => found.append (ofMethod names file method)) collection

def addCounted (names : List Text) (file : Text) (collection : Collection) (methods : List Method) : Collection × Nat :=
  -- The collection after one file, and how many endpoints the file has added.
  let after := collection.addFile names file methods
  (after, after.size - collection.size)

end Collection

end RouteAtlas

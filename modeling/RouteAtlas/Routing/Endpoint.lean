import RouteAtlas.Routing.Scope

set_option autoImplicit false

namespace RouteAtlas

structure Endpoint where
  method : Text
  path : Text
  declaration : Text
  file : Text
deriving DecidableEq, Repr

namespace Endpoint

def ofScopes (scopes : List Scope) (file : Text) (declaration : Text) : List Endpoint :=
  (pairs (Scope.foldMethods scopes) (Scope.foldPaths scopes)).map fun pair =>
    { method := pair.1, path := pair.2, declaration := declaration, file := file }

def le (first : Endpoint) (second : Endpoint) : Bool :=
  if first.path = second.path then Text.le first.method second.method else Text.le first.path second.path

def sorted (endpoints : List Endpoint) : List Endpoint :=
  -- The endpoints in the order of reports; those with equal path and method keep their order.
  endpoints.mergeSort le

end Endpoint

end RouteAtlas

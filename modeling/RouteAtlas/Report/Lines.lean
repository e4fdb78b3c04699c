import RouteAtlas.Routing.Endpoint

set_option autoImplicit false

namespace RouteAtlas.Report

def widest (texts : List Text) : Nat :=
  (texts.map List.length).foldl max 0

structure Widths where
  index : Nat
  path : Nat
  method : Nat
  declaration : Nat
deriving DecidableEq, Repr

def Widths.ofEndpoints (endpoints : List Endpoint) : Widths :=
  { index := (Text.ofNat endpoints.length).length
    path := widest (endpoints.map Endpoint.path)
    method := widest (endpoints.map Endpoint.method)
    declaration := widest (endpoints.map Endpoint.declaration) }

def line (widths : Widths) (index : Nat) (endpoint : Endpoint) : Text :=
  "[" ++ Text.padLeft widths.index (Text.ofNat index) ++ "] "
    ++ Text.padRight widths.path endpoint.path ++ " "
    ++ Text.padRight widths.method endpoint.method ++ " = "
    ++ Text.padRight widths.declaration endpoint.declaration ++ " ("
    ++ endpoint.file ++ ")"

def lines (endpoints : List Endpoint) : List Text :=
  let ordered := Endpoint.sorted endpoints
  let widths := Widths.ofEndpoints ordered
  ordered.mapIdx fun index endpoint => line widths (index + 1) endpoint

def writtenLines (endpoints : List Endpoint) : List Text :=
  (lines endpoints).map fun text => text ++ [CodePoint.lineFeed]

end RouteAtlas.Report

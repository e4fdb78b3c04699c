import RouteAtlas.Routing.Endpoint

set_option autoImplicit false

namespace RouteAtlas.Report.Json

def hexDigit (value : Nat) : CodePoint :=
  if value < 10 then CodePoint.ofNat (0x30 + value) else CodePoint.ofNat (0x57 + value)

def shortEscapes : List (CodePoint × CodePoint) :=
  [('"', '"'), ('\\', '\\'), ('\n', 'n'), ('\r', 'r'), ('\t', 't'), ('\x08', 'b'), ('\x0C', 'f')]

def escaped (point : CodePoint) : Text :=
  match shortEscapes.lookup point with
  | some letter => [CodePoint.backslash, letter]
  | none =>
    if point.val < 0x20 then
      "\\u00" ++ [hexDigit (point.val / 16), hexDigit (point.val % 16)]
    else [point]

def quoted (text : Text) : Text :=
  CodePoint.quote :: text.flatMap escaped ++ [CodePoint.quote]

def members (endpoint : Endpoint) : List (Text × Text) :=
  [("http_method", endpoint.method), ("http_path", endpoint.path), ("file_path", endpoint.file),
    ("declaration_id", endpoint.declaration)]

def enclosed (opening : Text) (separator : Text) (closing : Text) (items : List (List Text)) : List Text :=
  opening :: (items.intersperse [separator]).flatten ++ [closing]

def memberPieces (member : Text × Text) : List Text :=
  [quoted member.1 ++ ": ", quoted member.2]

def objectPieces (endpoint : Endpoint) : List Text :=
  enclosed "\x7b\n    " ",\n    " "\n  \x7d" ((members endpoint).map memberPieces)

def writtenPieces (endpoints : List Endpoint) : List Text :=
  -- The document in the pieces in which it is written; the value of each member is a piece of its own.
  match Endpoint.sorted endpoints with
  | [] => ["[]\n"]
  | ordered => enclosed "[\n  " ",\n  " "\n]\n" (ordered.map objectPieces)

def document (endpoints : List Endpoint) : Text :=
  (writtenPieces endpoints).flatten

end RouteAtlas.Report.Json

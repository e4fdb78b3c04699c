import RouteAtlas.Text.Basic

set_option autoImplicit false

namespace RouteAtlas.Markup

def beginsTag (point : CodePoint) : Bool :=
  (0x61 ≤ point.val && point.val ≤ 0x7A) || (("#/@" : Text).contains point)

abbrev openBracket : CodePoint := '['
abbrev closeBracket : CodePoint := ']'

def opensTag : Text -> Bool
  | [] => false
  | first :: rest =>
    beginsTag first && (rest.find? fun point => point = openBracket || point = closeBracket) = some closeBracket

def withoutEscapes : Text -> Text
  | [] => []
  | point :: rest =>
    if point = CodePoint.backslash && rest.head? = some openBracket && !opensTag rest.tail then withoutEscapes rest
    else point :: withoutEscapes rest

def closingEscape (text : Text) : Text :=
  if (text.reverse.takeWhile (· = CodePoint.backslash)).length = 1 then [CodePoint.backslash] else []

def shown (text : Text) : Text :=
  withoutEscapes text ++ closingEscape text

end RouteAtlas.Markup

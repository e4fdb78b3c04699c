import RouteAtlas.Text.Digits

set_option autoImplicit false

namespace RouteAtlas

/-- Why a literal has no value that could be written down: a Unicode escape lacks its four digits. -/
inductive LiteralError where
  | unicodeEscape
deriving DecidableEq, Repr

namespace Literal

abbrev letterU : CodePoint := 'u'

/-- What stands after the backslash of an escape, with the number of code points that it takes. -/
structure Escape where
  value : CodePoint
  length : Nat
deriving DecidableEq, Repr

def letters : List (CodePoint × CodePoint) :=
  [('b', '\x08'), ('t', '\t'), ('n', '\n'), ('f', '\x0C'), ('r', '\r'), ('s', ' '), ('"', '"'), ('\'', '\''),
    ('\\', '\\')]

def unicodeEscape (text : Text) : Except LiteralError Escape :=
  let run := text.takeWhile (· = letterU)
  match Text.fourHexDigits? (text.drop run.length) with
  | some number => .ok ⟨CodePoint.ofNat number, run.length + 4⟩
  | none => .error .unicodeEscape

def octalEscape (text : Text) : Escape :=
  let digits := (text.take 3).takeWhile CodePoint.isOctalDigit
  ⟨CodePoint.ofNat (Text.octalValue digits), digits.length⟩

def escape (text : Text) : Except LiteralError Escape :=
  -- Reads what follows a backslash. Nothing follows one at the end of a literal, and it then stands for itself.
  match text with
  | [] => .ok ⟨CodePoint.backslash, 0⟩
  | point :: _ =>
    if point = letterU then unicodeEscape text
    else if point.isOctalDigit then .ok (octalEscape text)
    else .ok ⟨(letters.lookup point).getD point, 1⟩

def unescapeFrom : Nat -> Text -> Except LiteralError Text
  -- The value of the text between the quotes; the first argument counts code points that the last escape took.
  | _, [] => .ok []
  | taken + 1, _ :: rest => unescapeFrom taken rest
  | 0, point :: rest =>
    if point = CodePoint.backslash then do
      let found <- escape rest
      let value <- unescapeFrom found.length rest
      return found.value :: value
    else do
      let value <- unescapeFrom 0 rest
      return point :: value

def unescape (body : Text) : Except LiteralError Text :=
  unescapeFrom 0 body

def blockStart : Text :=
  [CodePoint.quote, CodePoint.quote, CodePoint.quote]

def decode (raw : Text) : Except LiteralError (Option Text) :=
  -- The value of a literal written with its quotes. A text block has none, nor has a text too short for two quotes.
  if raw.startsWith blockStart || raw.length < 2 then .ok none
  else (unescape (raw.drop 1).dropLast).map some

end Literal

end RouteAtlas

import RouteAtlas.Text.Digits

set_option autoImplicit false

namespace RouteAtlas.JsonGrammar

inductive Value where
  | null
  | boolean (value : Bool)
  | number (literal : Text)
  | string (text : Text)
  | array (items : List Value)
  | object (members : List (Text × Value))

abbrev comma : CodePoint := ','
abbrev colon : CodePoint := ':'
abbrev openBracket : CodePoint := '['
abbrev closeBracket : CodePoint := ']'
abbrev openBrace : CodePoint := '\x7b'
abbrev closeBrace : CodePoint := '\x7d'
abbrev letterU : CodePoint := 'u'

def isBlank (point : CodePoint) : Bool :=
  point = ' ' || point = '\t' || point = '\n' || point = '\r'

def Gap (text : Text) : Prop :=
  ∀ point ∈ text, isBlank point = true

def isDigit (point : CodePoint) : Bool :=
  0x30 ≤ point.val && point.val ≤ 0x39

def isDigits (text : Text) : Bool :=
  text ≠ [] && text.all isDigit

def afterSign (signs : Text) : Text -> Text
  | [] => []
  | first :: rest => if first ∈ signs then rest else first :: rest

def isExponent : Text -> Bool
  | [] => true
  | mark :: rest => (mark = 'e' || mark = 'E') && isDigits (afterSign ['+', '-'] rest)

def isFraction : Text -> Bool
  | [] => true
  | mark :: rest =>
    if mark = '.' then isDigits (rest.takeWhile isDigit) && isExponent (rest.dropWhile isDigit)
    else isExponent (mark :: rest)

def isUnsigned : Text -> Bool
  | [] => false
  | first :: rest =>
    if first = '0' then isFraction rest else isDigit first && isFraction (rest.dropWhile isDigit)

def isNumber (text : Text) : Bool :=
  isUnsigned (afterSign ['-'] text)

def isPlain (point : CodePoint) : Bool :=
  0x20 ≤ point.val && point ≠ CodePoint.quote && point ≠ CodePoint.backslash && !point.isSurrogate

def shortEscapes : List (CodePoint × CodePoint) :=
  [('"', '"'), ('\\', '\\'), ('/', '/'), ('b', '\x08'), ('f', '\x0C'), ('n', '\n'), ('r', '\r'), ('t', '\t')]

def isHigh (unit : Nat) : Bool :=
  0xD800 ≤ unit && unit < 0xDC00

def isLow (unit : Nat) : Bool :=
  0xDC00 ≤ unit && unit < 0xE000

def joined (high low : Nat) : CodePoint :=
  CodePoint.ofNat (0x10000 + (high - 0xD800) * 0x400 + (low - 0xDC00))

inductive CodeUnit : Text -> Nat -> Prop
  | intro {first second third fourth : CodePoint} {unit : Nat}
    (read : Text.fourHexDigits? [first, second, third, fourth] = some unit) :
    CodeUnit [CodePoint.backslash, letterU, first, second, third, fourth] unit

inductive Character : Text -> CodePoint -> Prop
  | plain {point : CodePoint} (itself : isPlain point = true) : Character [point] point
  | short {letter point : CodePoint} (meant : shortEscapes.lookup letter = some point) :
    Character [CodePoint.backslash, letter] point
  | unit {written : Text} {unit : Nat} (escape : CodeUnit written unit) (notHigh : isHigh unit = false)
    (notLow : isLow unit = false) : Character written (CodePoint.ofNat unit)
  | pair {first second : Text} {high low : Nat} (escape : CodeUnit first high) (next : CodeUnit second low)
    (isHigh : isHigh high = true) (isLow : isLow low = true) : Character (first ++ second) (joined high low)

inductive Characters : Text -> Text -> Prop
  | nil : Characters [] []
  | cons {written rest : Text} {point : CodePoint} {points : Text} (character : Character written point)
    (others : Characters rest points) : Characters (written ++ rest) (point :: points)

section

variable {α : Type}

inductive Padded (Item : Text -> α -> Prop) : Text -> α -> Prop
  | intro {before written after : Text} {value : α} (first : Gap before) (item : Item written value)
    (last : Gap after) : Padded Item (before ++ written ++ after) value

inductive Separated (Item : Text -> α -> Prop) : Text -> List α -> Prop
  | last {written : Text} {value : α} (item : Item written value) : Separated Item written [value]
  | more {written rest : Text} {value : α} {values : List α} (item : Item written value)
    (others : Separated Item rest values) : Separated Item (written ++ comma :: rest) (value :: values)

inductive Enclosed (opening closing : CodePoint) (Item : Text -> α -> Prop) : Text -> List α -> Prop
  | none {gap : Text} (blank : Gap gap) : Enclosed opening closing Item (opening :: (gap ++ [closing])) []
  | some {written : Text} {values : List α} (items : Separated Item written values) :
    Enclosed opening closing Item (opening :: (written ++ [closing])) values

end

inductive Named (Item : Text -> Value -> Prop) : Text -> Text × Value -> Prop
  | intro {written name between behind item : Text} {value : Value} (characters : Characters written name)
    (first : Gap between) (second : Gap behind) (meant : Item item value) :
    Named Item (CodePoint.quote :: (written ++ CodePoint.quote :: (between ++ colon :: (behind ++ item)))) (name, value)

/-- A text that begins and ends with a value, and that value. -/
inductive Denotes : Text -> Value -> Prop
  | null : Denotes "null" .null
  | truth : Denotes "true" (.boolean true)
  | falsehood : Denotes "false" (.boolean false)
  | number {literal : Text} (valid : isNumber literal = true) : Denotes literal (.number literal)
  | string {written text : Text} (characters : Characters written text) :
    Denotes (CodePoint.quote :: (written ++ [CodePoint.quote])) (.string text)
  | array {written : Text} {values : List Value}
    (items : Enclosed openBracket closeBracket (Padded Denotes) written values) : Denotes written (.array values)
  | object {written : Text} {members : List (Text × Value)}
    (items : Enclosed openBrace closeBrace (Padded (Named Denotes)) written members) : Denotes written (.object members)

/-- Readers read every JSON text for what it means. What they do with other texts is left to them. -/
def IsReader (read : Text -> Option Value) : Prop :=
  ∀ text value, Padded Denotes text value -> read text = some value

end RouteAtlas.JsonGrammar

import RouteAtlas.Text.Basic

set_option autoImplicit false

namespace RouteAtlas

namespace CodePoint

def isOctalDigit (point : CodePoint) : Bool :=
  0x30 ≤ point.val && point.val ≤ 0x37

def hexDigit? (point : CodePoint) : Option Nat :=
  if 0x30 ≤ point.val && point.val ≤ 0x39 then some (point.val - 0x30)
  else if 0x41 ≤ point.val && point.val ≤ 0x46 then some (point.val - 0x37)
  else if 0x61 ≤ point.val && point.val ≤ 0x66 then some (point.val - 0x57)
  else none

end CodePoint

namespace Text

def octalValue (digits : Text) : Nat :=
  digits.foldl (fun value digit => value * 8 + (digit.val - 0x30)) 0

def fourHexDigits? : Text -> Option Nat
  | first :: second :: third :: fourth :: _ => do
    let first <- first.hexDigit?
    let second <- second.hexDigit?
    let third <- third.hexDigit?
    let fourth <- fourth.hexDigit?
    return ((first * 16 + second) * 16 + third) * 16 + fourth
  | _ => none

end Text

end RouteAtlas

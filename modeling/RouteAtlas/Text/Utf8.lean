import RouteAtlas.Text.Basic

set_option autoImplicit false

namespace RouteAtlas.Utf8

/-- A character whose first bytes have been read: the value so far, how many bytes are missing, and in which range the
next one has to lie. -/
structure Begun where
  value : Nat
  missing : Nat
  low : Nat
  high : Nat
deriving DecidableEq, Repr

def replacement : Char :=
  Char.ofNat 0xFFFD

def begin? (byte : Nat) : Option Begun :=
  -- What a first byte begins, if it can begin a character of several bytes. The range of the byte after it keeps out
  -- surrogates, forms that are too long and numbers that are too large.
  if 0xC2 ≤ byte && byte ≤ 0xDF then some ⟨byte - 0xC0, 1, 0x80, 0xBF⟩
  else if byte = 0xE0 then some ⟨0, 2, 0xA0, 0xBF⟩
  else if byte = 0xED then some ⟨0xD, 2, 0x80, 0x9F⟩
  else if 0xE1 ≤ byte && byte ≤ 0xEF then some ⟨byte - 0xE0, 2, 0x80, 0xBF⟩
  else if byte = 0xF0 then some ⟨0, 3, 0x90, 0xBF⟩
  else if 0xF1 ≤ byte && byte ≤ 0xF3 then some ⟨byte - 0xF0, 3, 0x80, 0xBF⟩
  else if byte = 0xF4 then some ⟨4, 3, 0x80, 0x8F⟩
  else none

def start (byte : Nat) : List Char × Option Begun :=
  if byte < 0x80 then ([Char.ofNat byte], none)
  else match begin? byte with
    | some begun => ([], some begun)
    | none => ([replacement], none)

def step (pending : Option Begun) (byte : Nat) : List Char × Option Begun :=
  match pending with
  | none => start byte
  | some begun =>
    if begun.low ≤ byte && byte ≤ begun.high then
      let value := begun.value * 64 + (byte - 0x80)
      if begun.missing = 1 then ([Char.ofNat value], none)
      else ([], some ⟨value, begun.missing - 1, 0x80, 0xBF⟩)
    else
      let next := start byte
      (replacement :: next.1, next.2)

def decodeFrom : Option Begun -> List UInt8 -> List Char
  | none, [] => []
  | some _, [] => [replacement]
  | pending, byte :: rest =>
    let next := step pending byte.toNat
    next.1 ++ decodeFrom next.2 rest

def decode (bytes : List UInt8) : List Char :=
  decodeFrom none bytes

def pointLength (point : CodePoint) : Nat :=
  if point.val < 0x80 then 1 else if point.val < 0x800 then 2 else if point.val < 0x10000 then 3 else 4

def length (text : Text) : Nat :=
  text.foldl (fun total point => total + pointLength point) 0

end RouteAtlas.Utf8

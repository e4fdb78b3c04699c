import RouteAtlas.Text.Basic

set_option autoImplicit false

namespace RouteAtlas

def blankRanges : List (Nat × Nat) :=
  -- The code points that count as white space: controls with a line or field meaning, and the spaces of Unicode.
  [(0x09, 0x0D), (0x1C, 0x20), (0x85, 0x85), (0xA0, 0xA0), (0x1680, 0x1680), (0x2000, 0x200A), (0x2028, 0x2029),
    (0x202F, 0x202F), (0x205F, 0x205F), (0x3000, 0x3000)]

def CodePoint.isBlank (point : CodePoint) : Bool :=
  point.inRanges blankRanges

namespace Text

def compact (text : Text) : Text :=
  text.filter fun point => !point.isBlank

def trimLeft (text : Text) : Text :=
  text.dropWhile CodePoint.isBlank

def trimRight (text : Text) : Text :=
  (trimLeft text.reverse).reverse

def trim (text : Text) : Text :=
  trimRight (trimLeft text)

@[simp]
theorem compact_append (first second : Text) : compact (first ++ second) = compact first ++ compact second := by
  simp [compact]

end Text

end RouteAtlas

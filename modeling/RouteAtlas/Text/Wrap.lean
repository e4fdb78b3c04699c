import RouteAtlas.Text.Blank
import RouteAtlas.Text.Cells

set_option autoImplicit false

namespace RouteAtlas.Wrap

inductive LongWords where
  | cut
  | keep
deriving DecidableEq, Repr

def words (text : Text) : List Text :=
  -- Words, each with the blanks around it that belong to no earlier word; blanks alone make no word.
  let lead := text.takeWhile CodePoint.isBlank
  let groups := (text.dropWhile CodePoint.isBlank).splitBy fun first second => !first.isBlank || second.isBlank
  match groups with
  | [] => []
  | first :: rest => (lead ++ first) :: rest

def cutFrom (width : Nat) : Text -> Text -> List Text
  -- The pieces of a word, filled from the left; the second argument is the piece begun, in reverse.
  | piece, [] => [piece.reverse]
  | piece, point :: rest =>
    if piece.isEmpty || Text.cells piece + point.cells ≤ width then cutFrom width (point :: piece) rest
    else piece.reverse :: cutFrom width [point] rest

/-- Lines under construction: those finished, last first, the current one, and the cells that count as used in it. -/
structure Layout where
  finished : List Text
  current : Text
  used : Nat
deriving DecidableEq, Repr

namespace Layout

def empty : Layout :=
  { finished := [], current := [], used := 0 }

def startLine (layout : Layout) (text : Text) : Layout :=
  { finished := if layout.finished.isEmpty && layout.current.isEmpty then [] else layout.current :: layout.finished
    current := text
    used := text.cells }

def addWord (longWords : LongWords) (width : Nat) (layout : Layout) (word : Text) : Layout :=
  -- Writes one word, on the current line if it fits there. Blanks after a word never keep it from fitting.
  let length := Text.cells (Text.trimRight word)
  if layout.used + length ≤ width then
    { layout with current := layout.current ++ word, used := layout.used + word.cells }
  else if width < length && longWords = .cut then (cutFrom width [] word).foldl startLine layout
  else layout.startLine word

def lines (layout : Layout) : List Text :=
  (layout.current :: layout.finished).reverse

end Layout

def breakLines (longWords : LongWords) (width : Nat) (text : Text) : List Text :=
  match words text with
  | [] => [text]
  | found => (found.foldl (Layout.addWord longWords width) Layout.empty).lines

def dropExcess (width : Nat) (line : Text) : Text :=
  let blanks := (line.reverse.takeWhile CodePoint.isBlank).length
  line.take (line.length - min blanks (line.length - width))

def isLayoutControl (point : CodePoint) : Bool :=
  [0x07, 0x08, 0x0B, 0x0C, 0x0D].contains point.val

def tabSize : Nat :=
  8

def expandTabs : Nat -> Text -> Text
  | _, [] => []
  | column, point :: rest =>
    if point.val = 0x09 then
      let spaces := tabSize - column % tabSize
      List.replicate spaces CodePoint.space ++ expandTabs (column + spaces) rest
    else point :: expandTabs (column + point.cells) rest

def paragraphs (text : Text) : List Text :=
  (Text.split CodePoint.lineFeed (text.filter fun point => !isLayoutControl point)).map (expandTabs 0)

def wrapped (width : Nat) (text : Text) : List Text :=
  (paragraphs text).flatMap fun line =>
    (breakLines .cut width line).map fun piece => Text.takeCells width (dropExcess width piece)

end RouteAtlas.Wrap

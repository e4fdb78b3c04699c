import RouteAtlas.Routing.Endpoint
import RouteAtlas.Text.Wrap

set_option autoImplicit false

namespace RouteAtlas.Report.Table

inductive Alignment where
  | left
  | right
deriving DecidableEq, Repr

structure Column where
  title : Text
  alignment : Alignment
  wraps : Bool
deriving DecidableEq, Repr

def columns : List Column :=
  [{ title := "#", alignment := .right, wraps := false },
    { title := "PATH", alignment := .left, wraps := true },
    { title := "METHOD", alignment := .left, wraps := false },
    { title := "DECLARATION", alignment := .left, wraps := true },
    { title := "FILE", alignment := .left, wraps := true }]

def cellTexts (index : Nat) (endpoint : Endpoint) : List Text :=
  [Text.ofNat index, endpoint.path, endpoint.method, endpoint.declaration, endpoint.file]

def padding : Nat :=
  2

def available : Nat :=
  74

def endsMeasuredLine (point : CodePoint) : Bool :=
  (0x0A ≤ point.val && point.val ≤ 0x0D) || (0x1C ≤ point.val && point.val ≤ 0x1E)
    || [0x85, 0x2028, 0x2029].contains point.val

def measure (text : Text) : Nat :=
  let shown := text.filter fun point => !Wrap.isLayoutControl point
  ((shown.splitOnP endsMeasuredLine).map Text.cells).foldl max 0

def naturalWidth (title : Text) (texts : List Text) : Nat :=
  min available (((title :: texts).map measure).foldl max 0 + padding)

def total : List Nat -> Nat
  | [] => 0
  | width :: rest => width + total rest

def roundedShare (amount : Nat) (parts : Nat) : Nat :=
  let quotient := amount / parts
  let double := 2 * (amount % parts)
  if double < parts then quotient
  else if parts < double then quotient + 1
  else quotient + quotient % 2

def takeShares : Nat -> Nat -> List (Nat × Nat × Bool) -> List Nat
  -- Takes an excess off the columns that share it, evenly but from none more than its limit. Each column comes with
  -- its width, its limit and whether it shares; the numbers are what remains to be taken and how many columns still
  -- share.
  | _, _, [] => []
  | remaining, sharers, (width, limit, shares) :: rest =>
    if shares && limit ≠ 0 && sharers ≠ 0 then
      let taken := min limit (roundedShare remaining sharers)
      (width - taken) :: takeShares (remaining - taken) (sharers - 1) rest
    else width :: takeShares remaining sharers rest

def shareExcess (excess : Nat) (entries : List (Nat × Nat × Bool)) : List Nat :=
  takeShares excess (entries.filter fun entry => entry.2.2 && entry.2.1 ≠ 0).length entries

def narrowWidest (wraps : List Bool) (widths : List Nat) : List Nat :=
  let excess := total widths - available
  let candidates := (widths.zip wraps).filterMap fun entry => if entry.2 then some entry.1 else none
  let widest := candidates.foldl max 0
  let second := (candidates.filter (· ≠ widest)).foldl max 0
  let limit := min excess (widest - second)
  shareExcess excess ((widths.zip wraps).map fun entry => (entry.1, limit, entry.2 && entry.1 = widest))

def narrow (wraps : List Bool) : Nat -> List Nat -> List Nat
  -- Narrows the columns that wrap until all columns fit; the first argument bounds the number of steps.
  | 0, widths => widths
  | steps + 1, widths =>
    if total widths ≤ available then widths else narrow wraps steps (narrowWidest wraps widths)

def narrowAll (widths : List Nat) : List Nat :=
  if total widths ≤ available then widths
  else shareExcess (total widths - available) (widths.map fun width => (width, width, true))

def fittedWidths (natural : List Nat) : List Nat :=
  narrowAll (narrow (columns.map Column.wraps) (total natural) natural)

def cellLines (column : Column) (width : Nat) (text : Text) : List Text :=
  let room := width - padding
  (Wrap.paragraphs text).flatMap fun line =>
    (if column.wraps then Wrap.breakLines .keep room line else [line]).map fun piece =>
      let kept := Wrap.dropExcess room piece
      match column.alignment with
      | .left => Text.fillRight room (Text.abbreviate room kept)
      | .right => Text.fillLeft room (Text.abbreviate room (Text.trimRight kept))

def padded (width : Nat) (line : Text) : Text :=
  Text.fillRight width (Text.takeCells width (CodePoint.space :: line ++ [CodePoint.space]))

def rowLines (side : Text) (widths : List Nat) (texts : List Text) : List Text :=
  let cells := (columns.zip (widths.zip texts)).map fun entry =>
    (entry.2.1, cellLines entry.1 entry.2.1 entry.2.2)
  let height := (cells.map fun cell => cell.2.length).foldl max 1
  (List.range height).map fun index =>
    side ++ (cells.flatMap fun cell => padded cell.1 (cell.2.getD index []) ++ side)

def ruler (left : Text) (stroke : CodePoint) (crossing : Text) (right : Text) (widths : List Nat) : Text :=
  left ++ ((widths.map fun width => List.replicate width stroke).intersperse crossing).flatten ++ right

abbrev heavyStroke : CodePoint := '━'
abbrev lightStroke : CodePoint := '─'

def drawRows (rows : List (List Text)) : List Text :=
  let titles := columns.map Column.title
  let widths := fittedWidths (titles.mapIdx fun index title =>
    naturalWidth title (rows.map fun row => row.getD index []))
  [ruler "┏" heavyStroke "┳" "┓" widths]
    ++ rowLines "┃" widths titles
    ++ [ruler "┡" heavyStroke "╇" "┩" widths]
    ++ rows.flatMap (rowLines "│" widths)
    ++ [ruler "└" lightStroke "┴" "┘" widths]

def drawn (endpoints : List Endpoint) : List Text :=
  drawRows ((Endpoint.sorted endpoints).mapIdx fun index endpoint => cellTexts (index + 1) endpoint)

def document (endpoints : List Endpoint) : Text :=
  if endpoints.isEmpty then [] else (drawn endpoints).flatMap fun line => line ++ [CodePoint.lineFeed]

end RouteAtlas.Report.Table

import DeclGen.Console.Wrap

/-!
Tables with ruled borders. Every column is as wide as its widest cell, with one space on both sides,
as long as the whole table fits; otherwise the widest columns give way first, and their cells are
broken into lines.
-/
namespace DeclGen.Console

structure Rule where
  left : CodePoint
  line : CodePoint
  cross : CodePoint
  right : CodePoint

def topRule : Rule := ⟨'┏', '━', '┳', '┓'⟩

def headerRule : Rule := ⟨'┡', '━', '╇', '┩'⟩

def bottomRule : Rule := ⟨'└', '─', '┴', '┘'⟩

def Rule.draw (rule : Rule) (widths : List Nat) : Text :=
  [rule.left]
    ++ joinWith [rule.cross] (widths.map fun width => List.replicate width rule.line)
    ++ [rule.right]

def cellPadding : Nat := 2

def isLineBreak (c : CodePoint) : Bool :=
  [0xA, 0xB, 0xC, 0xD, 0x1C, 0x1D, 0x1E, 0x85, 0x2028, 0x2029].contains c.toNat

def widestLine (t : Text) : Nat :=
  (pieces (CodePoint.char '\n') (t.map fun c => if isLineBreak c then .char '\n' else c)).foldl
    (fun widest line => max widest (textWidth line)) 0

def cellWidth (room : Nat) (t : Text) : Nat := min (widestLine t + cellPadding) room

def columnWidths (room : Nat) (header : List Text) (rows : List (List Text)) : List Nat :=
  rows.foldl (fun widths row => List.zipWith max widths (row.map (cellWidth room)))
    (header.map (cellWidth room))

def total (widths : List Nat) : Nat := widths.foldl (· + ·) 0

def roundQuotient (n divisor : Nat) : Nat :=
  let quotient := n / divisor
  let twice := 2 * (n % divisor)
  if twice < divisor then quotient
  else if divisor < twice then quotient + 1
  else quotient + quotient % 2

/-- Takes an excess off the columns of one width, by at most `limit` each. `count` is the number of
those columns. -/
def takeOff (widest limit : Nat) : (count excess : Nat) → List Nat → List Nat
  | _, _, [] => []
  | count, excess, width :: rest =>
    if width = widest ∧ 0 < count then
      let part := min limit (roundQuotient excess count)
      (width - part) :: takeOff widest limit (count - 1) (excess - part) rest
    else width :: takeOff widest limit count excess rest

def largest (widths : List Nat) : Nat := widths.foldl max 0

/-- Narrows the widest columns to the width of the next ones, until the table fits. Every step takes
off at least one column, so their sum bounds the steps. -/
def narrow (room : Nat) : (steps : Nat) → List Nat → List Nat
  | 0, widths => widths
  | steps + 1, widths =>
    let excess := total widths - room
    if excess = 0 then widths
    else
      let widest := largest widths
      let next := largest (widths.filter (· != widest))
      let limit := min excess (widest - next)
      narrow room steps (takeOff widest limit (widths.count widest) excess widths)

def fittedWidths (room : Nat) (widths : List Nat) : List Nat := narrow room (total widths) widths

/-- The lines of a row between vertical bars; cells with fewer lines are filled up with empty ones. -/
def drawRow (bar : CodePoint) (widths : List Nat) (cells : List Text) : List Text :=
  let columns := (widths.zip cells).map fun (width, cell) =>
    (width, layOutCell (width - cellPadding) cell)
  let height := largest (columns.map fun (_, lines) => lines.length)
  (List.range height).map fun n =>
    [bar] ++ joinWith [bar] (columns.map fun (width, lines) =>
      [CodePoint.char ' '] ++ (lines[n]?).getD (List.replicate (width - cellPadding) (CodePoint.char ' ')) ++ [CodePoint.char ' ']) ++ [bar]

def drawTable (console : Nat) (header : List Text) (rows : List (List Text)) : List Text :=
  let room := console - (header.length + 1)
  let widths := fittedWidths room (columnWidths room header rows)
  [topRule.draw widths] ++ drawRow '┃' widths header ++ [headerRule.draw widths]
    ++ rows.flatMap (drawRow '│' widths) ++ [bottomRule.draw widths]

end DeclGen.Console

import NestedFlow.Console.Wrap
import NestedFlow.Decimal.Binary64

/-! Tables on a console.

Every cell has a blank at each side. Columns are as wide as their longest line; if that is too much, the widest ones are
made narrower until all fit, and text that does not fit is wrapped.
-/

set_option autoImplicit false

namespace NestedFlow.Console

/-- Whether a character ends a line of text. -/
def endsLine (c : Char) : Bool := c.toNat ∈ [0x0A, 0x0B, 0x0C, 0x0D, 0x1C, 0x1D, 0x1E, 0x85, 0x2028, 0x2029]

/-- The lines of a text, after some characters in reverse order. What follows the last end of a line is a line only if
it is not empty. -/
def linesAfter : Line → Line → List Line
  | [], [] => []
  | done, [] => [done.reverse]
  | done, c :: rest => if endsLine c then done.reverse :: linesAfter [] rest else linesAfter (c :: done) rest

def lines (text : Line) : List Line := linesAfter [] text

structure Column where
  alignment : Alignment
  cells : List Line

def widest (widths : List Nat) : Nat := widths.foldl max 0

/-- The columns that the longest line takes, and its margins. -/
def Column.natural (column : Column) : Nat := widest (column.cells.flatMap fun cell => (lines cell).map width) + 2

/-- Take columns away from the widest parts in equal shares, from each at most up to a limit. -/
def reduce (top limit : Nat) : Nat → Nat → List Nat → List Nat
  | _, _, [] => []
  | total, parts, width :: rest =>
    if width = top then
      let share := min limit (Binary64.roundDiv total parts)
      (width - share) :: reduce top limit (total - share) (parts - 1) rest
    else width :: reduce top limit total parts rest

/-- Make the widest columns as narrow as the next widest, until all fit. -/
def collapse (room : Nat) : Nat → List Nat → List Nat
  | 0, widths => widths
  | steps + 1, widths =>
    let excess := widths.foldl (· + ·) 0 - room
    if excess = 0 then widths
    else
      let top := widest widths
      let second := widest (widths.filter (· != top))
      collapse room steps (reduce top (min excess (top - second)) excess (widths.count top) widths)

/-- The widths of columns that share some room. -/
def columnWidths (room : Nat) (columns : List Column) : List Nat :=
  let widths := columns.map fun column => min room column.natural
  if widths.foldl (· + ·) 0 ≤ room then widths
  else List.zipWith (fun width (column : Column) => min width column.natural) (collapse room (3 * room) widths) columns

/-- The lines of a cell in a column of some width. A joiner at the end of a text hides the blank after it, so a line that
was filled up may lack another one. -/
def cellLines (alignment : Alignment) (columns : Nat) (cell : Line) : List Line :=
  (wrap alignment .ellipsis (columns - 2) cell).map fun line => ' ' :: fit (columns - 2) line ++ [' ']

/-- A horizontal line over columns of some widths. -/
def rule (left fill between right : Char) (widths : List Nat) : Line :=
  left :: [between].intercalate (widths.map fun width => List.replicate width fill) ++ [right]

/-- A row of cells, given by their lines; short cells have blank lines below. -/
def rowLines (bar : Char) (widths : List Nat) (cells : List (List Line)) : List Line :=
  (List.range (max 1 (widest (cells.map List.length)))).map fun index =>
    let parts := List.zipWith (fun width (cell : List Line) => (cell[index]?).getD (blanks width)) widths cells
    bar :: [bar].intercalate parts ++ [bar]

/-- The rows of columns that begin with a header. -/
def grid (room : Nat) (columns : List Column) : List Line :=
  let widths := columnWidths (room - (columns.length + 1)) columns
  let cells := List.zipWith (fun width (column : Column) => column.cells.map (cellLines column.alignment width)) widths columns
  let row (bar : Char) (index : Nat) : List Line :=
    rowLines bar widths (cells.map fun column => (column[index]?).getD [])
  let rows := widest (columns.map fun column => column.cells.length)
  [rule '┏' '━' '┳' '┓' widths] ++ row '┃' 0 ++ [rule '┡' '━' '╇' '┩' widths] ++
    (List.range (rows - 1)).flatMap (fun index => row '│' (index + 1)) ++ [rule '└' '─' '┴' '┘' widths]

/-- Lines as they are read off a console: none is wider than it, and none ends with blanks. -/
def printed (room : Nat) (content : List Line) : List String :=
  (content.flatMap fun line => lines (truncate .fold room line ++ ['\n'])).map fun line =>
    String.ofList (Text.trimEnd line)

end NestedFlow.Console

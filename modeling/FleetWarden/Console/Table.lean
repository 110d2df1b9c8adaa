import FleetWarden.Console.Layout
import FleetWarden.Numeral.Binary64

/-!
# Tables on a console

A table has a title, a header and rows, drawn with heavy lines around the header and light ones
around the rows. Each column is as wide as its widest cell; when the table is too wide, the widest
columns give way first.
-/

namespace FleetWarden.Console

open Text Numeral

/-- A column of a table: its header, and the side that its cells are set to. -/
structure Column where
  header : List Char
  side : Justify
deriving DecidableEq, Repr

/-- A table of cells without markup. -/
structure Table where
  title : List Char
  columns : List Column
  rows : List (List (List Char))
deriving DecidableEq, Repr

namespace Table

/-- Whether a line ends at a character when the width of a text is taken. -/
def endsLine (c : Char) : Bool :=
  c = '\n' || c = '\r' || (0x1C ≤ c.toNat && c.toNat ≤ 0x1E) || c.toNat = 0x85 ||
    c.toNat = 0x2028 || c.toNat = 0x2029

/-- The columns of the widest line of a text. -/
def textWidth (cs : List Char) : Nat :=
  ((cs.splitBy fun a b => endsLine a == endsLine b).map fun line =>
    if line.any endsLine then 0 else width line).foldl max 0

/-- The blanks left and right of a cell. -/
def padding : Nat := 2

/-- The cells of a column, the header first. -/
def cellsOf (t : Table) (index : Nat) (column : Column) : List (List Char) :=
  column.header :: t.rows.map fun row => row[index]?.getD []

/-- The columns that the widest cell of a column takes, within a limit. -/
def naturalWidth (t : Table) (limit index : Nat) (column : Column) : Nat :=
  ((t.cellsOf index column).map fun cell =>
    min limit (min limit (textWidth cell) + padding)).foldl max 0

def sumOf (ns : List Nat) : Nat := ns.foldr (· + ·) 0

/-- Takes a total away from values, in the given shares and up to the given maxima. -/
def reduce : (total ratios : Nat) → List (Nat × Nat × Nat) → List Nat
  | _, _, [] => []
  | total, ratios, (ratio, most, value) :: rest =>
    if ratio = 0 ∨ ratios = 0 then value :: reduce total ratios rest
    else
      let taken := min most (Binary64.roundHalfEven (ratio * total) ratios)
      (value - taken) :: reduce (total - taken) (ratios - ratio) rest

/-- Takes a total away from the values with a share. -/
def reduceBy (total : Nat) (shares : List (Nat × Nat × Nat)) : List Nat :=
  let counted := shares.map fun (ratio, most, value) =>
    (if most = 0 then 0 else ratio, most, value)
  reduce total (sumOf (counted.map (·.1))) counted

/-- Takes width from the widest columns until the sum is within a limit. -/
def narrowWidest (limit : Nat) : Nat → List Nat → List Nat
  | 0, widths => widths
  | fuel + 1, widths =>
    let excess := sumOf widths - limit
    let widest := widths.foldl max 0
    let second := (widths.filter (· ≠ widest)).foldl max 0
    let gap := widest - second
    if excess = 0 ∨ gap = 0 then widths
    else
      narrowWidest limit fuel (reduceBy excess (widths.map fun w =>
        (if w = widest then 1 else 0, min excess gap, w)))

/-- Takes width from all columns alike. -/
def narrowAll (limit : Nat) (widths : List Nat) : List Nat :=
  if sumOf widths ≤ limit then widths
  else reduceBy (sumOf widths - limit) (widths.map fun w => (1, w, w))

/-- The widths of the columns with their padding, on so many columns of a console. -/
def widths (t : Table) (columns : Nat) : List Nat :=
  let limit := columns - (t.columns.length + 1)
  let natural := t.columns.mapIdx fun i c => max 1 (t.naturalWidth limit i c)
  narrowAll limit (narrowWidest limit (sumOf natural + 1) natural)

/-- The lines of a cell, padded to a width. -/
def cellLines (size : Nat) (side : Justify) (cell : List Char) : List (List Char) :=
  (layOut (size - padding) .ellipsis side cell).map fun line =>
    ' ' :: fit (size - padding) line ++ [' ']

/-- A horizontal line. -/
def rule (left bar cross right : Char) (widths : List Nat) : List Char :=
  left :: (List.intercalate [cross] (widths.map fun w => List.replicate w bar)) ++ [right]

/-- The lines of a row between bars. -/
def rowLines (bar : Char) (columns : List Column) (widths : List Nat) (cells : List (List Char)) :
    List (List Char) :=
  let blocks := (columns.zip (widths.zip cells)).map fun (c, w, cell) =>
    (w, cellLines w c.side cell)
  let height := (blocks.map fun b => b.2.length).foldl max 0
  (List.range height).map fun i =>
    let cells := blocks.map fun (w, lines) => lines[i]?.getD (spaces w)
    bar :: (List.intercalate [bar] cells) ++ [bar]

/-- The lines of a table on so many columns of a console. -/
def lines (t : Table) (columns : Nat) : List (List Char) :=
  let ws := t.widths columns
  let total := sumOf ws + t.columns.length + 1
  layOut total .fold .center t.title ++
    rule '┏' '━' '┳' '┓' ws ::
    rowLines '┃' t.columns ws (t.columns.map (·.header)) ++
    rule '┡' '━' '╇' '┩' ws ::
    t.rows.flatMap (rowLines '│' t.columns ws) ++
    [rule '└' '─' '┴' '┘' ws]

/-- The text of a table as printed. -/
def printed (t : Table) (columns : Nat) : String := String.ofList (endLines (t.lines columns))

end Table
end FleetWarden.Console

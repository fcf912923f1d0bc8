import QuerySignature.Text.Width

/-!
# Report/Table — tables with ruled borders

A table is as wide as its columns, each of which is as wide as its longest cell or its heading, with one
blank on both sides.  Its title is cut into lines that fit the width, each in the middle; where the blanks
do not divide evenly, the right side has one more.
-/

namespace QuerySignature

/-- A column: its heading, and whether its cells are flush right. -/
structure Column where
  heading : Text
  flushRight : Bool

/-- **A table.** -/
structure Table where
  title : Text
  columns : List Column
  rows : List (List Text)

namespace Table

/-- So many blanks. -/
def blanks (n : Nat) : Text :=
  List.replicate n ' '

/-- The width of each column. -/
def widths (table : Table) : List Nat :=
  table.columns.mapIdx fun index column =>
    ((table.rows.map fun row => Text.columns (row[index]?.getD [])).foldl max
      (Text.columns column.heading))

/-- The width of the table with its borders. -/
def width (table : Table) : Nat :=
  table.widths.foldl (fun columns width => columns + width + 3) 1

/-- The words of a text. -/
def words (text : Text) : List Text :=
  (Text.separated (· = ' ') text).filter (!·.isEmpty)

/-- The words put into lines, each as full as the width admits; the last line is the open one. -/
def fill (width : Nat) (words : List Text) : List Text :=
  (words.foldl (fun (lines : List Text) word =>
    match lines with
    | line :: done =>
      if Text.columns line + 1 + Text.columns word ≤ width then (line ++ ' ' :: word) :: done
      else word :: line :: done
    | [] => [word]) []).reverse

/-- A text in the middle of a width. -/
def centred (width : Nat) (text : Text) : Text :=
  let free := width - Text.columns text
  blanks (free / 2) ++ text ++ blanks (free - free / 2)

/-- A cell with a blank on both sides. -/
def cell (width : Nat) (flushRight : Bool) (text : Text) : Text :=
  let filling := blanks (width - Text.columns text)
  ' ' :: (if flushRight then filling ++ text else text ++ filling) ++ [' ']

/-- The cells of a row. -/
def cells (table : Table) (row : List Text) : List Text :=
  (table.columns.zip table.widths).mapIdx fun index (column, width) =>
    cell width column.flushRight (row[index]?.getD [])

/-- A line of cells between borders. -/
def line (border : Char) (cells : List Text) : Text :=
  border :: Text.joined [border] cells ++ [border]

/-- A rule across the table: its left end, its stroke, its crossing and its right end. -/
def rule (table : Table) (left stroke crossing right : Char) : Text :=
  left :: Text.joined [crossing] (table.widths.map fun width => List.replicate (width + 2) stroke)
    ++ [right]

/-- **The lines of a table.** -/
def lines (table : Table) : List Text :=
  (fill table.width (words table.title)).map (centred table.width) ++
    [table.rule '┏' '━' '┳' '┓', line '┃' (table.cells (table.columns.map Column.heading)),
      table.rule '┡' '━' '╇' '┩'] ++
    table.rows.map (fun row => line '│' (table.cells row)) ++
    [table.rule '└' '─' '┴' '┘']

end Table

end QuerySignature

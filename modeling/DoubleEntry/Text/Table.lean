/-!
# Tables

Rows of text in aligned columns with lines around them.  Every column is as wide as its widest cell,
with a blank on both sides; a cell may have several lines.  There are two styles: `boxed` draws box
characters and no lines between the rows, `plain` uses ASCII characters and draws a line under each
row.
-/

namespace DoubleEntry.Text

/-- The characters of a horizontal line: its left end, the line itself, its crossings and its right
end. -/
structure RuleStyle where
  left : Char
  line : Char
  crossing : Char
  right : Char
  deriving DecidableEq, Repr

/-- The characters that a table is drawn with. -/
structure TableStyle where
  top : RuleStyle
  /-- Under the header. -/
  header : RuleStyle
  /-- Between two rows, if there is a line. -/
  between : Option RuleStyle
  bottom : RuleStyle
  outer : Char
  inner : Char
  deriving DecidableEq, Repr

namespace TableStyle

/-- Box characters, without lines between the rows. -/
def boxed : TableStyle where
  top := ⟨'┌', '─', '┬', '┐'⟩
  header := ⟨'╞', '═', '╪', '╡'⟩
  between := none
  bottom := ⟨'└', '─', '┴', '┘'⟩
  outer := '│'
  inner := '┆'

/-- ASCII characters, with lines between the rows. -/
def plain : TableStyle where
  top := ⟨'+', '-', '+', '+'⟩
  header := ⟨'+', '=', '=', '+'⟩
  between := some ⟨'|', '-', '+', '|'⟩
  bottom := ⟨'+', '-', '+', '+'⟩
  outer := '|'
  inner := '|'

end TableStyle

/-- A table: a header, if it has one, and rows of cells. -/
structure Table where
  header : Option (List String)
  rows : List (List String)
  deriving DecidableEq, Repr

namespace Table

/-- The lines of a cell. -/
def cellLines (cell : String) : List (List Char) :=
  cell.toList.splitOn '\n'

/-- All rows, the header first. -/
def allRows (t : Table) : List (List String) :=
  t.header.toList ++ t.rows

/-- The width of a cell. -/
def cellWidth (cell : String) : Nat :=
  ((cellLines cell).map List.length).foldl max 0

/-- The width of each column. -/
def widths (t : Table) : List Nat :=
  let columns := (t.allRows.map List.length).foldl max 0
  (List.range columns).map fun i =>
    (t.allRows.map fun row => cellWidth (row.getD i "")).foldl max 0

/-- Things with something between them. -/
def joined (between : List Char) : List (List Char) → List Char
  | [] => []
  | [x] => x
  | x :: rest => x ++ between ++ joined between rest

/-- A horizontal line. -/
def rule (widths : List Nat) (s : RuleStyle) : List Char :=
  s.left :: joined [s.crossing] (widths.map fun w => List.replicate (w + 2) s.line) ++ [s.right]

/-- A line of a cell, filled up to the width of its column. -/
def padded (width : Nat) (cs : List Char) : List Char :=
  ' ' :: cs ++ List.replicate (width - cs.length + 1) ' '

/-- The lines of a row. -/
def rowLines (style : TableStyle) (widths : List Nat) (row : List String) : List (List Char) :=
  let cells := row.map cellLines
  let height := (cells.map List.length).foldl max 1
  (List.range height).map fun n =>
    let line := (List.range widths.length).map fun i =>
      padded (widths.getD i 0) ((cells.getD i []).getD n [])
    style.outer :: joined [style.inner] line ++ [style.outer]

/-- The lines of rows, with lines between them if the style has such. -/
def bodyLines (style : TableStyle) (widths : List Nat) : List (List String) → List (List Char)
  | [] => []
  | [row] => rowLines style widths row
  | row :: rest =>
    rowLines style widths row ++ (style.between.map (rule widths)).toList ++
      bodyLines style widths rest

/-- All lines of the table. -/
def lines (style : TableStyle) (t : Table) : List (List Char) :=
  let widths := t.widths
  let header := match t.header with
    | some row => rowLines style widths row ++ [rule widths style.header]
    | none => []
  rule widths style.top :: header ++ bodyLines style widths t.rows ++ [rule widths style.bottom]

/-- The table as text, each line ended. -/
def render (style : TableStyle) (t : Table) : String :=
  String.ofList ((t.lines style).flatMap (· ++ ['\n']))

end Table

end DoubleEntry.Text

/-!
# Tables

A table of one column in a frame, with a title above it.  The column is as wide
as its widest cell, and the title is broken between words when the table is
narrower than it.  The console is taken to be wide enough for the table.
-/

namespace BucketAccess.Console

/-- A title as words, the head of the column and its cells. -/
structure Table where
  title : List String
  head : String
  cells : List String
deriving DecidableEq, Repr

/-- A run of blanks. -/
def blanks (count : Nat) : String := String.ofList (List.replicate count ' ')

/-- A run of one mark. -/
def rule (count : Nat) (mark : Char) : String := String.ofList (List.replicate count mark)

/-- A text in the middle of a width, a blank less on its left when the rest is
odd. -/
def centred (width : Nat) (text : String) : String :=
  let left := (width - text.length) / 2
  blanks left ++ text ++ blanks (width - text.length - left)

/-- A text filled up with blanks to a width. -/
def leftAligned (width : Nat) (text : String) : String :=
  text ++ blanks (width - text.length)

namespace Table

/-- The width of the column. -/
def columnWidth (table : Table) : Nat :=
  table.cells.foldl (fun width cell => max width cell.length) table.head.length

/-- The title, on one line if it fits. -/
def titleLines (table : Table) (width : Nat) : List String :=
  let whole := " ".intercalate table.title
  (if whole.length ≤ width then [whole] else table.title).map (centred width)

/-- The lines of a table. -/
def lines (table : Table) : List String :=
  let width := table.columnWidth
  table.titleLines (width + 4) ++
    ["┏" ++ rule (width + 2) '━' ++ "┓",
     "┃ " ++ leftAligned width table.head ++ " ┃",
     "┡" ++ rule (width + 2) '━' ++ "┩"] ++
    (table.cells.map fun cell => "│ " ++ leftAligned width cell ++ " │") ++
    ["└" ++ rule (width + 2) '─' ++ "┘"]

end Table

end BucketAccess.Console

import BucketAccess.Text.Blank
import BucketAccess.Unicode.Width

/-!
# The layout of lines

A line on a console is made of cells.  Tabs are filled up with blanks, and a
line that is wider than the console goes on in further lines: it is broken in
front of a word that does not fit, and a word that fits on no line is cut.  What
still reaches over the end of its line after that is dropped.
-/

namespace BucketAccess.Console

open Unicode (cellWidth cellsOf)

/-- The width of the columns that tabs lead to. -/
def tabWidth : Nat := 8

/-- A line with its tabs filled up with blanks.  The number is the column. -/
def expandTabs : Nat → List Char → List Char
  | _, [] => []
  | column, '\t' :: rest =>
      let next := (column / tabWidth + 1) * tabWidth
      List.replicate (next - column) ' ' ++ expandTabs next rest
  | column, char :: rest => char :: expandTabs (column + cellWidth char) rest

/-- A character in front of words: it starts a word of its own where a blank
meets the start of a word. -/
def ontoWords (char : Char) : List (List Char) → List (List Char)
  | (first :: word) :: words =>
      if Text.isBlank char && !Text.isBlank first then [char] :: (first :: word) :: words
      else (char :: first :: word) :: words
  | _ => [[char]]

/-- The words of a line, each with the blanks behind it; the blanks at the very
front belong to the first. -/
def wordsWithBlanks (line : List Char) : List (List Char) :=
  match line.foldr ontoWords [] with
  | first :: second :: words =>
      if first.all Text.isBlank then (first ++ second) :: words else first :: second :: words
  | words => words

/-- A word without the blanks behind it. -/
def bareWord (word : List Char) : List Char := (word.reverse.dropWhile Text.isBlank).reverse

/-- Cuts a word into parts that each fit a width.  The part that is being
filled stands reversed in front of the rest, with its cells. -/
def cutWord (width : Nat) : Nat → List Char → List Char → List (List Char)
  | _, part, [] => [part.reverse]
  | filled, part, char :: rest =>
      if filled + cellWidth char ≤ width then
        cutWord width (filled + cellWidth char) (char :: part) rest
      else part.reverse :: cutWord width (cellWidth char) [char] rest

/-- Lays out words after a line that has been begun. -/
def layWords (width : Nat) : List Char → List (List Char) → List (List Char)
  | line, [] => [line]
  | line, word :: words =>
      let size := cellsOf (bareWord word)
      if cellsOf line + size ≤ width then layWords width (line ++ word) words
      else if size ≤ width then line :: layWords width word words
      else
        let parts := cutWord width 0 [] word
        -- Only the first word has no line in front of it that could be ended.
        (if line.isEmpty then parts.dropLast.dropWhile List.isEmpty
          else line :: parts.dropLast) ++ layWords width (parts.getLast?.getD []) words

/-- A line without blanks at its end, as far as it has more characters than the
width. -/
def dropBlanks (width : Nat) (line : List Char) : List Char :=
  let blanks := (line.reverse.takeWhile Text.isBlank).length
  line.take (line.length - min blanks (line.length - width))

/-- As much of a line as fits a width.  A wide character that does not fit
whole leaves a blank. -/
def cropLine : Nat → List Char → List Char
  | _, [] => []
  | width, char :: rest =>
      if cellWidth char ≤ width then char :: cropLine (width - cellWidth char) rest
      else List.replicate width ' '

/-- The lines that a line becomes at a width. -/
def wrap (width : Nat) (line : List Char) : List (List Char) :=
  (if cellsOf line ≤ width then [line] else layWords width [] (wordsWithBlanks line)).map
    fun part => cropLine width (dropBlanks width part)

/-- The lines that a text takes at a width. -/
def layOut (width : Nat) (chars : List Char) : List (List Char) :=
  (chars.splitOn '\n').flatMap fun line => wrap width (expandTabs 0 line)

end BucketAccess.Console

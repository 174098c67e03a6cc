/-
  Tables and rules.

  A table has a heading for each column and is drawn with lines around its cells.  If it
  is too wide, its widest columns give way first, and what does not fit in a cell is
  wrapped and shortened.  A rule is a horizontal line with a title in its middle.
-/
import Stopwatch.Number.Binary
import Stopwatch.Text.Lines
import Stopwatch.Console.Wrap

namespace Stopwatch.Console

-- The zero of numerals is meant, whatever else is imported.
attribute [local instance (high)] Zero.ofOfNat0

/-! ## Rules -/

/-- A horizontal line over the whole width. -/
def plainRule (width : Nat) : List Char :=
  List.replicate width '─'

/-- A horizontal line with a title in its middle; where there is no space for any of the
title it is left out. -/
def titledRule (width : Nat) (title : List Char) : List Char :=
  if width ≤ 4 then plainRule width
  else
    let title := shorten (width - 4) (expandTabs (title.map fun c => if c = '\n' then ' ' else c))
    let side := (width - cells title) / 2
    let left := List.replicate (side - 1) '─'
    let right := List.replicate (min (side + 1) (width - left.length - cells title)) '─'
    setCells width (left ++ ' ' :: title ++ ' ' :: right)

/-! ## Widths of columns -/

/-- A column of a table. -/
structure Column where
  heading : List Char
  placement : Placement
  entries : List (List Char)

/-- The blanks on both sides of a cell. -/
def cellPadding : Nat := 2

/-- The cells that a text takes unwrapped, with its padding, up to a limit. -/
def paddedWidth (limit : Nat) (text : List Char) : Nat :=
  if limit ≤ cellPadding then limit
  else min limit (cellPadding + ((Text.splitLines text).map cells).foldl max 0)

/-- The width that a column asks for, up to a limit. -/
def Column.width (limit : Nat) (c : Column) : Nat :=
  ((c.heading :: c.entries).map (paddedWidth limit)).foldl max 0

/-- What each of some columns gives up of `excess` if the columns that are chosen share it
evenly, at most what the column can spare.  `sharers` counts the chosen columns. -/
def shares (excess sharers : Nat) : List (Bool × Nat) → List Nat
  | [] => []
  | (chosen, spare) :: rest =>
    if chosen && spare ≠ 0 then
      let share := min spare (Number.roundHalfEven excess sharers)
      share :: shares (excess - share) (sharers - 1) rest
    else 0 :: shares excess sharers rest

/-- Widths made smaller by what the columns give up. -/
def giveUp (excess : Nat) (chosen : List (Bool × Nat)) (widths : List Nat) : List Nat :=
  let sharers := (chosen.filter fun c => c.1 && c.2 ≠ 0).length
  List.zipWith (· - ·) widths (shares excess sharers chosen)

/-- One round of narrowing: the widest columns give way, down to the next widest. -/
def narrowWidest (excess : Nat) (widths : List Nat) : List Nat :=
  let widest := widths.foldl max 0
  let next := (widths.filter (· ≠ widest)).foldl max 0
  giveUp excess (widths.map fun w => (w = widest, min excess (widest - next))) widths

/-- Rounds of narrowing, until the widths fit or the rounds are used up. -/
def narrowRounds (limit : Nat) : Nat → List Nat → List Nat
  | 0, widths => widths
  | rounds + 1, widths =>
    if widths.sum ≤ limit then widths
    else narrowRounds limit rounds (narrowWidest (widths.sum - limit) widths)

/-- Widths that fit in a limit; each round makes at least one column narrower. -/
def narrow (limit : Nat) (widths : List Nat) : List Nat :=
  narrowRounds limit widths.sum widths

/-- The widths of the columns of a table, without the lines between them. -/
def columnWidths (limit : Nat) (columns : List Column) : List Nat :=
  let widths := columns.map fun c => max 1 (c.width limit)
  if widths.sum ≤ limit then widths
  else List.zipWith (fun c w => c.width w) columns (narrow limit widths)

/-! ## Drawing -/

/-- A line of a drawing: what stands at its left, between columns and at its right. -/
structure Edges where
  left : Char
  between : Char
  right : Char

/-- Parts of columns side by side. -/
def Edges.joined (e : Edges) (parts : List (List Char)) : List Char :=
  e.left :: [e.between].intercalate parts ++ [e.right]

/-- A line across all columns. -/
def Edges.drawn (e : Edges) (stroke : Char) (widths : List Nat) : List Char :=
  e.joined (widths.map fun w => List.replicate w stroke)

/-- A text wrapped in a cell of a given width. -/
def cellLines (placement : Placement) (width : Nat) (text : List Char) : List (List Char) :=
  let inner := width - cellPadding
  if inner = 0 then []
  else (typeset placement .shorten inner text).map fun line => ' ' :: setCells inner line ++ [' ']

/-- A row of wrapped cells; lines that a cell lacks are blank and stand above or below
its text. -/
def rowLines (e : Edges) (atBottom : Bool) (widths : List Nat) (row : List (List (List Char))) :
    List (List Char) :=
  let height := (row.map (·.length)).foldl max 1
  let filled := List.zipWith
    (fun width lines =>
      let missing := List.replicate (height - lines.length) (blanks width)
      if atBottom then missing ++ lines else lines ++ missing) widths row
  (List.range height).map fun i => e.joined (filled.map fun lines => (lines[i]?).getD [])

/-- The row of some texts, one for each column. -/
def textRow (e : Edges) (atBottom : Bool) (widths : List Nat) (columns : List Column) (texts : List (List Char)) :
    List (List Char) :=
  rowLines e atBottom widths
    (((columns.zip texts).zip widths).map fun ((c, text), width) => cellLines c.placement width text)

/-- The lines of a table on a console of `width` cells; `count` is the number of its rows. -/
def tableLines (width : Nat) (title : List Char) (columns : List Column) (count : Nat) : List (List Char) :=
  let edges := columns.length + 1
  let widths := columnWidths (width - edges) columns
  let heading := typeset .centre .fold (widths.sum + edges) title
  let rows := (List.range count).flatMap fun i =>
    textRow ⟨'│', '│', '│'⟩ false widths columns (columns.map fun c => (c.entries[i]?).getD [])
  let drawing :=
    [Edges.drawn ⟨'┏', '┳', '┓'⟩ '━' widths] ++
      textRow ⟨'┃', '┃', '┃'⟩ true widths columns (columns.map (·.heading)) ++
      [Edges.drawn ⟨'┡', '╇', '┩'⟩ '━' widths] ++ rows ++ [Edges.drawn ⟨'└', '┴', '┘'⟩ '─' widths]
  (heading ++ drawing).map (crop width)

end Stopwatch.Console

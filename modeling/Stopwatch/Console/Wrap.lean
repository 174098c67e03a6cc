/-
  Texts wrapped into lines.

  A line that is too long for a console is broken in front of a word.  A word that is
  longer than a line is folded, that is broken wherever a line is full, or left as it is
  and shortened.  Nothing but blanks at the end of a line is lost when a text is folded.
-/
import Stopwatch.Text.Blank
import Stopwatch.Console.Cells

namespace Stopwatch.Console

open Text (isBlank dropEndWhile)

/-! ## Tabulators -/

/-- The distance between two tabulator stops. -/
def tabWidth : Nat := 8

/-- The parts of a line between its tabulators, the first one at cell `position`: each
tabulator becomes blanks up to the next stop. -/
def joinAtStops (position : Nat) : List (List Char) → List Char
  | [] => []
  | [part] => part
  | part :: parts =>
    let stop := (position + cells part + tabWidth) / tabWidth * tabWidth
    part ++ blanks (stop - (position + cells part)) ++ joinAtStops stop parts

/-- A line without tabulators. -/
def expandTabs (line : List Char) : List Char :=
  joinAtStops 0 (line.splitOn '\t')

/-! ## Breaking -/

/-- The words of a line, each with the blanks after it; the first also has those before
it.  A line of blanks has no words. -/
def words (line : List Char) : List (List Char) :=
  match line.splitBy fun a b => !isBlank a || isBlank b with
  | [] => []
  | first :: rest =>
    if first.all isBlank then
      match rest with
      | [] => []
      | second :: others => (first ++ second) :: others
    else first :: rest

/-- What happens to a word that is longer than a line. -/
inductive Overflow where
  | fold
  | shorten
  deriving DecidableEq, Repr

/-- Breaks in front of a word, unless the line is empty. -/
def closeLine (line : List Char) (lines : List (List Char)) : List (List Char) :=
  if line = [] then lines else line :: lines

/-- The lines of some words after what is already on the line in hand. -/
def breakWords (overflow : Overflow) (width : Nat) (line : List Char) : List (List Char) → List (List Char)
  | [] => [line]
  | word :: rest =>
    let need := cells (dropEndWhile isBlank word)
    if cells line + need ≤ width then breakWords overflow width (line ++ word) rest
    else if overflow = .fold && width < need then
      let pieces := chop width word
      closeLine line (pieces.dropLast ++ breakWords overflow width (pieces.getLastD []) rest)
    else closeLine line (breakWords overflow width word rest)

/-- A line broken in front of words. -/
def breakLine (overflow : Overflow) (width : Nat) (line : List Char) : List (List Char) :=
  if line.all isBlank then [line] else breakWords overflow width [] (words line)

/-- A line without the blanks at its end that lie beyond `width` characters. -/
def dropBlankExcess (width : Nat) (line : List Char) : List Char :=
  let blanksAtEnd := line.length - (dropEndWhile isBlank line).length
  line.take (line.length - min blanksAtEnd (line.length - width))

/-! ## Placing -/

/-- Where a line stands in its space; `asWritten` leaves it alone. -/
inductive Placement where
  | asWritten
  | left
  | centre
  | right
  deriving DecidableEq, Repr

/-- A line that is not longer than `width` cells. -/
def fit (overflow : Overflow) (width : Nat) (line : List Char) : List Char :=
  match overflow with
  | .fold => crop width line
  | .shorten => shorten width line

/-- A line in a space of `width` cells. -/
def place (placement : Placement) (overflow : Overflow) (width : Nat) (line : List Char) : List Char :=
  match placement with
  | .asWritten => fit overflow width line
  | .left =>
    let line := fit overflow width line
    line ++ blanks (width - cells line)
  | .centre =>
    let line := fit overflow width (dropEndWhile isBlank line)
    let before := (width - cells line) / 2
    blanks before ++ line ++ blanks (width - cells line - before)
  | .right =>
    let line := fit overflow width (dropEndWhile isBlank line)
    blanks (width - cells line) ++ line

/-- A text as lines of at most `width` cells. -/
def typeset (placement : Placement) (overflow : Overflow) (width : Nat) (text : List Char) :
    List (List Char) :=
  (text.splitOn '\n').flatMap fun line =>
    (breakLine overflow width (expandTabs line)).map fun part =>
      place placement overflow width (dropBlankExcess width part)

/-- A text wrapped for a console of `width` cells. -/
def wrap (width : Nat) (text : List Char) : List (List Char) :=
  typeset .asWritten .fold width text

end Stopwatch.Console

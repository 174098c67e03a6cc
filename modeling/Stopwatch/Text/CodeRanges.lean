/-
  Sets of characters given by ranges of code points.

  A table of a character property is written as text: ranges in hexadecimal, in
  ascending order, separated by blanks, `A1-AC` for a range and `AA` for a single
  code point.
-/

namespace Stopwatch.Text

/-- Ranges of code points, both ends included. -/
abbrev CodeRanges := List (Nat × Nat)

/-- The number written in upper-case hexadecimal. -/
def ofHex (cs : List Char) : Nat :=
  cs.foldl (fun n c => n * 16 + if c.isDigit then c.toNat - '0'.toNat else c.toNat - 'A'.toNat + 10) 0

/-- One range, or one code point. -/
def CodeRanges.ofItem (item : List Char) : Nat × Nat :=
  match item.span (· ≠ '-') with
  | (low, _ :: high) => (ofHex low, ofHex high)
  | (single, []) => (ofHex single, ofHex single)

/-- The words of a text that is separated by blanks and line feeds. -/
def blankWords : List Char → List Char → List (List Char)
  | [], [] => []
  | word, [] => [word.reverse]
  | word, c :: cs =>
    if c = ' ' || c = '\n' then
      if word = [] then blankWords [] cs else word.reverse :: blankWords [] cs
    else blankWords (c :: word) cs

/-- Reads a table. -/
def CodeRanges.ofText (table : String) : CodeRanges :=
  (blankWords [] table.toList).map CodeRanges.ofItem

/-- Whether a code point lies in one of the ranges. -/
def CodeRanges.contains (ranges : CodeRanges) (n : Nat) : Bool :=
  ranges.any fun range => range.1 ≤ n && n ≤ range.2

end Stopwatch.Text

/-
  Lines of a text.

  A text is cut into lines at every line boundary.  Ten characters end a line
  here, not only the line feed; a carriage return followed by a line feed ends
  one line, not two; and a text that ends in a boundary has no empty last line.

  `normalizeNewlines` is the narrower rule used when a text file is read: there
  only the three newline sequences count, and each becomes a line feed.
-/

namespace Stopwatch.Text

/-- The characters at which a captured output is cut into lines. -/
def isLineBoundary (c : Char) : Bool :=
  c = '\n' || c = '\r' || c = '\x0b' || c = '\x0c' || c = '\x1c' || c = '\x1d' || c = '\x1e' ||
    c = '\u0085' || c = '\u2028' || c = '\u2029'

/-- Puts one more character in front of the first line. -/
def consLine (c : Char) : List (List Char) → List (List Char)
  | [] => [[c]]
  | line :: lines => (c :: line) :: lines

/-- The lines of a text, without the boundaries that end them. -/
def splitLines : List Char → List (List Char)
  | [] => []
  | '\r' :: '\n' :: rest => [] :: splitLines rest
  | c :: rest => if isLineBoundary c then [] :: splitLines rest else consLine c (splitLines rest)

/-- The lines of a string. -/
def lines (text : String) : List String :=
  (splitLines text.toList).map String.ofList

/-- Every newline sequence becomes a line feed. -/
def normalizeNewlines : List Char → List Char
  | [] => []
  | '\r' :: '\n' :: rest => '\n' :: normalizeNewlines rest
  | c :: rest => (if c = '\r' then '\n' else c) :: normalizeNewlines rest

/-- The number of line breaks in a text, `\r\n` counting as one. -/
def countNewlines : List Char → Nat
  | [] => 0
  | '\r' :: '\n' :: rest => countNewlines rest + 1
  | c :: rest => (if c = '\n' || c = '\r' then 1 else 0) + countNewlines rest

@[simp] theorem splitLines_nil : splitLines [] = [] := rfl

@[simp] theorem normalizeNewlines_nil : normalizeNewlines [] = [] := rfl

@[simp] theorem countNewlines_nil : countNewlines [] = 0 := rfl

end Stopwatch.Text

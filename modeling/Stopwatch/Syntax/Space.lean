/-
  Reading the space between tokens.

  Blanks are the space, the tab, the form feed, and a backslash with the line break
  after it.  A comment runs from `#` to the end of its line.  Inside brackets the
  space in front of a token may hold whole lines; whether such a line starts with
  the indentation of its block is not known here, so it is read with all its blanks
  and `settle` splits them later.
-/
import Stopwatch.Syntax.Layout
import Stopwatch.Text.Search

namespace Stopwatch.Syntax

/-- The blanks at the start of a text, and what follows them.  A backslash that ends
the last line is refused. -/
def blanks? : List Char → Option (List Char × List Char)
  | [] => some ([], [])
  | '\\' :: '\r' :: '\n' :: rest =>
    if rest = [] then none
    else (blanks? rest).map fun (blank, after) => ('\\' :: '\r' :: '\n' :: blank, after)
  | '\\' :: '\r' :: rest =>
    if rest = [] then none
    else (blanks? rest).map fun (blank, after) => ('\\' :: '\r' :: blank, after)
  | '\\' :: '\n' :: rest =>
    if rest = [] then none
    else (blanks? rest).map fun (blank, after) => ('\\' :: '\n' :: blank, after)
  | c :: rest =>
    if c = ' ' || c = '\t' || c = '\x0c' then
      (blanks? rest).map fun (blank, after) => (c :: blank, after)
    else some ([], c :: rest)

/-- A comment at the start of a text, and what follows it. -/
def comment : List Char → Option String × List Char
  | '#' :: rest =>
    let (body, after) := rest.span fun c => c ≠ '\n' && c ≠ '\r'
    (some (String.ofList ('#' :: body)), after)
  | cs => (none, cs)

/-- A line break, recorded relative to the usual one. -/
def relativeBreak (usual found : LineBreak) : Newline :=
  if found = usual then none else some found

/-- The rest of a line that holds no more code: its blanks, its comment and its line
break.  The end of the text ends a line too if `lastAllowed`. -/
def lineEnd? (usual : LineBreak) (lastAllowed : Bool) (cs : List Char) : Option (LineEnd × List Char) := do
  let (blank, rest) ← blanks? cs
  let (comment, rest) := comment rest
  match lineBreak? rest with
  | some (found, after) => pure (⟨String.ofList blank, comment, relativeBreak usual found⟩, after)
  | none => if rest = [] && lastAllowed then pure (⟨String.ofList blank, comment, none⟩, []) else none

/-- A line end as a line of its own, all its blanks not yet split. -/
def LineEnd.toBlankLine (e : LineEnd) : BlankLine :=
  ⟨false, e.blank, e.comment, e.newline⟩

/-- Whole lines without code at the start of a text, and what follows them. -/
def blankLines (usual : LineBreak) : Nat → List Char → List BlankLine × List Char
  | 0, cs => ([], cs)
  | fuel + 1, cs =>
    match lineEnd? usual false cs with
    | none => ([], cs)
    | some (line, rest) =>
      let (lines, after) := blankLines usual fuel rest
      (line.toBlankLine :: lines, after)

/-- The space in front of the next token, and what follows it. -/
def gap? (usual : LineBreak) (bracketed : Bool) (cs : List Char) : Option (Gap × List Char) := do
  if bracketed then
    if let some (first, rest) := lineEnd? usual false cs then
      let (lines, rest) := blankLines usual rest.length rest
      let (blank, after) ← blanks? rest
      return (.broken first lines false (String.ofList blank), after)
  let (blank, after) ← blanks? cs
  return (.inline (String.ofList blank), after)

/-! ## Splitting off the indentation -/

/-- What follows the indentation in the blanks of a line, if they start with it. -/
def afterIndent? (indent blank : String) : Option String :=
  (Text.afterPrefix? indent.toList blank.toList).map String.ofList

/-- A line whose blanks are split after the indentation of its block. -/
def BlankLine.settle (indent : String) (l : BlankLine) : BlankLine :=
  match afterIndent? indent l.blank with
  | some blank => { l with indented := true, blank }
  | none => l

/-- A space in front of a token whose lines are split after the indentation. -/
def Gap.settle (indent : String) : Gap → Gap
  | .inline blank => .inline blank
  | .broken first lines indented blank =>
    let settled := lines.map (BlankLine.settle indent)
    match afterIndent? indent blank with
    | some rest => .broken first settled true rest
    | none => .broken first settled indented blank

end Stopwatch.Syntax

/-
  Layout: what stands between the tokens of a source text.

  The tree of a source text loses nothing.  Blank characters, comments, line
  breaks and indentation are kept where they were written, and printing the tree
  gives the text back.  Two things are kept in a relative form, so that a part of
  the tree can be moved to a deeper level: a line that starts with the indentation
  of its block only records that it does, and a line break in the file's usual
  form is recorded as usual.

  Text is printed as a list of pieces.  A piece never ends or starts inside a line
  break, so line breaks can be counted piece by piece.
-/
import Stopwatch.Text.Lines

namespace Stopwatch.Syntax

-- The zero of numerals is meant, whatever else is imported.
attribute [local instance (high)] Zero.ofOfNat0

/-- The three ways to break a line. -/
inductive LineBreak where
  | feed
  | returnFeed
  | carriageReturn
  deriving DecidableEq, Repr, Inhabited

/-- A line break as text. -/
def LineBreak.text : LineBreak → String
  | .feed => "\n"
  | .returnFeed => "\r\n"
  | .carriageReturn => "\r"

/-- A line break; `none` is the usual one of the file. -/
abbrev Newline := Option LineBreak

/-- The usual line break and the usual indentation step of a file. -/
structure Style where
  newline : LineBreak
  indent : String
  deriving DecidableEq, Repr, Inhabited

/-- A line break as text. -/
def Newline.text (style : Style) (newline : Newline) : String :=
  (newline.getD style.newline).text

/-- The line break at the start of a text, and what follows it. -/
def lineBreak? : List Char → Option (LineBreak × List Char)
  | '\r' :: '\n' :: rest => some (.returnFeed, rest)
  | '\r' :: rest => some (.carriageReturn, rest)
  | '\n' :: rest => some (.feed, rest)
  | _ => none

/-- The end of a line that holds code: blanks, a comment, and the line break. -/
structure LineEnd where
  blank : String
  comment : Option String
  newline : Newline
  deriving DecidableEq, Repr, Inhabited

/-- A line without code.  `indented` says that it starts with the indentation of
its block; `blank` is what follows that. -/
structure BlankLine where
  indented : Bool
  blank : String
  comment : Option String
  newline : Newline
  deriving DecidableEq, Repr, Inhabited

/-- The space in front of a token.  It holds line breaks only inside brackets;
`indented` then speaks of the line that the token itself stands on. -/
inductive Gap where
  | inline (blank : String)
  | broken (first : LineEnd) (lines : List BlankLine) (indented : Bool) (blank : String)
  deriving DecidableEq, Repr, Inhabited

/-- A token with the space in front of it. -/
structure Lexeme where
  gap : Gap
  text : String
  deriving DecidableEq, Repr, Inhabited

/-- A token with nothing in front of it. -/
def Lexeme.bare (text : String) : Lexeme :=
  ⟨.inline "", text⟩

/-- A token after one blank. -/
def Lexeme.spaced (text : String) : Lexeme :=
  ⟨.inline " ", text⟩

/-- A line end without blanks or comment. -/
def LineEnd.plain : LineEnd :=
  ⟨"", none, none⟩

/-- An empty line. -/
def BlankLine.plain : BlankLine :=
  ⟨true, "", none, none⟩

/-- A line that holds only a comment. -/
def BlankLine.ofComment (comment : String) : BlankLine :=
  ⟨true, "", some comment, none⟩

/-! ## Printing -/

/-- The pieces of a line end. -/
def LineEnd.pieces (style : Style) (e : LineEnd) : List String :=
  [e.blank, e.comment.getD "", e.newline.text style]

/-- The indentation, if the line has it. -/
def indentPieces (indent : String) (indented : Bool) : List String :=
  if indented then [indent] else []

/-- The pieces of a line without code, in a block with the given indentation. -/
def BlankLine.pieces (style : Style) (indent : String) (l : BlankLine) : List String :=
  indentPieces indent l.indented ++ [l.blank, l.comment.getD "", l.newline.text style]

/-- The pieces of lines without code. -/
def blankPieces (style : Style) (indent : String) (lines : List BlankLine) : List String :=
  lines.flatMap (BlankLine.pieces style indent)

/-- The pieces of the space in front of a token. -/
def Gap.pieces (style : Style) (indent : String) : Gap → List String
  | .inline blank => [blank]
  | .broken first lines indented blank =>
    first.pieces style ++ blankPieces style indent lines ++ indentPieces indent indented ++ [blank]

/-- The pieces of a token and the space in front of it. -/
def Lexeme.pieces (style : Style) (indent : String) (l : Lexeme) : List String :=
  l.gap.pieces style indent ++ [l.text]

/-- The pieces of a sequence of tokens. -/
def lexemePieces (style : Style) (indent : String) (ls : List Lexeme) : List String :=
  ls.flatMap (Lexeme.pieces style indent)

/-- The number of line breaks in pieces. -/
def countBreaks (pieces : List String) : Nat :=
  (pieces.map fun piece => Text.countNewlines piece.toList).sum

@[simp] theorem blankPieces_nil (style : Style) (indent : String) : blankPieces style indent [] = [] := rfl

@[simp] theorem lexemePieces_nil (style : Style) (indent : String) : lexemePieces style indent [] = [] := rfl

@[simp] theorem countBreaks_nil : countBreaks [] = 0 := rfl

@[simp] theorem countBreaks_append (a b : List String) : countBreaks (a ++ b) = countBreaks a + countBreaks b := by
  simp [countBreaks]

end Stopwatch.Syntax

/-
  Tokens.

  A token is a piece of source text of one kind.  A formatted string is no single
  token: its opening quote, the literal text between the replacement fields, and
  its closing quote are tokens of their own, and the fields between them consist of
  ordinary tokens.
-/
import Stopwatch.Syntax.Layout

namespace Stopwatch.Syntax

/-- The kinds of tokens. -/
inductive TokenKind where
  | name
  | number
  | string
  | operator
  | formatOpen
  | formatText
  | formatClose
  deriving DecidableEq, Repr, Inhabited

/-- A token, with the space in front of it. -/
structure Token where
  kind : TokenKind
  lexeme : Lexeme
  deriving DecidableEq, Repr, Inhabited

/-- The text of a token. -/
def Token.text (t : Token) : String :=
  t.lexeme.text

/-- The words that cannot name anything. -/
def keywords : List String :=
  ["False", "None", "True", "and", "as", "assert", "async", "await", "break", "class", "continue",
   "def", "del", "elif", "else", "except", "finally", "for", "from", "global", "if", "import", "in",
   "is", "lambda", "nonlocal", "not", "or", "pass", "raise", "return", "try", "while", "with", "yield"]

/-- Whether a token can name something. -/
def Token.isName (t : Token) : Bool :=
  t.kind = .name && !keywords.contains t.text

/-- Whether a token is a given keyword or operator. -/
def Token.is (t : Token) (text : String) : Bool :=
  (t.kind = .name || t.kind = .operator) && t.text = text

/-- The same token with nothing in front of it. -/
def Token.bare (t : Token) : Token :=
  { t with lexeme := Lexeme.bare t.text }

/-- The operators, longer ones first. -/
def operators : List (List Char) :=
  ["**=", "//=", ">>=", "<<=", "...", "!=", "->", ":=", "+=", "-=", "*=", "/=", "%=", "&=", "|=", "^=",
   "@=", "==", "<=", ">=", "<>", "**", "//", "<<", ">>", "(", ")", "[", "]", "\x7b", "\x7d", ":", ",", ";",
   "+", "-", "*", "/", "|", "&", "<", ">", "=", ".", "%", "~", "^", "@", "!"].map String.toList

end Stopwatch.Syntax

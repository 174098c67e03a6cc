/-
  Parsers over tokens.

  A parser takes tokens from the front of a list or fails.  Choice tries the second
  parser only where the first one fails, from the same place.  Repetition is bounded
  by the number of tokens that are left.
-/
import Stopwatch.Syntax.Expr

namespace Stopwatch.Syntax.Grammar

/-- A parser of tokens. -/
abbrev Parser := StateT (List Token) Option

/-- The next token, if it satisfies a test. -/
def tokenWhere (accepts : Token → Bool) : Parser Lexeme := fun
  | t :: rest => if accepts t then some (t.lexeme, rest) else none
  | [] => none

/-- A given keyword or operator. -/
def mark (text : String) : Parser Lexeme :=
  tokenWhere fun t => t.is text

/-- One of several keywords or operators. -/
def markOf (texts : List String) : Parser Lexeme :=
  tokenWhere fun t => texts.any t.is

/-- A token that can name something. -/
def identifier : Parser Lexeme :=
  tokenWhere Token.isName

/-- A token of a given kind. -/
def tokenOf (kind : TokenKind) : Parser Lexeme :=
  tokenWhere fun t => t.kind = kind

/-- Whether the next token is a given keyword or operator; takes nothing. -/
def nextIs (text : String) : Parser Bool := fun
  | t :: rest => some (t.is text, t :: rest)
  | [] => some (false, [])

/-- Whether the token after the next one is a given keyword or operator; takes nothing. -/
def secondIs (text : String) : Parser Bool := fun tokens =>
  some ((tokens.drop 1).head?.any fun t => t.is text, tokens)

/-- Whether no token is left; takes nothing. -/
def atEnd : Parser Bool := fun tokens =>
  some (tokens.isEmpty, tokens)

/-- What a parser reads, as often as it succeeds, at most `fuel` times. -/
def manyUpTo (p : Parser α) : Nat → Parser (List α)
  | 0 => pure []
  | fuel + 1 => fun tokens =>
    match p tokens with
    | none => some ([], tokens)
    | some (a, rest) => (manyUpTo p fuel rest).map fun (as, after) => (a :: as, after)

/-- What a parser reads, as often as it succeeds. -/
def many (p : Parser α) : Parser (List α) := fun tokens =>
  manyUpTo p tokens.length tokens

/-- What a parser reads, or nothing where it fails. -/
def perhaps (p : Parser (List α)) : Parser (List α) :=
  p <|> pure []

/-- One keyword or operator as a part of a phrase. -/
def word (text : String) : Parser (List Expr) := do
  return [.token (← mark text)]

/-- A phrase, unless it has only one part. -/
def phraseOf : List Expr → Expr
  | [e] => e
  | parts => .phrase parts

/-- Items between separators. -/
def separated (separator : Parser Lexeme) (item : Parser Expr) : Parser (List Expr) := do
  let first ← item
  let others ← many do
    let separator ← separator
    let item ← item
    return [.token separator, item]
  return first :: others.flatten

/-- Items between commas, and perhaps one more comma. -/
def commaList (item : Parser Expr) : Parser (List Expr) := do
  let items ← separated (mark ",") item
  return items ++ (← perhaps (word ","))

end Stopwatch.Syntax.Grammar

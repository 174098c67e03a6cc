/-
  The grammar of patterns.

  A pattern stands behind `case`.  It is a literal, a name that is bound, a dotted
  name whose value is compared, a sequence, a mapping, or a class with patterns for
  its arguments; `|` joins alternatives and `as` names what was matched.  A pattern
  never holds an `await`, so it is kept as a phrase.
-/
import Stopwatch.Syntax.Grammar.Expression

namespace Stopwatch.Syntax.Grammar

/-- Reads and keeps a token as a part of a phrase. -/
def keep (p : Parser Lexeme) : Parser (List Expr) := do
  return [.token (← p)]

/-- Whether the text of a numeral has the imaginary mark. -/
def isImaginary (l : Lexeme) : Bool :=
  l.text.endsWith "j" || l.text.endsWith "J"

/-- A number with its sign, or the sum of a real and an imaginary one. -/
def numberPattern : Parser (List Expr) := do
  let sign ← perhaps (word "-")
  let first ← tokenOf .number
  let rest ← perhaps do
    let sign ← markOf ["+", "-"]
    let second ← accepting isImaginary (tokenOf .number)
    return [Expr.token sign, .token second]
  if !rest.isEmpty && isImaginary first then failure
  return sign ++ .token first :: rest

/-- A name, or several with points between them. -/
def dottedName : Parser (List Expr) := do
  let first ← identifier
  let others ← many do
    let dot ← mark "."
    return [Expr.token dot, .token (← identifier)]
  return .token first :: others.flatten

/-- A constant that is written as a word. -/
def constant : Parser (List Expr) :=
  keep (markOf ["None", "True", "False"])

/-- Items between commas up to a closing mark, which is left in place. -/
def itemsUpTo (closing : String) (item : Parser (List Expr)) : Parser (List Expr) := do
  if ← nextIs closing then return []
  let first ← item
  let others ← many do
    let comma ← word ","
    return comma ++ (← item)
  return first ++ others.flatten ++ (← perhaps (word ","))

/-- A star and the name of what it takes. -/
def starPattern : Parser (List Expr) := do
  let star ← word "*"
  return star ++ (← keep identifier)

section

variable (strings : Parser Expr) (pattern : Parser (List Expr))

/-- A pattern for an argument of a class. -/
def argumentPattern : Parser (List Expr) := do
  if ← secondIs "=" then
    let name ← keep identifier
    let sign ← word "="
    return name ++ sign ++ (← pattern)
  else pattern

/-- Patterns for the arguments of a class up to the closing bracket; those given by
keyword stand behind all others. -/
def argumentPatterns (keywordOnly : Bool) : Nat → Parser (List Expr)
  | 0 => failure
  | fuel + 1 => do
    if ← nextIs ")" then return []
    let isKeyword ← secondIs "="
    if keywordOnly && !isKeyword then failure
    let part ← argumentPattern pattern
    if ← nextIs "," then
      let comma ← word ","
      return part ++ comma ++ (← argumentPatterns isKeyword fuel)
    else return part

/-- An entry of a mapping. -/
def entryPattern : Parser (List Expr) := do
  let key ← numberPattern <|> (do return [← strings]) <|> constant <|> dottedName
  let colon ← word ":"
  return key ++ colon ++ (← pattern)

/-- The entries of a mapping up to the closing bracket; what takes the rest stands last. -/
def entryPatterns : Nat → Parser (List Expr)
  | 0 => failure
  | fuel + 1 => do
    if ← nextIs "\x7d" then return []
    else if ← nextIs "**" then
      let stars ← word "**"
      return stars ++ (← keep identifier) ++ (← perhaps (word ","))
    else
      let part ← entryPattern strings pattern
      if ← nextIs "," then
        let comma ← word ","
        return part ++ comma ++ (← entryPatterns fuel)
      else return part

/-- A pattern between two brackets. -/
def enclosed (opening closing : String) (inner : Nat → Parser (List Expr)) : Parser (List Expr) := do
  let first ← word opening
  let parts ← fun tokens => inner (tokens.length + 1) tokens
  return first ++ parts ++ (← word closing)

/-- Whether a pattern is a single one with a star. -/
def isLoneStar : List Expr → Bool
  | [.token star, .token _] => star.text = "*"
  | _ => false

/-- A pattern that `|` cannot take apart. -/
def closedPattern : Parser (List Expr) :=
  numberPattern <|>
  (do return [← strings]) <|>
  constant <|>
  (do
    let name ← dottedName
    if ← nextIs "(" then return name ++ (← enclosed "(" ")" (argumentPatterns pattern false))
    else return name) <|>
  enclosed "(" ")" (fun _ => accepting (fun parts => !isLoneStar parts) <|
    itemsUpTo ")" (starPattern <|> pattern)) <|>
  enclosed "[" "]" (fun _ => itemsUpTo "]" (starPattern <|> pattern)) <|>
  enclosed "\x7b" "\x7d" (entryPatterns strings pattern)

/-- Alternatives, perhaps with a name for what was matched. -/
def patternWith : Parser (List Expr) := do
  let first ← closedPattern strings pattern
  let others ← many do
    let bar ← word "|"
    return bar ++ (← closedPattern strings pattern)
  let target ← perhaps do
    let keyword ← word "as"
    return keyword ++ (← keep (accepting (fun l => l.text ≠ "_") identifier))
  return first ++ others.flatten ++ target

end

/-- Patterns with brackets down to a given number of levels. -/
def patternUpTo (strings : Parser Expr) : Nat → Parser (List Expr)
  | 0 => failure
  | levels + 1 => patternWith strings (patternUpTo strings levels)

/-- What stands behind `case`: a pattern, or a sequence of patterns without brackets. -/
def patterns (strings : Parser Expr) : Parser Expr :=
  let pattern : Parser (List Expr) := fun tokens => patternUpTo strings (tokens.length + 1) tokens
  Expr.phrase <$> accepting (fun parts => !isLoneStar parts) do
    let first ← starPattern <|> pattern
    let others ← many do
      let comma ← word ","
      return comma ++ (← starPattern <|> pattern)
    return first ++ others.flatten ++ (← perhaps (word ","))

end Stopwatch.Syntax.Grammar

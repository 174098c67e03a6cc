/-
  The grammar of statements, as far as it concerns one logical line.

  A line holds small statements, or it starts a function, a class or a clause and
  goes on with a suite.  How lines make up compound statements is said elsewhere.
-/
import Stopwatch.Syntax.Grammar.Pattern
import Stopwatch.Syntax.Module

namespace Stopwatch.Syntax.Grammar

section

variable (r : Rules)

/-! ## Small statements -/

/-- The operators that change a variable in place. -/
def augmented : List String :=
  ["+=", "-=", "*=", "@=", "/=", "%=", "&=", "|=", "^=", "<<=", ">>=", "**=", "//="]

/-- A single target, perhaps in brackets, as an operator in place needs it. -/
def isAugmentable : Expr → Bool
  | .bracketed opening inner _ => opening.text = "(" && isAugmentable inner
  | e => isPlainTarget e

/-- An expression, an assignment or an annotation. -/
def valueStatement : Parser Small := do
  let first ← r.items
  if ← nextIs ":" then
    if !isPlainTarget first then failure
    let colon ← word ":"
    let type ← r.expression
    let value ← perhaps do return (← word "=") ++ [← r.yieldOrItems]
    return .other (.phrase (first :: colon ++ type :: value))
  else if ← nextIs "=" then
    let others ← many do
      let sign ← mark "="
      return (sign, ← r.yieldOrItems)
    let targets := first :: others.dropLast.map Prod.snd
    if others.isEmpty || !targets.all isTargets then failure
    return .other (.phrase (first :: others.flatMap fun (sign, e) => [.token sign, e]))
  else
    match ← perhaps (keep (markOf augmented)) with
    | [] => return .expr first
    | sign =>
      if !isAugmentable first then failure
      return .other (.phrase (first :: sign ++ [← r.yieldOrItems]))

/-- Type parameters in square brackets. -/
def typeParameters : Parser (List Expr) := do
  let bound (sign : String) (value : Parser Expr) : Parser (List Expr) := perhaps do
    return (← word sign) ++ [← value]
  let one : Parser (List Expr) := do
    if ← nextIs "*" then return (← word "*") ++ (← keep identifier) ++ (← bound "=" r.item)
    else if ← nextIs "**" then return (← word "**") ++ (← keep identifier) ++ (← bound "=" r.expression)
    else return (← keep identifier) ++ (← bound ":" r.expression) ++ (← bound "=" r.expression)
  let opening ← word "["
  let first ← one
  let others ← many do return (← word ",") ++ (← one)
  let last ← perhaps (word ",")
  return opening ++ first ++ others.flatten ++ last ++ (← word "]")

/-- A name for a type. -/
def typeAlias : Parser Small := do
  let keyword ← keep (tokenWhere fun t => t.kind = .name && t.text = "type")
  let name ← keep identifier
  let parameters ← perhaps (typeParameters r)
  let sign ← word "="
  return .other (.phrase (keyword ++ name ++ parameters ++ sign ++ [← r.expression]))

/-- A name for what is imported. -/
def importedAs : Parser (List Expr) :=
  perhaps do return (← word "as") ++ (← keep identifier)

/-- Modules that are imported. -/
def importStatement : Parser Small := do
  let keyword ← word "import"
  let one : Parser (List Expr) := do return (← dottedName) ++ (← importedAs)
  let first ← one
  let others ← many do return (← word ",") ++ (← one)
  return .other (.phrase (keyword ++ first ++ others.flatten))

/-- A dotted name as an expression: a look-up in the part before the last point. -/
def moduleName : Parser Expr := do
  let first ← identifier
  let others ← many do
    let dot ← mark "."
    return (dot, ← identifier)
  return others.foldl (fun e (dot, name) => .attribute e dot name) (.name first)

/-- Names that are imported from a module. -/
def importFromStatement : Parser Small := do
  let keyword ← mark "from"
  let dots ← many (markOf [".", "..."])
  let source ← if ← nextIs "import" then pure none else some <$> moduleName
  if dots.isEmpty && source.isNone then failure
  let what ← word "import"
  let one : Parser (List Expr) := do return (← keep identifier) ++ (← importedAs)
  let names : Parser (List Expr) := do
    let first ← one
    let others ← many do return (← word ",") ++ (← one)
    return first ++ others.flatten
  let rest ← if ← nextIs "*" then word "*"
    else if ← nextIs "(" then do
      let opening ← word "("
      let inner ← names
      let last ← perhaps (word ",")
      pure (opening ++ inner ++ last ++ (← word ")"))
    else names
  return .importFrom keyword dots source (.phrase (what ++ rest))

/-- What can be deleted. -/
def isDeletable : Expr → Bool
  | .phrase parts => parts.all fun
    | .token l => l.text = ","
    | e => isTarget e
  | e => isTarget e

/-- The small statements that start with a keyword. -/
def keywordStatement : Parser Small := do
  let phrase (keyword : String) (rest : Parser (List Expr)) : Parser Small := do
    let keyword ← word keyword
    return .other (.phrase (keyword ++ (← rest)))
  let one (p : Parser Expr) : Parser (List Expr) := do return [← p]
  let names : Parser (List Expr) := separated (mark ",") (Expr.name <$> identifier)
  phrase "return" (perhaps (one r.items)) <|>
  importStatement <|>
  importFromStatement <|>
  phrase "raise" (perhaps do
    let error ← r.expression
    let cause ← perhaps do return (← word "from") ++ [← r.expression]
    return error :: cause) <|>
  (Small.pass <$> mark "pass") <|>
  phrase "del" (one (accepting isDeletable r.items)) <|>
  phrase "yield" failure <|>
  phrase "assert" (do
    let test ← r.expression
    let text ← perhaps do return (← word ",") ++ [← r.expression]
    return test :: text) <|>
  phrase "break" (pure []) <|>
  phrase "continue" (pure []) <|>
  phrase "global" names <|>
  phrase "nonlocal" names

/-- A small statement. -/
def small : Parser Small :=
  typeAlias r <|> valueStatement r <|> (Small.expr <$> r.yield) <|> keywordStatement r

/-- Small statements up to the end of the line. -/
def smallsUpTo : Nat → Parser (List Item)
  | 0 => failure
  | fuel + 1 => do
    let statement ← small r
    if ← atEnd then return [⟨statement, none⟩]
    let lexeme ← mark ";"
    if ← atEnd then return [⟨statement, some ⟨lexeme, ""⟩⟩]
    return ⟨statement, some ⟨lexeme, ""⟩⟩ :: (← smallsUpTo fuel)

/-- Small statements up to the end of the line. -/
def smalls : Parser (List Item) := fun tokens =>
  smallsUpTo r (tokens.length + 1) tokens

/-! ## The starts of compound statements -/

/-- What a line starts. -/
inductive Opening where
  | function (head : FunctionHead)
  | classDef (head : ClassHead)
  | clause (head : ClauseHead)

/-- A function up to the colon. -/
def functionHead (leading : List BlankLine) (asynchronous : Option Lexeme) : Parser Opening := do
  let keyword ← mark "def"
  let name ← identifier
  let types ← perhaps (typeParameters r)
  let opening ← word "("
  let parameters ← r.parameters true ")"
  let closing ← word ")"
  let result ← perhaps do return (← word "->") ++ [← r.expression]
  return .function ⟨leading, [], [], asynchronous, keyword, name,
    types ++ opening ++ parameters ++ closing ++ result, ← mark ":"⟩

/-- A class up to the colon. -/
def classHead (leading : List BlankLine) : Parser Opening := do
  let keyword ← mark "class"
  let name ← identifier
  let types ← perhaps (typeParameters r)
  let arguments ← if ← nextIs "(" then do
      let opening ← mark "("
      let items ← r.arguments
      pure (some ⟨opening, items, ← mark ")"⟩)
    else pure none
  return .classDef ⟨leading, [], [], keyword, name, types, arguments, ← mark ":"⟩

/-- The resources of a `with` statement, in brackets or not. -/
def withItems : Parser (List Expr) :=
  let one : Parser (List Expr) := do
    let value ← r.expression
    let target ← perhaps do
      return (← word "as") ++ [← accepting isTargets do
        match ← perhaps (word "*") with
        | [] => r.primary
        | star => return .phrase (star ++ [← r.primary])]
    return value :: target
  let several : Parser (List Expr) := do
    let first ← one
    let others ← many do return (← word ",") ++ (← one)
    return first ++ others.flatten
  let enclosed : Parser (List Expr) := do
    let opening ← word "("
    let inner ← several
    let last ← perhaps (word ",")
    let closing ← word ")"
    if ← nextIs ":" then return opening ++ inner ++ last ++ closing else failure
  enclosed <|> several

/-- What stands between the keyword of a clause and its colon. -/
def condition (keyword : String) : Parser (List Expr) :=
  match keyword with
  | "if" | "elif" | "while" => do return [← r.named]
  | "for" => do
    let targets ← r.loopTargets
    let source ← word "in"
    return targets :: source ++ [← r.items]
  | "with" => withItems r
  | "except" => do
    if ← nextIs ":" then return []
    let star ← perhaps (word "*")
    let error ← r.expression
    let name ← perhaps do return (← word "as") ++ (← keep identifier)
    return star ++ error :: name
  | "match" => do return [phraseOf (← commaList r.namedItem)]
  | "case" => do
    let pattern ← patterns r.strings
    let guard ← perhaps do return (← word "if") ++ [← r.named]
    return pattern :: guard
  | _ => pure []

/-- A clause up to the colon. -/
def clauseHead (leading : List BlankLine) (asynchronous : Option Lexeme) (keywords : List String) :
    Parser Opening := do
  let keyword ← tokenWhere fun t => t.kind = .name && keywords.contains t.text
  let condition ← condition r keyword.text
  return .clause ⟨leading, asynchronous, keyword, condition, ← mark ":"⟩

/-- The keywords that start a clause anywhere. -/
def clauseKeywords : List String :=
  ["if", "elif", "else", "for", "while", "try", "except", "finally", "with"]

/-- The start of a function, a class or a clause. -/
def opening (leading : List BlankLine) : Parser Opening := do
  if ← nextIs "async" then
    let asynchronous ← mark "async"
    functionHead r leading (some asynchronous) <|> clauseHead r leading (some asynchronous) ["for", "with"]
  else functionHead r leading none <|> classHead r leading <|> clauseHead r leading none clauseKeywords

/-- A decorator up to the end of its line. -/
def decorator (leading : List BlankLine) (ending : LineEnd) : Parser Decorator := do
  let sign ← mark "@"
  let value ← r.named
  if ← atEnd then return ⟨leading, sign, value, ending⟩ else failure

end

end Stopwatch.Syntax.Grammar

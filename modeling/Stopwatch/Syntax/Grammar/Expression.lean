/-
  The grammar of expressions.

  Every rule that goes back to a whole expression inside brackets, behind a keyword
  or in a field is given the rules of the next level, `Rules`; each level takes at
  least one token, so there are never more levels than tokens.

  The operators with two operands are not told apart by how strongly they bind: a
  run of operands and operators is one phrase.  Only comparisons are.
-/
import Stopwatch.Syntax.Grammar.Parser

namespace Stopwatch.Syntax.Grammar

/-- The rules for what stands inside brackets or behind a keyword. -/
structure Rules where
  /-- A conditional expression, a function without a name, or simpler. -/
  expression : Parser Expr
  /-- Operands of `or`, or simpler. -/
  disjunction : Parser Expr
  /-- Operands of arithmetic, or simpler. -/
  sum : Parser Expr
  /-- A field of a formatted string. -/
  field : Parser Expr
  /-- The targets of a loop. -/
  targets : Parser Expr

namespace Rules

variable (r : Rules)

/-- An expression that may give its value a name. -/
def named : Parser Expr := do
  if ← secondIs ":=" then
    let name ← identifier
    let sign ← mark ":="
    return .phrase [.name name, .token sign, ← r.expression]
  else r.expression

/-- A starred operand. -/
def starred : Parser Expr := do
  let star ← mark "*"
  return .phrase [.token star, ← r.sum]

/-- An item of a tuple without brackets. -/
def item : Parser Expr :=
  r.starred <|> r.expression

/-- An item of a tuple, a list or a set. -/
def namedItem : Parser Expr :=
  r.starred <|> r.named

/-- One item, or a tuple without brackets. -/
def items : Parser Expr :=
  phraseOf <$> commaList r.item

/-- A `yield` expression. -/
def yield : Parser Expr := do
  let keyword ← mark "yield"
  if ← nextIs "from" then
    let source ← mark "from"
    return .phrase [.token keyword, .token source, ← r.expression]
  else return .phrase (.token keyword :: (← perhaps do return [← r.items]))

/-- A `yield` expression, or items. -/
def yieldOrItems : Parser Expr :=
  r.yield <|> r.items

/-! ## Atoms -/

/-- A field of a formatted string: an expression, perhaps `=`, a conversion, and a format. -/
def fieldParts : Parser Expr := do
  let opening ← mark "\x7b"
  let value ← r.yieldOrItems
  let equal ← perhaps (word "=")
  let conversion ← perhaps do
    let mark ← mark "!"
    let letter ← tokenWhere fun t => t.kind = .name && ["s", "r", "a"].contains t.text
    return [Expr.token mark, Expr.token letter]
  let spec ← perhaps do
    let colon ← mark ":"
    let parts ← many ((Expr.token <$> tokenOf .formatText) <|> r.field)
    return .token colon :: parts
  return .bracketed opening (.phrase (value :: (equal ++ conversion ++ spec))) (← mark "\x7d")

/-- A formatted string. -/
def formatted : Parser Expr := do
  let opening ← tokenOf .formatOpen
  let parts ← many ((Expr.token <$> tokenOf .formatText) <|> r.field)
  let closing ← tokenOf .formatClose
  return .formatted (.token opening :: parts ++ [.token closing])

/-- A string, or several side by side. -/
def strings : Parser Expr := do
  let part := (Expr.string <$> tokenOf .string) <|> r.formatted
  let first ← part
  match ← many part with
  | [] => return first
  | others => return .strings (first :: others)

end Rules

/-! ## Targets -/

mutual

/-- Whether an expression is a target, a starred one, or a tuple of such. -/
def isTargets : Expr → Bool
  | .name l => !(["True", "False", "None"].contains l.text)
  | .attribute .. | .subscript .. => true
  | .bracketed opening inner _ => opening.text ≠ "\x7b" && isTargets inner
  | .phrase (.token l :: rest) => l.text = "*" && areTargets rest
  | .phrase parts => areTargets parts
  | _ => false

/-- Whether all parts of a tuple are commas, targets or starred targets. -/
def areTargets : List Expr → Bool
  | [] => true
  | .token l :: rest => l.text = "," && areTargets rest
  | e :: rest => isTargets e && areTargets rest

end

/-- Whether an expression is a name, an attribute or an item of something. -/
def isPlainTarget : Expr → Bool
  | .name l => !(["True", "False", "None"].contains l.text)
  | .attribute .. | .subscript .. => true
  | _ => false

/-- Whether an expression is a single target. -/
def isTarget : Expr → Bool
  | .phrase _ => false
  | e => isTargets e

/-- Takes the result of a parser only if it passes a test. -/
def accepting (test : α → Bool) (p : Parser α) : Parser α := do
  let a ← p
  if test a then return a else failure

namespace Rules

variable (r : Rules)

/-! ## Comprehensions, arguments and subscripts -/

/-- The clauses of a comprehension. -/
def comprehension : Parser (List Expr) := do
  let clause : Parser (List Expr) := do
    let isAsync ← perhaps (word "async")
    let loop ← mark "for"
    let bound ← r.targets
    let source ← mark "in"
    let values ← r.disjunction
    let tests ← many do
      let keyword ← mark "if"
      return [Expr.token keyword, ← r.disjunction]
    return isAsync ++ [.token loop, bound, .token source, values] ++ tests.flatten
  match ← many clause with
  | [] => failure
  | clauses => return clauses.flatten

/-- Whether a comprehension goes on here. -/
def atComprehension : Parser Bool := do
  return (← nextIs "for") || (← nextIs "async")

/-- The kinds of arguments of a call, in the order in which they may stand. -/
inductive ArgumentStage where
  | positional
  | keyword
  | mapping
  deriving DecidableEq

/-- One argument: what stands in front of its value, its value, and the stage that is
reached with it. -/
def argument (stage : ArgumentStage) : Parser (List Lexeme × Expr × ArgumentStage) := do
  if ← nextIs "**" then
    let stars ← mark "**"
    return ([stars], ← r.expression, .mapping)
  else if ← nextIs "*" then
    if stage = .mapping then failure
    let star ← mark "*"
    return ([star], ← r.expression, stage)
  else if ← secondIs "=" then
    let name ← identifier
    let sign ← mark "="
    return ([name, sign], ← r.expression, if stage = .mapping then .mapping else .keyword)
  else if stage = .positional then
    return ([], ← r.named, .positional)
  else failure

/-- The arguments after the first one, which has been read. -/
def furtherArguments : Nat → List Lexeme × Expr × ArgumentStage → Parser (List Expr)
  | 0, _ => failure
  | fuel + 1, (lead, value, stage) => do
    if ← nextIs "," then
      let comma ← mark ","
      if ← nextIs ")" then return [.argument lead value [comma]]
      let next ← r.argument stage
      return .argument lead value [comma] :: (← furtherArguments fuel next)
    else return [.argument lead value []]

/-- The arguments of a call: arguments between commas, or a single comprehension. -/
def arguments : Parser (List Expr) := do
  if ← nextIs ")" then return []
  let (lead, value, stage) ← r.argument .positional
  if lead.isEmpty && (← atComprehension) then
    return [.argument [] (.phrase (value :: (← r.comprehension))) []]
  else fun tokens => r.furtherArguments (tokens.length + 1) (lead, value, stage) tokens

/-- An index, or a slice with its one or two colons. -/
def slice : Parser Expr := do
  if ← secondIs ":=" then return ← r.named
  let bound : Parser (List Expr) := do
    if (← nextIs ":") || (← nextIs ",") || (← nextIs "]") then return []
    return [← r.expression]
  let first ← bound
  if ← nextIs ":" then
    let colon ← word ":"
    let last ← bound
    let step ← perhaps do return (← word ":") ++ (← bound)
    return .phrase (first ++ colon ++ last ++ step)
  else
    match first with
    | [index] => return index
    | _ => failure

/-- What stands between the square brackets of a subscript. -/
def slices : Parser (List Expr) :=
  commaList <| (do
    let star ← mark "*"
    return .phrase [.token star, ← r.expression]) <|> r.slice

/-! ## Displays -/

/-- The items after the first one, which has been read, or the clauses of a
comprehension over it. -/
def afterFirst (item : Parser Expr) (mayLoop : Bool) : Parser (List Expr) := do
  if mayLoop && (← atComprehension) then r.comprehension
  else
    let others ← many do
      let comma ← mark ","
      return [Expr.token comma, ← item]
    return others.flatten ++ (← perhaps (word ","))

/-- Whether an expression starts with a star. -/
def isStarred : Expr → Bool
  | .phrase (.token l :: _) => l.text = "*"
  | _ => false

/-- What stands between round brackets: nothing, an expression, a tuple, or a comprehension. -/
def round : Parser Expr := do
  let opening ← mark "("
  if ← nextIs ")" then return .bracketed opening (.phrase []) (← mark ")")
  if ← nextIs "yield" then return .bracketed opening (← r.yield) (← mark ")")
  let first ← r.namedItem
  match ← r.afterFirst r.namedItem (!isStarred first) with
  | [] => if isStarred first then failure else return .bracketed opening first (← mark ")")
  | others => return .bracketed opening (.phrase (first :: others)) (← mark ")")

/-- A list, or a comprehension that makes one. -/
def square : Parser Expr := do
  let opening ← mark "["
  if ← nextIs "]" then return .bracketed opening (.phrase []) (← mark "]")
  let first ← r.namedItem
  let others ← r.afterFirst r.namedItem (!isStarred first)
  return .bracketed opening (.phrase (first :: others)) (← mark "]")

/-- An entry of a dictionary. -/
def entry : Parser Expr := do
  if ← nextIs "**" then
    let stars ← mark "**"
    return .phrase [.token stars, ← r.sum]
  else
    let key ← r.expression
    let colon ← mark ":"
    return .phrase [key, .token colon, ← r.expression]

/-- A dictionary, a set, or a comprehension that makes one. -/
def curly : Parser Expr := do
  let opening ← mark "\x7b"
  if ← nextIs "\x7d" then return .bracketed opening (.phrase []) (← mark "\x7d")
  let isMapping ← nextIs "**"
  let first ← if isMapping then r.entry else r.namedItem
  let isDictionary := isMapping || (← nextIs ":")
  let first ← if isMapping || !isDictionary then pure first else do
    let colon ← mark ":"
    pure (Expr.phrase [first, .token colon, ← r.expression])
  let mayLoop := !isMapping && !isStarred first
  let others ← r.afterFirst (if isDictionary then r.entry else r.namedItem) mayLoop
  return .bracketed opening (.phrase (first :: others)) (← mark "\x7d")

/-! ## From atoms to expressions -/

/-- An expression that no operator can take apart. -/
def atom : Parser Expr :=
  (Expr.name <$> tokenWhere fun t => t.isName || ["True", "False", "None"].any t.is) <|>
  (Expr.number <$> tokenOf .number) <|>
  r.strings <|>
  (Expr.ellipsis <$> mark "...") <|>
  r.round <|> r.square <|> r.curly

/-- What may follow an atom: look-ups, calls and subscripts. -/
def trailers : Nat → Expr → Parser Expr
  | 0, e => pure e
  | fuel + 1, e => do
    if ← nextIs "." then
      let dot ← mark "."
      trailers fuel (.attribute e dot (← identifier))
    else if ← nextIs "(" then
      let opening ← mark "("
      let found ← r.arguments
      trailers fuel (.call e opening found (← mark ")"))
    else if ← nextIs "[" then
      let opening ← mark "["
      let found ← r.slices
      trailers fuel (.subscript e opening found (← mark "]"))
    else return e

/-- An atom and all that follows it. -/
def primary : Parser Expr := do
  let e ← r.atom
  fun tokens => r.trailers tokens.length e tokens

/-- The targets of a loop: one, or several between commas, each of which may be starred. -/
def loopTargets : Parser Expr :=
  accepting isTargets <| phraseOf <$> commaList do
    match ← perhaps (word "*") with
    | [] => r.primary
    | star => return .phrase (star ++ [← r.primary])

/-- The operators with two operands other than comparisons. -/
def arithmetic : List String :=
  ["|", "^", "&", "<<", ">>", "+", "-", "*", "/", "//", "%", "@", "**"]

/-- Signs in front of an atom that may be awaited. -/
def operand : Parser Expr := do
  let signs ← many (Expr.token <$> markOf ["+", "-", "~"])
  let base ← if ← nextIs "await" then do
      let keyword ← mark "await"
      pure (Expr.await keyword (← r.primary))
    else r.primary
  return phraseOf (signs ++ [base])

/-- Operands of arithmetic. -/
def arithmeticOperands : Parser Expr :=
  phraseOf <$> separated (markOf arithmetic) r.operand

/-- An operator that compares. -/
def comparator : Parser (List Lexeme) :=
  (do return [← mark "not", ← mark "in"]) <|>
  (do return [← mark "is", ← mark "not"]) <|>
  (do return [← markOf ["==", "!=", "<=", "<", ">=", ">", "in", "is"]])

/-- A comparison, or one operand. -/
def comparison : Parser Expr := do
  let left ← r.arithmeticOperands
  let others ← many do return (← comparator, ← r.arithmeticOperands)
  match others with
  | [] => return left
  | [(operator, right)] => return .comparison left operator right
  | _ => return .phrase (left :: others.flatMap fun (operator, right) => operator.map .token ++ [right])

/-- A comparison that may be negated. -/
def inversion : Parser Expr := do
  let signs ← many (Expr.token <$> mark "not")
  return phraseOf (signs ++ [← r.comparison])

/-- Operands of `or`. -/
def alternatives : Parser Expr :=
  phraseOf <$> separated (mark "or") (phraseOf <$> separated (mark "and") r.inversion)

/-- An expression that a condition may choose. -/
def conditional : Parser Expr := do
  let first ← r.alternatives
  let choice ← perhaps do
    let keyword ← mark "if"
    let condition ← r.alternatives
    let otherwise ← mark "else"
    return [Expr.token keyword, condition, .token otherwise, ← r.expression]
  return phraseOf (first :: choice)

end Rules

/-! ## Parameters -/

/-- What has been seen of a list of parameters. -/
structure ParameterState where
  /-- A parameter has been seen. -/
  started : Bool
  /-- The mark behind the parameters without keyword has been seen. -/
  slashed : Bool
  /-- A parameter with a default has been seen. -/
  defaulted : Bool
  /-- The star has been seen. -/
  starred : Bool
  /-- A bare star still needs a parameter behind it. -/
  owesName : Bool

/-- No parameter has been seen. -/
def ParameterState.initial : ParameterState :=
  ⟨false, false, false, false, false⟩

namespace Rules

variable (r : Rules)

/-- The name of a parameter, and its annotation where that is allowed. -/
def parameterName (annotated : Bool) (typeRule : Parser Expr) : Parser (List Expr) := do
  let name ← identifier
  if annotated && (← nextIs ":") then
    let colon ← word ":"
    return .name name :: (colon ++ [← typeRule])
  else return [.name name]

/-- One parameter, or one of the marks between parameters, and what has then been seen. -/
def parameter (annotated : Bool) (s : ParameterState) : Parser (List Expr × ParameterState) := do
  if ← nextIs "/" then
    if !s.started || s.slashed || s.starred then failure
    return (← word "/", { s with slashed := true })
  else if ← nextIs "*" then
    if s.starred then failure
    let star ← word "*"
    if ← nextIs "," then return (star, { s with starred := true, owesName := true })
    return (star ++ (← parameterName annotated r.item), { s with starred := true })
  else
    let name ← parameterName annotated r.expression
    if ← nextIs "=" then
      let sign ← word "="
      return (name ++ sign ++ [← r.expression], { s with started := true, defaulted := true, owesName := false })
    else if s.defaulted && !s.starred then failure
    else return (name, { s with started := true, owesName := false })

/-- Parameters up to a closing mark, which is left in place. -/
def parametersFrom (annotated : Bool) (closing : String) : Nat → ParameterState → Parser (List Expr)
  | 0, _ => failure
  | fuel + 1, s => do
    if ← nextIs closing then if s.owesName then failure else return []
    else if ← nextIs "**" then
      if s.owesName then failure
      let stars ← word "**"
      return stars ++ (← parameterName annotated r.expression) ++ (← perhaps (word ","))
    else
      let (parts, s) ← r.parameter annotated s
      if ← nextIs "," then
        let comma ← word ","
        return parts ++ comma ++ (← parametersFrom annotated closing fuel s)
      else if s.owesName then failure
      else return parts

/-- Parameters up to a closing mark, which is left in place. -/
def parameters (annotated : Bool) (closing : String) : Parser (List Expr) := fun tokens =>
  r.parametersFrom annotated closing (tokens.length + 1) .initial tokens

/-- A function without a name. -/
def lambda : Parser Expr := do
  let keyword ← mark "lambda"
  let parameters ← r.parameters false ":"
  let colon ← mark ":"
  return .phrase (.token keyword :: parameters ++ [.token colon, ← r.expression])

/-- The rules one level further out. -/
def next : Rules where
  expression := r.lambda <|> r.conditional
  disjunction := r.alternatives
  sum := r.arithmeticOperands
  field := r.fieldParts
  targets := r.loopTargets

end Rules

/-- The rules down to a given number of levels. -/
def rulesUpTo : Nat → Rules
  | 0 => ⟨failure, failure, failure, failure, failure⟩
  | levels + 1 => (rulesUpTo levels).next

end Stopwatch.Syntax.Grammar

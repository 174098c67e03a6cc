/-
  From an outline to a module.

  Each logical line is read on its own.  The lines of one block are then put
  together: decorators go to the definition below them, and clauses such as `else`
  go to the statement that they belong to.  That is done from the last line to the
  first, so each clause and each definition finds what follows it already built.
-/
import Stopwatch.Syntax.Grammar.Statement
import Stopwatch.Syntax.Outline

namespace Stopwatch.Syntax

open Grammar

/-- What a line of a block is, with its suite. -/
inductive Entry where
  | statement (s : Stmt)
  | decorator (d : Decorator)
  | clause (c : Clause)

/-! ## One line -/

/-- Takes the blank in front of the first token away. -/
def takeBlank : List Token → String × List Token
  | ⟨kind, ⟨.inline blank, text⟩⟩ :: rest => (blank, ⟨kind, Lexeme.bare text⟩ :: rest)
  | tokens => ("", tokens)

/-- A blank behind the last semicolon of a line belongs to that semicolon. -/
def moveBlank (items : List Item) (ending : LineEnd) : List Item × LineEnd :=
  match items.getLast? with
  | some ⟨statement, some s⟩ =>
    (items.dropLast ++ [⟨statement, some { s with after := ending.blank }⟩], { ending with blank := "" })
  | _ => (items, ending)

/-- The rules that suffice for some tokens. -/
def rulesFor (tokens : List Token) : Rules :=
  rulesUpTo (tokens.length + 2)

/-- Small statements that take all of some tokens. -/
def items? (tokens : List Token) (ending : LineEnd) : Option (List Item × LineEnd) :=
  match smalls (rulesFor tokens) tokens with
  | some (items, []) => some (moveBlank items ending)
  | _ => none

/-- A suite on the line of its colon. -/
def inlineSuite? (tokens : List Token) (ending : LineEnd) : Option Suite := do
  let (blank, tokens) := takeBlank tokens
  let (items, ending) ← items? tokens ending
  pure (.inline blank items ending)

/-- A definition or a clause with its suite. -/
def Grammar.Opening.entry (suite : Suite) : Opening → Entry
  | .function head => .statement (.function head suite)
  | .classDef head => .statement (.classDef head suite)
  | .clause head => .clause (.mk head suite)

/-- A line that heads no block.  Inside a `match` it is a case. -/
def leafEntry? (inMatch : Bool) (leading : List BlankLine) (tokens : List Token) (ending : LineEnd) :
    Option Entry :=
  let r := rulesFor tokens
  let start := if inMatch then clauseHead r leading none ["case"] else opening r leading
  match start tokens with
  | some (found, rest) => (inlineSuite? rest ending).map fun suite => found.entry suite
  | none =>
    if inMatch then none
    else
      match decorator r leading ending tokens with
      | some (d, _) => some (.decorator d)
      | none => (items? tokens ending).map fun (items, ending) => .statement (.line leading items ending)

/-- Whether a line that heads a block starts a `match`. -/
def startsMatch : List Token → Bool
  | t :: _ => t.kind = .name && t.text = "match"
  | [] => false

/-- A line that heads a block. -/
def headEntry? (inMatch : Bool) (leading : List BlankLine) (tokens : List Token) (suite : Suite) :
    Option Entry :=
  let r := rulesFor tokens
  let start :=
    if inMatch then clauseHead r leading none ["case"]
    else if startsMatch tokens then clauseHead r leading none ["match"]
    else opening r leading
  match start tokens with
  | some (found, []) => some (found.entry suite)
  | _ => none

/-! ## The lines of a block -/

/-- The keyword of a clause. -/
def Clause.keyword : Clause → String
  | .mk head _ => head.keyword.text

/-- Whether a clause is asynchronous. -/
def Clause.isAsynchronous : Clause → Bool
  | .mk head _ => head.asynchronous.isSome

/-- Whether a clause is an `except` of the kind that splits groups. -/
def Clause.splitsGroups : Clause → Bool
  | .mk head _ =>
    match head.condition with
    | .token l :: _ => l.text = "*"
    | _ => false

/-- Whether a clause is an `except` for all errors. -/
def Clause.catchesAll : Clause → Bool
  | .mk head _ => head.condition.isEmpty

/-- Whether a list of keywords is some keyword any number of times, then perhaps `else`,
then perhaps `finally`. -/
def endsWell (finallyAllowed : Bool) : List String → Bool
  | [] => true
  | ["else"] => true
  | ["finally"] => finallyAllowed
  | ["else", "finally"] => finallyAllowed
  | _ => false

/-- Whether clauses may follow one with a given keyword. -/
def mayFollow (keyword : String) (others : List Clause) : Bool :=
  let keywords := others.map Clause.keyword
  match keyword with
  | "if" => endsWell false (keywords.dropWhile (· = "elif"))
  | "for" | "while" => endsWell false keywords
  | "try" =>
    let handlers := others.takeWhile fun c => c.keyword = "except"
    if handlers.isEmpty then keywords = ["finally"]
    else
      endsWell true (keywords.drop handlers.length) &&
        (handlers.all Clause.splitsGroups || handlers.all fun c => !c.splitsGroups) &&
        handlers.dropLast.all fun c => !c.catchesAll
  | "with" | "match" | "case" => keywords.isEmpty
  | _ => false

/-- The keywords that start a compound statement. -/
def starters : List String :=
  ["if", "for", "while", "try", "with", "match", "case"]

/-- Gives a decorator to the definition below it. -/
def Stmt.decorate? (d : Decorator) : Stmt → Option Stmt
  | .function head suite =>
    match head.decorators with
    | [] => some (.function { head with
        leading := d.leading, decorators := [{ d with leading := [] }], afterDecorators := head.leading } suite)
    | first :: others => some (.function { head with
        leading := d.leading
        decorators := { d with leading := [] } :: { first with leading := head.leading } :: others } suite)
  | .classDef head suite =>
    match head.decorators with
    | [] => some (.classDef { head with
        leading := d.leading, decorators := [{ d with leading := [] }], afterDecorators := head.leading } suite)
    | first :: others => some (.classDef { head with
        leading := d.leading
        decorators := { d with leading := [] } :: { first with leading := head.leading } :: others } suite)
  | _ => none

/-- The statements from one line on, and the clauses in front of them that still need
a start. -/
structure Assembly where
  waiting : List Clause
  statements : List Stmt

/-- Puts one more line in front. -/
def Assembly.push? (entry : Entry) (a : Assembly) : Option Assembly :=
  match entry with
  | .statement s => if a.waiting.isEmpty then some ⟨[], s :: a.statements⟩ else none
  | .decorator d =>
    match a.waiting, a.statements with
    | [], s :: rest => (s.decorate? d).map fun s => ⟨[], s :: rest⟩
    | _, _ => none
  | .clause c =>
    if starters.contains c.keyword then
      if mayFollow c.keyword a.waiting then some ⟨[], .compound c a.waiting :: a.statements⟩ else none
    else some ⟨c :: a.waiting, a.statements⟩

/-- The statements that some lines make up. -/
def assemble? (entries : List Entry) : Option (List Stmt) := do
  let a ← entries.foldrM Assembly.push? ⟨[], []⟩
  if a.waiting.isEmpty then pure a.statements else none

mutual

/-- A line of an outline with all that is below it. -/
def entry? (inMatch : Bool) : OutlineLine → Option Entry
  | .leaf leading tokens ending => leafEntry? inMatch leading tokens ending
  | .head leading tokens ending step block footer =>
    match entries? (!inMatch && startsMatch tokens) block with
    | none => none
    | some entries =>
      match assemble? entries with
      | none => none
      | some body => headEntry? inMatch leading tokens (.block ending step body footer)

/-- The lines of a block. -/
def entries? (inMatch : Bool) : List OutlineLine → Option (List Entry)
  | [] => some []
  | l :: ls =>
    match entry? inMatch l, entries? inMatch ls with
    | some e, some es => some (e :: es)
    | _, _ => none

end

/-! ## The whole text -/

/-- The lines in front of a statement. -/
def Stmt.leading : Stmt → List BlankLine
  | .line leading _ _ => leading
  | .function head _ => head.leading
  | .classDef head _ => head.leading
  | .compound (.mk head _) _ => head.leading

/-- Changes the lines in front of a statement. -/
def Stmt.setLeading (leading : List BlankLine) : Stmt → Stmt
  | .line _ items ending => .line leading items ending
  | .function head suite => .function { head with leading } suite
  | .classDef head suite => .classDef { head with leading } suite
  | .compound (.mk head suite) others => .compound (.mk { head with leading } suite) others

/-- The lines at the end of a module.  A line with blanks in it, unless a comment
without indentation stands before it, belongs to no statement: it is dropped with all
lines before it. -/
def moduleFooter (lines : List BlankLine) : List BlankLine :=
  let (front, rest) := lines.span fun l => l.blank = "" && l.comment.isNone
  match rest with
  | l :: after => if l.blank = "" then front ++ rest else after
  | [] => front

/-- Drops the mark that may stand in front of a text. -/
def dropByteOrderMark : List Char → List Char
  | '\uFEFF' :: rest => rest
  | cs => cs

/-- The module that a text holds, unless the text is malformed. -/
def Module.parse? (source : String) : Option Module := do
  let cs := dropByteOrderMark source.toList
  let outline ← outline? cs
  let body ← (entries? false outline.lines) >>= assemble?
  let endsInBreak := cs.getLast? = some '\n' && !Text.endsWith cs ['\\', '\n'] && !Text.endsWith cs ['\\', '\r', '\n']
  match body with
  | [] => pure ⟨outline.style, outline.footer, [], [], endsInBreak⟩
  | first :: others =>
    pure ⟨outline.style, first.leading, first.setLeading [] :: others, moduleFooter outline.footer, endsInBreak⟩

/-- The statement that a text holds, if it holds exactly one. -/
def Stmt.parse? (source : String) : Option Stmt := do
  let m ← Module.parse? source
  match m.body with
  | [s] => pure (s.setLeading m.header)
  | _ => none

/-- The tokens of a row with code that is not indented. -/
def Row.flushTokens? : Row → Option (List Token)
  | .code indentation tokens _ => if (depthFrom ⟨0, 0⟩ indentation).columns = 0 then some tokens else none
  | .blank _ => none

/-- Whether a row has no code. -/
def Row.isBlank : Row → Bool
  | .blank _ => true
  | .code .. => false

/-- The expression that a text holds, if it holds exactly one and nothing else. -/
def Expr.parse? (source : String) : Option Expr := do
  let cs := dropByteOrderMark source.toList
  let rows ← rows? (usualBreak cs) cs
  match rows.filter fun row => !row.isBlank with
  | [row] =>
    let tokens ← row.flushTokens?
    match (rulesFor tokens).items tokens with
    | some (e, []) => pure e
    | _ => none
  | _ => none

end Stopwatch.Syntax

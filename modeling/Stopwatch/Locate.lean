/-
  Locating asynchronous functions.

  The functions that count are those at the top level of a module and those directly
  inside a top-level class.  Each gets a name that is qualified by its class, and, if
  that name has been given before, by its line.  A module can be run if it has a
  top-level guard that compares `__name__` with `"__main__"`.
-/
import Stopwatch.Syntax.Module
import Stopwatch.Syntax.StringValue

namespace Stopwatch

open Syntax

-- The zero of numerals is meant, whatever else is imported.
attribute [local instance (high)] Zero.ofOfNat0

/-! ## What statements are -/

namespace Syntax

/-- The value of a line that holds a single expression. -/
def Stmt.loneExpr? : Stmt → Option Expr
  | .line _ [⟨.expr value, _⟩] _ => some value
  | _ => none

/-- Whether a statement is a line with nothing but a plain string. -/
def Stmt.isDocstring (s : Stmt) : Bool :=
  s.loneExpr?.any Expr.isStringLiteral

/-- Whether a statement is a line with nothing but `...`. -/
def Stmt.isEllipsis (s : Stmt) : Bool :=
  s.loneExpr?.any Expr.isEllipsis

/-- The statements of a suite; what stands on the line of the colon is one line. -/
def Suite.statements : Suite → List Stmt
  | .block _ _ body _ => body
  | .inline _ items ending => [.line [] items ending]

/-- Splits a docstring off the front of some statements. -/
def splitDocstring : List Stmt → List Stmt × List Stmt
  | [] => ([], [])
  | s :: ss => if s.isDocstring then ([s], ss) else ([], s :: ss)

/-- Whether a suite holds only `...`, perhaps after a docstring. -/
def Suite.isStub (suite : Suite) : Bool :=
  match (splitDocstring suite.statements).2 with
  | [only] => only.isEllipsis
  | _ => false

/-- The suite of a statement that has one. -/
def Stmt.suite? : Stmt → Option Suite
  | .line .. => none
  | .function _ suite | .classDef _ suite => some suite
  | .compound (.mk head suite) _ => if head.keyword.text = "match" then none else some suite

/-- Whether an expression is the name `__name__`. -/
def Expr.isModuleName (e : Expr) : Bool :=
  match e.unbracketed with
  | .name l => l.text = "__name__"
  | _ => false

/-- Whether an expression is a string that stands for `__main__`. -/
def Expr.isMainText (e : Expr) : Except StringFault Bool :=
  match e.unbracketed with
  | .string l => (stringValue l.text).map fun v => v.isText "__main__"
  | _ => .ok false

/-- Whether an expression compares `__name__` with `"__main__"`, in either order. -/
def Expr.isMainTest (e : Expr) : Except StringFault Bool :=
  match e.unbracketed with
  | .comparison left [operator] right =>
    if operator.text = "==" then do
      let leftText ← left.isMainText
      let rightText ← right.isMainText
      pure (left.isModuleName != right.isModuleName && leftText != rightText)
    else .ok false
  | _ => .ok false

/-- Whether a statement is a guard for the main program. -/
def Stmt.isMainGuard : Stmt → Except StringFault Bool
  | .compound (.mk head _) _ =>
    if head.keyword.text = "if" then
      match head.condition with
      | [test] => test.isMainTest
      | _ => .ok false
    else .ok false
  | _ => .ok false

/-! ## Counting awaits -/

/-- The number of `await` expressions in a small statement. -/
def Small.awaitCount : Small → Nat
  | .expr value => value.awaitCount
  | .importFrom _ _ _ _ => 0
  | .pass _ => 0
  | .other parts => parts.awaitCount

/-- The number of `await` expressions in small statements. -/
def itemAwaits (items : List Item) : Nat :=
  (items.map fun i => i.statement.awaitCount).sum

/-- The number of `await` expressions in decorators. -/
def decoratorAwaits (decorators : List Decorator) : Nat :=
  (decorators.map fun d => d.value.awaitCount).sum

/-- The number of `await` expressions in a function up to the colon. -/
def FunctionHead.awaitCount (h : FunctionHead) : Nat :=
  decoratorAwaits h.decorators + Expr.awaitCountOf h.signature

/-- The number of `await` expressions in a class up to the colon. -/
def ClassHead.awaitCount (h : ClassHead) : Nat :=
  decoratorAwaits h.decorators + Expr.awaitCountOf h.typeParameters +
    (h.arguments.map fun a => Expr.awaitCountOf a.items).getD 0

mutual

/-- The number of `await` expressions in a statement. -/
def Stmt.awaitCount : Stmt → Nat
  | .line _ items _ => itemAwaits items
  | .function head suite => head.awaitCount + suite.awaitCount
  | .classDef head suite => head.awaitCount + suite.awaitCount
  | .compound first others => first.awaitCount + clauseAwaits others

/-- The number of `await` expressions in a clause. -/
def Clause.awaitCount : Clause → Nat
  | .mk head suite => Expr.awaitCountOf head.condition + suite.awaitCount

/-- The number of `await` expressions in clauses. -/
def clauseAwaits : List Clause → Nat
  | [] => 0
  | c :: cs => c.awaitCount + clauseAwaits cs

/-- The number of `await` expressions in a suite. -/
def Suite.awaitCount : Suite → Nat
  | .block _ _ body _ => bodyAwaits body
  | .inline _ items _ => itemAwaits items

/-- The number of `await` expressions in statements. -/
def bodyAwaits : List Stmt → Nat
  | [] => 0
  | s :: ss => s.awaitCount + bodyAwaits ss

end

end Syntax

/-! ## The functions of a module -/

/-- What an asynchronous function is declared in. -/
inductive DeclarationKind where
  | function
  | plainClass
  | struct
  | enum
  | protocol
  deriving DecidableEq, Repr, Inhabited

/-- An asynchronous function that has been located.  Its line and its column are
those of the word `async`, counted from one. -/
structure AsyncFunction where
  name : String
  qualifiedName : String
  awaitCount : Nat
  line : Nat
  column : Nat
  kind : DeclarationKind
  hasBody : Bool
  deriving DecidableEq, Repr, Inhabited

/-- What has been located in a module. -/
structure Analysis where
  functions : List AsyncFunction
  hasEntryPoint : Bool
  deriving DecidableEq, Repr, Inhabited

/-- A function definition with what qualifies it and where it stands. -/
structure Candidate where
  kind : DeclarationKind
  context : Option String
  head : FunctionHead
  suite : Suite
  line : Nat
  column : Nat

/-- The bases that make a class an enumeration. -/
def enumBases : List String :=
  ["Enum", "IntEnum", "StrEnum", "Flag", "IntFlag"]

/-- The bases that make a class a protocol. -/
def protocolBases : List String :=
  ["Protocol"]

/-- The decorators that make a class a structure. -/
def structDecorators : List String :=
  ["dataclass"]

/-- The base classes of a class: its arguments in front of the first keyword. -/
def Syntax.ClassHead.bases (h : ClassHead) : List Expr :=
  match h.arguments with
  | none => []
  | some a => (a.items.takeWhile fun e => !e.isKeywordArgument).map Expr.argumentValue

/-- What kind of declaration a class is. -/
def Syntax.ClassHead.kind (h : ClassHead) : DeclarationKind :=
  let decorators := h.decorators.filterMap fun d => d.value.terminalName?
  let bases := h.bases.filterMap Expr.terminalName?
  if decorators.any structDecorators.contains then .struct
  else if bases.any enumBases.contains then .enum
  else if bases.any protocolBases.contains then .protocol
  else .plainClass

/-- Statements with the lines they start on. -/
def placed (style : Style) (indent : String) (line : Nat) : List Stmt → List (Nat × Stmt)
  | [] => []
  | s :: ss => (line, s) :: placed style indent (line + countBreaks (s.pieces style indent)) ss

/-- The function that a statement defines, as a candidate. -/
def functionCandidate? (style : Style) (indent : String) (kind : DeclarationKind) (context : Option String)
    (line : Nat) : Stmt → Option Candidate
  | .function head suite =>
    some ⟨kind, context, head, suite, line + countBreaks (head.preface style indent), indent.length + 1⟩
  | _ => none

/-- The functions that a top-level statement defines. -/
def candidatesOf (style : Style) (line : Nat) (s : Stmt) : List Candidate :=
  match s with
  | .classDef head (.block ending step body _) =>
    let indent := deeper style "" step
    let first := line + countBreaks (head.pieces style "") + countBreaks (ending.pieces style)
    (placed style indent first body).filterMap fun (line, member) =>
      functionCandidate? style indent head.kind (some head.name.text) line member
  | s => (functionCandidate? style "" .function none line s).toList

/-- The first line behind the header of a module. -/
def Syntax.Module.firstLine (m : Module) : Nat :=
  1 + countBreaks (blankPieces m.style "" m.header)

/-- The asynchronous functions of a module that count, in order. -/
def Syntax.Module.candidates (m : Module) : List Candidate :=
  ((placed m.style "" m.firstLine m.body).flatMap fun (line, s) => candidatesOf m.style line s).filter
    fun c => c.head.asynchronous.isSome

/-- The name of a candidate, qualified by its class. -/
def Candidate.plainName (c : Candidate) : String :=
  match c.context with
  | some context => context ++ "." ++ c.head.name.text
  | none => c.head.name.text

/-- A candidate under its final name. -/
def Candidate.toFunction (c : Candidate) (qualifiedName : String) : AsyncFunction where
  name := c.head.name.text
  qualifiedName
  awaitCount := if c.suite.isStub then 0 else c.suite.awaitCount
  line := c.line
  column := c.column
  kind := c.kind
  hasBody := !c.suite.isStub

/-- Candidates under their final names: a name that has been given before is told
apart by the line. -/
def nameCandidates (seen : List String) : List Candidate → List AsyncFunction
  | [] => []
  | c :: cs =>
    let name := if seen.contains c.plainName then c.plainName ++ "@" ++ toString c.line else c.plainName
    c.toFunction name :: nameCandidates (name :: seen) cs

/-- Whether one of some statements is a guard for the main program. -/
def hasMainGuard : List Stmt → Except StringFault Bool
  | [] => .ok false
  | s :: ss => do
    let here ← s.isMainGuard
    let later ← hasMainGuard ss
    pure (here || later)

/-- What can be located in a module.  Fails if a top-level comparison holds a
malformed string. -/
def Syntax.Module.analyze (m : Module) : Except StringFault Analysis := do
  let hasEntryPoint ← hasMainGuard m.body
  pure ⟨nameCandidates [] m.candidates, hasEntryPoint⟩

end Stopwatch

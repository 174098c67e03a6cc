/-
  Instrumenting a module.

  Every asynchronous function that has a body is made to record how long each call
  takes: its body goes into a `try` whose `finally` tells the collector the name of
  the function, the time since the start, and where the function stands.  A docstring
  stays in front, and stubs are left alone.

  The module also gets the collector: its whole definition, or an import of it, or
  nothing.  That goes behind the docstring and the imports from `__future__`.
-/
import Stopwatch.Collector.Source
import Stopwatch.Locate
import Stopwatch.Syntax.Parse
import Stopwatch.Text.Quoted

namespace Stopwatch

open Syntax

/-- Where an instrumented module gets the collector from. -/
inductive CollectorOrigin where
  | definition
  | importFrom (moduleName : String)
  | absent
  deriving DecidableEq, Repr, Inhabited

/-- How a module is to be instrumented: the file name that records carry, and the
origin of the collector. -/
structure Plan where
  fileName : String
  origin : CollectorOrigin
  deriving DecidableEq, Repr, Inhabited

/-! ## Statements that are added -/

/-- The variable that holds the time at which a call of a function started. -/
def startName (function : String) : String :=
  "_async_profiler_start_" ++ function

/-- The collector as an expression, with a blank in front of it or not. -/
def collectorName (gap : String) : Expr :=
  .name ⟨.inline gap, Collector.markerName⟩

/-- A call of a method of the collector. -/
def collectorCall (gap method : String) (arguments : List Expr) : Expr :=
  .call (.attribute (collectorName gap) (.bare ".") (.bare method)) (.bare "(") arguments (.bare ")")

/-- A statement on a line of its own. -/
def plainLine (statement : Small) : Stmt :=
  .line [] [⟨statement, none⟩] .plain

/-- The statement that takes the time at the start of a call. -/
def startStatement (function : String) : Stmt :=
  plainLine <| .other <| .phrase
    [.name (.bare (startName function)), .token (.spaced "="), collectorCall " " "clock" []]

/-- The statement that records a call. -/
def recordStatement (function : String) (line : Nat) (file : String) : Stmt :=
  plainLine <| .expr <| collectorCall "" "record"
    [.argument [] (.string (.bare (Text.quoted function))) [.bare ","],
     .argument [] (.phrase
       [collectorCall " " "clock" [], .token (.spaced "-"), .name (.spaced (startName function))]) [.bare ","],
     .argument [] (.number (.spaced (toString line))) [.bare ","],
     .argument [] (.string (.spaced (Text.quoted file))) []]

/-- A clause of a `try` statement without a condition. -/
def plainClause (keyword : String) (body : List Stmt) (footer : List BlankLine) : Clause :=
  .mk ⟨[], none, .bare keyword, [], .bare ":"⟩ (.block .plain none body footer)

/-- The statement that keeps some statements and records the call when they are left. -/
def guardedStatement (body : List Stmt) (footer : List BlankLine) (record : Stmt) : Stmt :=
  .compound (plainClause "try" body footer) [plainClause "finally" [record] []]

/-- Statements, or a `pass` where there are none. -/
def orPass : List Stmt → List Stmt
  | [] => [plainLine (.pass (.bare "pass"))]
  | body => body

/-- The statements of a function that is measured: its docstring, the start of the
clock, and the guarded rest. -/
def measuredBody (function : String) (line : Nat) (file : String) (body : List Stmt) (footer : List BlankLine) :
    List Stmt :=
  let (docstring, rest) := splitDocstring body
  docstring ++
    [startStatement function, guardedStatement (orPass rest) footer (recordStatement function line file)]

/-- The suite of a function that is measured.  One on the line of the colon becomes a
block. -/
def measuredSuite (function : String) (line : Nat) (file : String) : Suite → Suite
  | .block ending step body footer =>
    .block ending step (measuredBody function line file body footer) []
  | .inline _ items ending =>
    .block ending none (measuredBody function line file [.line [] items .plain] []) []

/-! ## Wrapping functions -/

/-- Whether a function is measured: it is asynchronous and no stub. -/
def isMeasured (head : FunctionHead) (suite : Suite) : Bool :=
  head.asynchronous.isSome && !suite.isStub

mutual

/-- A statement that starts on a given line, with all functions in it measured. -/
def wrapStmt (style : Style) (file indent : String) (line : Nat) : Stmt → Stmt
  | .line leading items ending => .line leading items ending
  | .function head suite =>
    let inner := wrapSuite style file indent (line + countBreaks (head.pieces style indent)) suite
    .function head <|
      if isMeasured head suite then
        measuredSuite head.name.text (line + countBreaks (head.preface style indent)) file inner
      else inner
  | .classDef head suite =>
    .classDef head (wrapSuite style file indent (line + countBreaks (head.pieces style indent)) suite)
  | .compound first others =>
    .compound (wrapClause style file indent line first)
      (wrapClauses style file indent (line + countBreaks (first.pieces style indent)) others)

/-- A clause with all functions in it measured. -/
def wrapClause (style : Style) (file indent : String) (line : Nat) : Clause → Clause
  | .mk head suite =>
    .mk head (wrapSuite style file indent (line + countBreaks (head.pieces style indent)) suite)

/-- Clauses with all functions in them measured. -/
def wrapClauses (style : Style) (file indent : String) (line : Nat) : List Clause → List Clause
  | [] => []
  | c :: cs =>
    wrapClause style file indent line c ::
      wrapClauses style file indent (line + countBreaks (c.pieces style indent)) cs

/-- A suite with all functions in it measured; `line` is the line of its colon. -/
def wrapSuite (style : Style) (file indent : String) (line : Nat) : Suite → Suite
  | .block ending step body footer =>
    .block ending step
      (wrapBody style file (deeper style indent step) (line + countBreaks (ending.pieces style)) body) footer
  | .inline blank items ending => .inline blank items ending

/-- Statements with all functions in them measured. -/
def wrapBody (style : Style) (file indent : String) (line : Nat) : List Stmt → List Stmt
  | [] => []
  | s :: ss =>
    wrapStmt style file indent line s ::
      wrapBody style file indent (line + countBreaks (s.pieces style indent)) ss

end

mutual

/-- The functions in a statement that are measured, inner ones first. -/
def measuredNames : Stmt → List String
  | .line .. => []
  | .function head suite =>
    measuredNamesOfSuite suite ++ if isMeasured head suite then [head.name.text] else []
  | .classDef _ suite => measuredNamesOfSuite suite
  | .compound first others => measuredNamesOfClause first ++ measuredNamesOfClauses others

/-- The functions in a clause that are measured. -/
def measuredNamesOfClause : Clause → List String
  | .mk _ suite => measuredNamesOfSuite suite

/-- The functions in clauses that are measured. -/
def measuredNamesOfClauses : List Clause → List String
  | [] => []
  | c :: cs => measuredNamesOfClause c ++ measuredNamesOfClauses cs

/-- The functions in a suite that are measured. -/
def measuredNamesOfSuite : Suite → List String
  | .block _ _ body _ => measuredNamesOfBody body
  | .inline .. => []

/-- The functions in statements that are measured. -/
def measuredNamesOfBody : List Stmt → List String
  | [] => []
  | s :: ss => measuredNames s ++ measuredNamesOfBody ss

end

/-! ## Adding the collector -/

/-- A dotted name as the tokens of a path to a module. -/
def modulePath : List String → Option Expr
  | [] => none
  | first :: others => some <|
    others.foldl (fun e name => .attribute e (.bare ".") (.bare name)) (.name (.spaced first))

/-- Whether a text is a name. -/
def isNameText (text : String) : Bool :=
  isIdentifier text.toList && !keywords.contains text

/-- An import of the collector from a module. -/
def importText (moduleName : String) : String :=
  "from " ++ moduleName ++ " import " ++ Collector.markerName ++ "\n"

/-- The statement that imports the collector from a module; nothing if the name of the
module does not make a statement. -/
def importStatement? (moduleName : String) : Option Stmt :=
  let names := (moduleName.toList.splitOn '.').map String.ofList
  if names.all isNameText then
    some <| plainLine <| .importFrom (.bare "from") [] (modulePath names) <|
      .phrase [.token (.spaced "import"), .token (.spaced Collector.markerName)]
  else Stmt.parse? (importText moduleName)

/-- The statements of a text that has been read, with a comment in front. -/
def commentedStatements (comment : String) : Option Module → List Stmt
  | some ⟨_, _, first :: others, _, _⟩ => first.setLeading [.ofComment comment] :: others
  | _ => []

/-- The statements of the collector with their comment. -/
def collectorStatements : List Stmt :=
  commentedStatements Collector.comment (Module.parse? Collector.sourceText)

/-- The statements that give a module its collector. -/
def CollectorOrigin.statements? : CollectorOrigin → Option (List Stmt)
  | .definition => some collectorStatements
  | .importFrom moduleName => (importStatement? moduleName).map fun s => [s]
  | .absent => some []

/-- Whether a small statement imports from `__future__`. -/
def Syntax.Small.isFutureImport : Small → Bool
  | .importFrom _ _ (some (.name l)) _ => l.text = "__future__"
  | _ => false

/-- Whether a statement is a line that imports from `__future__`. -/
def Syntax.Stmt.isFutureImport : Stmt → Bool
  | .line _ items _ => items.any fun i => i.statement.isFutureImport
  | _ => false

/-- Splits statements behind the docstring and the imports from `__future__`. -/
def splitPreamble (body : List Stmt) : List Stmt × List Stmt :=
  let (docstring, rest) := splitDocstring body
  let (imports, rest) := rest.span Stmt.isFutureImport
  (docstring ++ imports, rest)

/-- Two empty lines. -/
def separator : List BlankLine :=
  [.plain, .plain]

/-- A statement with two more empty lines in front. -/
def setApart (s : Stmt) : Stmt :=
  s.setLeading (separator ++ s.leading)

/-- Changes the first of some statements. -/
def mapFirst (change : Stmt → Stmt) : List Stmt → List Stmt
  | [] => []
  | s :: ss => change s :: ss

/-- Puts statements behind the preamble of a module, set apart from what is around
them. -/
def insertStatements (added body : List Stmt) : List Stmt :=
  match added with
  | [] => body
  | added =>
    let (preamble, rest) := splitPreamble body
    let added := if preamble.isEmpty then added else mapFirst setApart added
    preamble ++ (added ++ mapFirst setApart rest)

/-- A module with its functions measured and with the collector; nothing if the
collector cannot be imported under the planned name. -/
def Syntax.Module.instrument? (m : Module) (plan : Plan) : Option Module :=
  plan.origin.statements?.map fun added =>
    { m with body := insertStatements added (wrapBody m.style plan.fileName "" m.firstLine m.body) }

/-- The functions of a module that are measured, inner ones first. -/
def Syntax.Module.measured (m : Module) : List String :=
  measuredNamesOfBody m.body

/-- Whether a text has been instrumented. -/
def hasMarker (source : String) : Bool :=
  Text.contains source Collector.markerName

/-- The file name that records of a file carry. -/
def recordedFileName (path : String) (name : String) : String :=
  if path = "" then "<unknown>" else name

end Stopwatch

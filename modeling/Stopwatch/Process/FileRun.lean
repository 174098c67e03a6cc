/-
  Running one instrumented file.

  The file is compiled to a temporary binary, the binary is run, and its output is
  searched for the path of a file of records.  The binary is removed however the run
  ends.  A file that cannot be compiled or run is an ordinary result, not a failure.
-/
import Stopwatch.Config
import Stopwatch.Diagnostics
import Stopwatch.Host
import Stopwatch.Metric.Recover

namespace Stopwatch

/-! ## Children that are waited for -/

/-- All bytes of a stream, or the failure of the first piece that cannot be read. -/
def allBytes : List Chunk → Except Failure (List UInt8)
  | [] => .ok []
  | .bytes data :: rest => (allBytes rest).map (data ++ ·)
  | .failure text :: _ => .error (.system (.unreadable text))

/-- What a child prints to its output.  A child without output has nothing to read. -/
def Child.printed (c : Child) : Except Failure String :=
  match c.output with
  | none => .error (.value (.noLookup "NoneType" "decode"))
  | some chunks => (allBytes chunks).map fun bytes => String.ofList (Text.Utf8.decodeLossy bytes)

/-- Starts a child, waits for its end, and returns its exit status and its output. -/
def Action.communicate (command : Command) : Action (Int × String) := do
  let child ← Action.start command
  match child.printed with
  | .error f => Action.fail f
  | .ok text => do
    Action.settle (.exited child.status)
    return (child.status, text)

/-- An output that ends by telling a bad exit status. -/
def withStatus (status : Int) (output : String) : String :=
  if status = 0 then output else output ++ "\nProcess exited with code: " ++ toString status

/-! ## Files -/

/-- What running a file comes to. -/
inductive FileRun where
  /-- The program has announced a file of records. -/
  | announced (path output : String)
  /-- The program has only printed something. -/
  | printed (output : String)
  /-- The program could not be compiled or run. -/
  | failed (message : String)
  deriving DecidableEq, Repr, Inhabited

namespace FileRun

/-- What the program has printed, or why it could not be run. -/
def output : FileRun → String
  | .announced _ output => output
  | .printed output => output
  | .failed message => message

/-- The result of a program with a given output. -/
def ofOutput (output : String) : FileRun :=
  match announcedPath? output with
  | some path => .announced path output
  | none => .printed output

/-- The metrics of a run. -/
def recover (r : FileRun) (fs : Files) : Recovered :=
  match r with
  | .announced path output => fs.recoverFrom (some path) output
  | .printed output => fs.recoverFrom none output
  | .failed _ => ⟨[], false, fs⟩

/-- The program text that compiles the file named by its first argument to the file
named by its second. -/
def compileProgram : String :=
  "import py_compile, sys; py_compile.compile(sys.argv[1], cfile=sys.argv[2], doraise=True)"

/-- The stages of a run. -/
def stageNames : List String :=
  ["compile", "run", "extract", "cleanup"]

/-- Compiles a file. -/
def compile (config : Config) (source binary : Path) : Action Unit := do
  let (status, output) ← Action.communicate
    (.ofTexts [config.interpreter, "-c", compileProgram, source.text, binary.text] none none)
  if status ≠ 0 then
    Action.raise (.compilationFailed (filterDiagnostics output config.noisyMarkers))

/-- Where a program that stands in a directory looks for modules. -/
def searchPath (directory : Path) (existing : Option String) : String :=
  String.intercalate ":" ([directory.text, existing.getD ""].filter (· ≠ ""))

/-- Runs a compiled file. -/
def execute (config : Config) (binary directory : Path) : Action String := do
  let existing ← Action.observe (·.searchPath)
  let (status, output) ← Action.communicate
    (.ofTexts [config.interpreter, binary.text] none (some ⟨some (searchPath directory existing), some "1"⟩))
  return withStatus status output

/-- Compiles a file, runs it, and looks at its output. -/
def attemptRun (config : Config) (source binary : Path) : Action FileRun := do
  Action.stage "compile" (compile config source binary)
  let output ← Action.stage "run" (execute config binary source.parent)
  Action.stage "extract" (pure (ofOutput output))

/-- Removes the binary, if that is possible. -/
def cleanUp (binary : Path) : Action Unit :=
  Action.stage "cleanup" (Action.handling (Action.removeFile binary) Failure.isSystem fun _ => pure ())

/-- What becomes of a failure: a problem of compilation and a refusal of the system are
results. -/
def ofFailure (f : Failure) : Action FileRun :=
  if f.isProblem .compilation then pure (.failed f.message)
  else if f.isSystem then pure (.failed ("Failed to compile/run instrumented code: " ++ f.message))
  else Action.fail f

/-- Runs a file. -/
def run (config : Config) (source : Path) : Action FileRun := do
  Action.plan stageNames
  let name ← Action.freshName
  let binary := config.workRoot.child (name ++ "_instrumented_binary.pyc")
  Action.ensuring (Action.handling (attemptRun config source binary) (fun _ => true) ofFailure) (cleanUp binary)

end FileRun

end Stopwatch

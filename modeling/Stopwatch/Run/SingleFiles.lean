/-
  Runs on files.

  Every source under the input gets an instrumented copy beside it; a source that
  cannot be instrumented is skipped with a warning.  The copies with a guard for the
  main program are then run, one after the other, and what they measured is gathered.
-/
import Stopwatch.Package.Sources
import Stopwatch.Process.FileRun
import Stopwatch.Run.Basic

namespace Stopwatch

namespace Run

/-- The path of the instrumented copy of a source. -/
def copyPath (r : Run) (p : Path) : Path :=
  p.withName (p.stem ++ r.config.instrumentedSuffix ++ p.extension)

/-- Refuses a name that cannot be that of a file. -/
def checkName (p : Path) : Action Unit :=
  if p.name.toList.contains '/' then Action.fail (.value (.badName p.name)) else pure ()

/-- Why a source is skipped. -/
def skipText (shown : String) : Failure → String
  | .malformedSource => "Failed to parse " ++ shown ++ ": " ++ Failure.malformedSource.message
  | f => "Skipping " ++ shown ++ ": " ++ f.message

/-- Writes the instrumented copy of a module. -/
def writeCopy (p target : Path) (m : Syntax.Module) : Action Instrumented := do
  let analysis ← Action.analyze m
  if (← Action.exists? target) then
    Action.report (.warn ("Overwriting existing file: " ++ target.name))
  Action.writeText target (← Action.instrumentModule m p .definition)
  return ⟨p.text, target.text, analysis.functions, analysis.hasEntryPoint⟩

/-- Instruments one source, or skips it with a warning. -/
def instrument? (r : Run) (p : Path) : Action (Option Instrumented) := do
  let target := r.copyPath p
  checkName target
  let shown := r.shown (← get).files p
  match ← Action.attempt (Action.readModule p shown) with
  | .ok m => return some (← writeCopy p target m)
  | .error f => do
    Action.report (.warn (skipText shown f))
    return none

/-- Instruments one source and logs that. -/
def instrumentLogged (r : Run) (p : Path) : Action (Option Instrumented) :=
  r.log.timed "instrument.file" [("path", .string p.text)] (r.instrument? p) fun result =>
    [("instrumented", .bool result.isSome)]

/-- Instruments some sources, one after the other. -/
def instrumentAll (r : Run) : List Path → Action (List Instrumented)
  | [] => pure []
  | p :: rest => do
    let first ← r.instrumentLogged p
    let more ← r.instrumentAll rest
    return first.toList ++ more

/-- Runs an instrumented copy and logs that. -/
def runLogged (r : Run) (path : Path) : Action (FileRun × Recovered) :=
  let work : Action (FileRun × Recovered) := do
    let outcome ← FileRun.run r.config path
    return (outcome, ← recover outcome.recover)
  r.log.timed "compile.run" [("path", .string path.text)] work fun (_, recovered) =>
    [("metrics", .integer recovered.metrics.length), ("structured", .bool recovered.structured)]

/-- Runs an instrumented copy, and gathers what it measured. -/
def measure (r : Run) (result : Instrumented) : Action Unit := do
  let path := Path.ofText result.written
  Action.report (.execution ("Running " ++ path.name))
  let (outcome, recovered) ← r.runLogged path
  match outcome with
  | .failed message => Action.report (.error message)
  | outcome => do
    if outcome.output ≠ "" then Action.report (.output outcome.output)
    accept recovered

/-- Runs some instrumented copies, one after the other. -/
def measureAll (r : Run) : List Instrumented → Action Unit
  | [] => pure ()
  | result :: rest => do
    r.measure result
    r.measureAll rest

/-- Instruments all sources and runs those that can be run. -/
def singleFiles (r : Run) : Action Results := do
  forget
  let paths := (← get).files.sources r.input r.config.instrumentedSuffix
  if paths.isEmpty then Action.report (.warn ("No Python files found in " ++ r.input.text))
  let instrumented ← r.instrumentAll paths
  let files := (← get).files
  let summary := Summary.ofInstrumented instrumented fun p => r.shown files (Path.ofText p)
  Action.report (.summary summary)
  let entries := instrumented.filter (·.hasEntryPoint)
  if !instrumented.isEmpty && entries.isEmpty then
    Action.report (.info
      "No executable files found (no `__main__` guard). Instrumented files have been created.")
  r.measureAll entries
  results summary

end Run

end Stopwatch

/-
  Whole runs.

  A directory with a manifest is run as a package; everything else is run file by
  file.  A failure of package mode is told to the user and leaves no results.
-/
import Stopwatch.Package.Build
import Stopwatch.Run.SingleFiles

namespace Stopwatch

namespace Run

/-- Builds the package and logs that. -/
def buildLogged (r : Run) (p : Package) : Action Package.Built :=
  r.log.timed "package.build" [("path", .string r.input.text)] p.instrumentAndBuild fun _ => []

/-- Runs the executable of the package and logs that. -/
def executeLogged (r : Run) (p : Package) (executable : Path) : Action (String × Recovered) :=
  let work : Action (String × Recovered) := do
    let output ← p.execute executable
    return (output, ← recover fun fs => fs.recover output)
  r.log.timed "package.run" [("path", .string executable.text)] work fun (_, recovered) =>
    [("metrics", .integer recovered.metrics.length)]

/-- Builds the package and runs it. -/
def buildAndExecute (r : Run) (p : Package) : Action (Package.Built × String × Recovered) := do
  let built ← r.buildLogged p
  Action.report (.execution ("Running " ++ built.executable.name))
  let (output, recovered) ← r.executeLogged p built.executable
  return (built, output, recovered)

/-- Whether a failure of package mode is told to the user instead of ending the run. -/
def isTold (f : Failure) : Bool :=
  f.isProblem .package || f.isSystem

/-- Tells what the package printed and measured. -/
def conclude (r : Run) (built : Package.Built) (output : String) (recovered : Recovered) : Action Results := do
  forget
  Action.report (.output output)
  accept recovered
  let files := (← get).files
  let summary := Summary.ofInstrumented built.instrumented fun p => files.shown (Path.ofText p) r.input
  Action.report (.summary summary)
  results summary

/-- Runs a package; its working copy is removed however that ends. -/
def package (r : Run) (p : Package) : Action (Option Results) :=
  Action.ensuring (do
    match ← Action.attempt (r.buildAndExecute p) with
    | .ok (built, output, recovered) => return some (← r.conclude built output recovered)
    | .error f =>
      if isTold f then
        Action.report (.error f.message)
        return none
      else Action.fail f) p.cleanUp

/-- Tells the statistics of some results, if anything was measured. -/
def tellStatistics (results : Results) : Action Unit :=
  if results.metrics.isEmpty then pure ()
  else Action.report (.statistics (Statistics.ofMetrics results.metrics Statistics.usualLength))

/-- Runs the input as a package or file by file. -/
def dispatch (r : Run) (p : Package) : Action (Option Results) := do
  let files := (← get).files
  if files.isDirectory r.input && p.isPackage files then r.package p
  else return some (← r.singleFiles)

/-- A whole run. -/
def run (r : Run) : Action (Option Results) := do
  r.validate
  let found ← r.dispatch (← Package.create r.input r.config)
  if let some results := found then tellStatistics results
  return found

end Run

end Stopwatch

/-
  Runs.

  A run has an input, which must exist and must not be an instrumented copy itself.
  Here is what both kinds of runs share: how paths are shown, and how metrics are
  accepted.
-/
import Stopwatch.Config
import Stopwatch.Files.Sources
import Stopwatch.Metric.Recover
import Stopwatch.RunLog

namespace Stopwatch

/-- Makes the directories that a run keeps its own files in. -/
def Config.makeDirectories (c : Config) : Action Unit := do
  Action.makeDirectories c.base true
  Action.makeDirectories c.logDirectory true

/-- A run on an input, which writes its events to a log. -/
structure Run where
  input : Path
  config : Config
  log : RunLog
  deriving Inhabited

namespace Run

/-- What is wrong with the input, if anything is. -/
def inputProblem? (r : Run) (fs : Files) : Option Problem :=
  if !fs.exists? r.input then some (.pathMissing r.input.text)
  else if Text.contains r.input.name r.config.instrumentedSuffix then some (.derivedPath r.input.name)
  else none

/-- Refuses an input that cannot be instrumented. -/
def validate (r : Run) : Action Unit := do
  match r.inputProblem? (← get).files with
  | some problem => Action.raise problem
  | none => pure ()

/-- A path as it is shown: relative to the input, or to the directory of the input. -/
def shown (r : Run) (fs : Files) (p : Path) : String :=
  fs.shown p (if fs.isDirectory r.input then r.input else r.input.parent)

/-- What is said about accepted metrics. -/
def acceptance (metrics : List Metric) (structured : Bool) : String :=
  if structured then "Loaded " ++ toString metrics.length ++ " metric(s) from structured metrics file"
  else if !metrics.isEmpty then "Parsed " ++ toString metrics.length ++ " metric(s) from console output"
  else "No metrics captured"

/-- Forgets the metrics of earlier runs. -/
def forget : Action Unit :=
  modify fun host => { host with gathered := [] }

/-- Accepts what has been recovered from a program. -/
def accept (recovered : Recovered) : Action Unit := do
  modify fun host => { host with gathered := host.gathered ++ recovered.metrics }
  Action.report (.info (acceptance recovered.metrics recovered.structured))

/-- Recovers metrics; a file of records that has been read is gone afterwards. -/
def recover (from_ : Files → Recovered) : Action Recovered := do
  let recovered := from_ (← get).files
  modify fun host => { host with files := recovered.files }
  return recovered

/-- The results of a run that ends now: what has been gathered. -/
def results (summary : Summary) : Action Results := do
  let host ← get
  return ⟨summary, host.gathered, host.now⟩

end Run

end Stopwatch

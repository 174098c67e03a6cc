/-
  Recovering metrics from the output of a run.

  A run that could write its file of records announces it in a line with a marker.
  The metrics are then those of the file, which is removed after it has been read.  If
  there is no such file, or it is not a file of records, the metrics are taken from the
  tagged lines of the output itself.  Recovery never fails.  A file of records can also be
  written without a run, from the records alone.
-/
import Stopwatch.Failure
import Stopwatch.Metric.Record
import Stopwatch.Number.Read
import Stopwatch.Text.Lines

namespace Stopwatch

/-! ## Announced files -/

/-- What an output line contains when the rest of it is the path of a file of records. -/
def announcement : String := "__ASYNC_PROFILER_METRICS__:"

/-- The path that a line announces. -/
def announcedIn? (line : List Char) : Option String :=
  match Text.cut? announcement.toList line with
  | none => none
  | some (_, after) =>
    match Text.strip after with
    | [] => none
    | path => some (String.ofList path)

/-- The path that an output announces first. -/
def announcedPath? (output : String) : Option String :=
  (Text.splitLines output.toList).findSome? announcedIn?

/-! ## Tagged lines -/

/-- What a line contains before the name and the time of a call. -/
def latencyTag : String := "[Latency]"

/-- What stands between the name and the time of a call. -/
def latencySeparator : String := ": "

/-- A number of seconds, which must be finite and not negative. -/
def seconds? (cs : List Char) : Option Float :=
  match cs.reverse with
  | 's' :: number =>
    match Number.ofText? number.reverse with
    | some x => if x.isFinite && x ≥ 0.0 then some x else none
    | none => none
  | _ => none

/-- The metric that a tagged line stands for. -/
def metricIn? (line : List Char) : Option Metric := do
  let (_, call) ← Text.cut? latencyTag.toList line
  let (name, time) ← Text.cut? latencySeparator.toList call
  let name := Text.strip name
  if name = [] then none
  let seconds ← seconds? (Text.strip time)
  pure (Metric.ofCall (String.ofList name) seconds)

/-- The metrics that the tagged lines of an output stand for. -/
def taggedMetrics (output : String) : List Metric :=
  (Text.splitLines output.toList).filterMap metricIn?

/-! ## Files of records -/

/-- Whether the integers of a record are short enough to be written. -/
def Record.isWritable (r : Record) : Bool :=
  [r.line, r.thread].all fun n => (Number.digits n.natAbs).length ≤ Json.maxIntegerDigits

/-- Writes a file of records, unless an integer is too long to be written. -/
def Files.writeRecords (fs : Files) (p : Path) (records : List Record) : Except Failure Files :=
  if records.all Record.isWritable then
    match fs.write p fun _ => Text.Utf8.encode (Record.fileText (records.map Record.document)) with
    | .error fault => .error (.system (.refused fault p.text))
    | .ok fs => .ok fs
  else .error (.value .tooManyDigits)

/-- The metrics of the file of records under a path. -/
def Files.metricsAt (fs : Files) (p : Path) : Except Failure (List Metric) :=
  match fs.read p with
  | .error fault => .error (.system (.refused fault p.text))
  | .ok bytes =>
    match Record.ofBytes bytes with
    | .error issues => .error (.invalid issues)
    | .ok records => (Record.metrics records).mapError .invalid

/-! ## Both ways together -/

/-- The metrics of a file, which is removed if it has any reading. -/
def Files.takeMetrics? (fs : Files) (path : String) : Option (List Metric × Files) :=
  let p := Path.ofText path
  match fs.metricsAt p with
  | .error _ => none
  | .ok metrics => some (metrics, (fs.remove p).toOption.getD fs)

/-- Metrics, whether they come from a file of records, and the files afterwards. -/
structure Recovered where
  metrics : List Metric
  structured : Bool
  files : Files
  deriving Inhabited

/-- The metrics of a file, or those of the tagged lines of an output if there is no
such file. -/
def Files.recoverFrom (fs : Files) (path : Option String) (output : String) : Recovered :=
  match path.bind fs.takeMetrics? with
  | some (metrics, fs) => ⟨metrics, true, fs⟩
  | none => ⟨taggedMetrics output, false, fs⟩

/-- The metrics of a run with a given output. -/
def Files.recover (fs : Files) (output : String) : Recovered :=
  fs.recoverFrom (announcedPath? output) output

end Stopwatch

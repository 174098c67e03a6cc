/-
  The log of a run.

  Each event is one line of a file, to which lines are only added; there is one file a
  day.  An event that spans some work says how long the work took and how it ended.
-/
import Stopwatch.Host
import Stopwatch.Json.Writer

namespace Stopwatch

/-- Where events are written, and the run that they belong to. -/
structure RunLog where
  directory : Path
  run : Option String
  deriving Inhabited

namespace RunLog

/-- Opens a log; its directory is made if need be. -/
def create (directory : Path) (run : Option String) : Action RunLog := do
  Action.makeDirectories directory true
  return ⟨directory, run⟩

/-- The file for events of a given day. -/
def file (log : RunLog) (day : String) : Path :=
  log.directory.child ("async-latency-" ++ day ++ ".jsonl")

/-- An event as a document. -/
def document (log : RunLog) (type : String) (data : EventFields) (duration : Option Int) (now : Timestamp) : Json :=
  .object
    [("event_type", .string type), ("data", .object data),
     ("run_id", Metric.optional .string log.run), ("duration_ms", Metric.optional .integer duration),
     ("timestamp", .string now.text)]

/-- Adds an event. -/
def write (log : RunLog) (type : String) (data : EventFields) (duration : Option Int) : Action Unit := do
  let now ← Action.observe (·.now)
  let found ← Action.observe (·.files)
  Action.appendText (log.file now.dayText)
    (Json.render Json.eventStyle (log.document type data duration now) ++ "\n")
  modify fun host =>
    { host with logged := host.logged ++ [⟨type, data, duration, now, found, host.files⟩] }

/-- Sets some fields, one after the other. -/
def setFields (fields changes : EventFields) : EventFields :=
  changes.foldl (fun fields change => Json.setField fields change.1 change.2) fields

/-- The milliseconds between two readings of the clock, rounded toward zero. -/
def milliseconds (start stop : Float) : Int :=
  Number.truncate ((stop - start) * 1000.0)

/-- The fields of an event when the work is over. -/
def outcomeFields (data : EventFields) (note : α → EventFields) : Except Failure α → EventFields
  | .ok value => setFields data (note value ++ [("status", .string "success")])
  | .error f => setFields data [("status", .string "error"), ("error", .string f.message)]

/-- Does some work and adds an event about it, however it ends.  What the work came to
may be noted in the event. -/
def timed (log : RunLog) (type : String) (data : EventFields) (work : Action α) (note : α → EventFields) :
    Action α := do
  let fields := setFields [("status", .string "started")] data
  let start ← Action.readClock
  let result ← Action.attempt work
  let stop ← Action.readClock
  log.write type (outcomeFields fields note result) (some (milliseconds start stop))
  match result with
  | .ok value => pure value
  | .error f => Action.fail f

end RunLog

end Stopwatch

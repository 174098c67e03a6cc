/-
  Files of records.

  A record says where and when a call was made, on which thread, and how long it took.
  Records are kept in a file: a list of objects whose fields stand in the order of
  their names.  Each record of a file gives one metric, in which a negative duration
  counts as zero.
-/
import Stopwatch.Json.Writer
import Stopwatch.Metric.Basic

namespace Stopwatch

/-- One completed call. -/
structure Record where
  function : String
  duration : Float
  timestamp : Float
  line : Int
  file : String
  thread : Int
  deriving Inhabited

namespace Record

/-- A record out of the fields of a document. -/
def ofFields (fields : List (String × Json)) : Json.Decoded Record :=
  let function := Json.field "function" "function" none Json.decodeText fields
  let duration := Json.field "duration" "duration" none Json.decodeFloat fields
  let timestamp := Json.field "timestamp" "timestamp" none Json.decodeFloat fields
  let line := Json.field "line" "line" none Json.decodeInteger fields
  let file := Json.field "file" "file" none Json.decodeText fields
  let thread := Json.field "threadId" "thread_id" none Json.decodeInteger fields
  (function.both (duration.both (timestamp.both (line.both (file.both thread))))).map
    fun (function, duration, timestamp, line, file, thread) => ⟨function, duration, timestamp, line, file, thread⟩

/-- A record out of a document. -/
def decode : Json.Decoder Record :=
  Json.decodeFields ofFields

/-- The records of a file. -/
def ofBytes (bytes : List UInt8) : Json.Decoded (List Record) :=
  match Json.readBytes? bytes with
  | some document => Json.decodeList decode document
  | none => Json.Decoded.fail .invalidDocument

/-- The six values of a record as an object. -/
def fieldsDocument (function : String) (duration timestamp : Json) (line : Int) (file : String) (thread : Int) : Json :=
  .object
    [("function", .string function), ("duration", duration), ("timestamp", timestamp),
     ("line", .integer line), ("file", .string file), ("threadId", .integer thread)]

/-- A record as a document. -/
def document (r : Record) : Json :=
  fieldsDocument r.function (.float r.duration) (.float r.timestamp) r.line r.file r.thread

/-- The text of a file that holds documents of records. -/
def fileText (documents : List Json) : String :=
  Json.render Json.recordFileStyle (.array documents)

/-- The greater of a number and zero.  What is no number stays as it is, and so does
negative zero. -/
def atLeastZero (x : Float) : Float :=
  if 0.0 > x then 0.0 else x

/-- The metric of a record. -/
def metric (r : Record) : Json.Decoded Metric :=
  let time := atLeastZero r.duration
  if time ≥ 0.0 then .ok (Metric.ofCall r.function time)
  else (Json.Decoded.fail .tooSmall).within (.field "total_time")

/-- The metrics of records, up to the first one that has none. -/
def metrics : List Record → Json.Decoded (List Metric)
  | [] => .ok []
  | r :: rest =>
    match r.metric with
    | .ok m => (metrics rest).map (m :: ·)
    | .error issues => .error issues

end Record

end Stopwatch

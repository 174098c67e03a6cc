/-
  Metrics.

  A metric says how long one completed call took.  Times are never negative: a
  document with a negative time is not a metric.  In a document the fields are named
  in camel case; when a metric is read, names in snake case are accepted as well.
-/
import Stopwatch.Json.Decode
import Stopwatch.Text.Search

namespace Stopwatch

/-- The time that one completed call took. -/
structure Metric where
  name : String
  totalTime : Float
  computeTime : Option Float
  suspendTime : Option Float
  awaitCount : Option Int
  depth : Int
  deriving Inhabited

namespace Metric

/-- The depth of a call, judged by its name: an entry point stands at the top, all
else one below. -/
def estimateDepth (name : String) : Int :=
  if Text.contains name "main" then 0 else 1

/-- A time that is zero or more. -/
def decodeTime : Json.Decoder Float := fun document =>
  match Json.decodeFloat document with
  | .ok x => if x ≥ 0.0 then .ok x else Json.Decoded.fail .tooSmall
  | .error issues => .error issues

/-- The metric of a call of which only the time is known. -/
def ofCall (name : String) (totalTime : Float) : Metric :=
  ⟨name, totalTime, none, none, none, estimateDepth name⟩

/-- A metric out of the fields of a document. -/
def ofFields (fields : List (String × Json)) : Json.Decoded Metric :=
  let name := Json.field "name" "name" none Json.decodeText fields
  let total := Json.field "totalTime" "total_time" none decodeTime fields
  let compute := Json.field "computeTime" "compute_time" (some none) (Json.decodeOptional Json.decodeFloat) fields
  let suspend := Json.field "suspendTime" "suspend_time" (some none) (Json.decodeOptional Json.decodeFloat) fields
  let awaits := Json.field "awaitCount" "await_count" (some none) (Json.decodeOptional Json.decodeInteger) fields
  let depth := Json.field "depth" "depth" (some 0) Json.decodeInteger fields
  (name.both (total.both (compute.both (suspend.both (awaits.both depth))))).map
    fun (name, total, compute, suspend, awaits, depth) => ⟨name, total, compute, suspend, awaits, depth⟩

/-- A metric out of a document. -/
def decode : Json.Decoder Metric :=
  Json.decodeFields ofFields

/-- Nothing as `null`. -/
def optional (write : α → Json) : Option α → Json
  | some value => write value
  | none => .null

/-- A metric as a document. -/
def document (m : Metric) : Json :=
  .object
    [("name", .string m.name), ("totalTime", .float m.totalTime),
     ("computeTime", optional .float m.computeTime), ("suspendTime", optional .float m.suspendTime),
     ("awaitCount", optional .integer m.awaitCount), ("depth", .integer m.depth)]

end Metric

end Stopwatch

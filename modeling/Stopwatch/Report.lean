/-
  Reports.

  Everything that a run tells its user, in the order in which it is told.
-/
import Stopwatch.Metric.Statistics
import Stopwatch.Results

namespace Stopwatch

/-- One thing that the user is told. -/
inductive Report where
  | info (text : String)
  | warn (text : String)
  | error (text : String)
  /-- A program is about to be run. -/
  | execution (text : String)
  /-- What a program has printed. -/
  | output (text : String)
  | summary (summary : Summary)
  | statistics (statistics : Statistics)
  deriving Inhabited

end Stopwatch

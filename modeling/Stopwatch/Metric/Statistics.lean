/-
  Statistics.

  The times of all metrics are added up from first to last.  The slowest calls are
  ranked by their time and the names by how often they were called; in both rankings
  what comes first stays first among equals.
-/
import Stopwatch.Metric.Basic

namespace Stopwatch

/-- What is said about a list of metrics as a whole. -/
structure Statistics where
  calls : Nat
  names : Nat
  total : Float
  average : Float
  slowest : List Metric
  mostCalled : List (String × Nat)
  deriving Inhabited

namespace Statistics

/-- How many items a ranking has if nothing else is said. -/
def usualLength : Int := 10

/-- The first items of a ranking; a negative count says how many are left out at the
end. -/
def firstItems (count : Int) (ranking : List α) : List α :=
  match count with
  | .ofNat n => ranking.take n
  | .negSucc n => ranking.take (ranking.length - (n + 1))

/-- Adds one to the count of a name; a new name comes last. -/
def countName (name : String) : List (String × Nat) → List (String × Nat)
  | [] => [(name, 1)]
  | (other, n) :: rest => if other = name then (other, n + 1) :: rest else (other, n) :: countName name rest

/-- How often each name occurs, by first occurrence. -/
def countNames (names : List String) : List (String × Nat) :=
  names.foldl (fun counts name => countName name counts) []

/-- The sum of some times. -/
def sum (times : List Float) : Float :=
  times.foldl (· + ·) 0.0

/-- Metrics from the slowest to the fastest. -/
def bySlowness (metrics : List Metric) : List Metric :=
  metrics.mergeSort fun a b => a.totalTime ≥ b.totalTime

/-- Counted names from the most to the least called. -/
def byCalls (counts : List (String × Nat)) : List (String × Nat) :=
  counts.mergeSort fun a b => a.2 ≥ b.2

/-- The statistics of some metrics, with rankings of a given length. -/
def ofMetrics (metrics : List Metric) (length : Int) : Statistics :=
  let total := sum (metrics.map (·.totalTime))
  let counts := countNames (metrics.map (·.name))
  { calls := metrics.length
    names := counts.length
    total := total
    average := if metrics.isEmpty then 0.0 else total / Float.ofNat metrics.length
    slowest := firstItems length (bySlowness metrics)
    mostCalled := firstItems length (byCalls counts) }

end Statistics

end Stopwatch

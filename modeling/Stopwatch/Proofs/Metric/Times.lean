/-
  The times of metrics.

  No recovered time is negative.  A time of a tagged line is finite, for a line with any
  other time does not count.  A record is only cut off at zero, so its time is infinite if
  its duration is.
-/
import Stopwatch.Process.FileRun
import Stopwatch.Proofs.Metric.Recovered

namespace Stopwatch

/-! ## Records -/

namespace Record

/-- Cutting off at zero neither makes a number infinite nor keeps infinity from being it. -/
theorem atLeastZero_eq_infinity {x : Float} : atLeastZero x = 1.0 / 0.0 ↔ x = 1.0 / 0.0 := by
  rw [atLeastZero]
  split
  · rename_i hneg
    constructor
    · intro hzero
      exact absurd (congrArg Float.isFinite hzero) (by decide +kernel)
    · rintro rfl
      exact absurd hneg (by decide +kernel)
  · exact Iff.rfl

/-- The metric of a document has a time, which is infinite if the duration is. -/
theorem IsMetricOf.time {d : Json} {m : Metric} (h : IsMetricOf d m) :
    0.0 ≤ m.totalTime ∧ ∃ r, decode d = .ok r ∧ m.name = r.function ∧
      (m.totalTime.isFinite = false ↔ r.duration = 1.0 / 0.0) := by
  obtain ⟨r, hr, hnonneg, rfl⟩ := h
  refine ⟨hnonneg, r, hr, rfl, ?_⟩
  change (atLeastZero r.duration).isFinite = false ↔ _
  rw [Number.isFinite_eq_false_iff hnonneg, atLeastZero_eq_infinity]

end Record

/-! ## Tagged lines -/

/-- A number of seconds is finite and not negative. -/
theorem seconds?_eq_some {cs : List Char} {x : Float} (h : seconds? cs = some x) :
    0.0 ≤ x ∧ x.isFinite = true := by
  rw [seconds?] at h
  split at h
  · split at h
    · split at h
      · rename_i hgood
        cases h
        rw [Bool.and_eq_true, decide_eq_true_iff] at hgood
        exact ⟨hgood.2, hgood.1⟩
      · cases h
    · cases h
  · cases h

/-- A tagged line has a finite time. -/
theorem taggedMetrics_time {output : String} {m : Metric} (h : m ∈ taggedMetrics output) :
    0.0 ≤ m.totalTime ∧ m.totalTime.isFinite = true := by
  obtain ⟨line, -, hline⟩ := List.mem_filterMap.mp h
  simp only [metricIn?, Option.bind_eq_bind, Option.bind_eq_some_iff] at hline
  obtain ⟨⟨_, call⟩, -, ⟨name, time⟩, -, hline⟩ := hline
  dsimp only at hline
  split at hline
  · cases hline
  · simp only [Option.bind_eq_some_iff] at hline
    obtain ⟨x, hx, hm⟩ := hline
    cases hm
    exact seconds?_eq_some hx

/-! ## Recovery -/

/-- What is known of the times of what has been recovered.  Those of tagged lines are finite; those
of a file of records are finite but for the records whose durations are infinite. -/
structure Recovered.IsTimed (found : Recovered) (fs : Files) (path : Option String) : Prop where
  nonneg : ∀ m ∈ found.metrics, 0.0 ≤ m.totalTime
  ofLines : found.structured = false → ∀ m ∈ found.metrics, m.totalTime.isFinite = true
  ofRecords : found.structured = true → ∃ p bytes documents, path = some p ∧
    fs.read (Path.ofText p) = .ok bytes ∧ Json.readBytes? bytes = some (.array documents) ∧
    List.Forall₂ (fun d m => ∃ r, Record.decode d = .ok r ∧ m.name = r.function ∧
      (m.totalTime.isFinite = false ↔ r.duration = 1.0 / 0.0)) documents found.metrics

theorem Files.isTimed_recoverFrom (fs : Files) (path : Option String) (output : String) :
    (fs.recoverFrom path output).IsTimed fs path := by
  rw [recoverFrom]
  cases htaken : path.bind fs.takeMetrics? with
  | none =>
    exact ⟨fun m hm => (taggedMetrics_time hm).1, fun _ m hm => (taggedMetrics_time hm).2,
      fun hfalse => absurd hfalse Bool.false_ne_true⟩
  | some taken =>
    obtain ⟨metrics, files⟩ := taken
    obtain ⟨p, hpath, htake⟩ := Option.bind_eq_some_iff.mp htaken
    obtain ⟨bytes, documents, hread, hdocuments, hmetrics⟩ :=
      metricsAt_eq_ok.mp (metricsAt_of_takeMetrics htake)
    have htimes := hmetrics.imp fun _ _ hd => hd.time
    obtain ⟨hnonneg, -⟩ := (List.forall₂_and_left _ _).mp htimes.flip
    exact ⟨hnonneg, fun hfalse => absurd hfalse.symm Bool.false_ne_true, fun _ =>
      ⟨p, bytes, documents, hpath, hread, hdocuments, htimes.imp fun _ _ hd => hd.2⟩⟩

/-- No time that is recovered from an output or from the run of a file is negative.  A time of a tagged
line is finite.  If a file of records was read, its documents are those of the metrics in order, and a
metric has a time that is not finite exactly when the duration of its record is infinity.  A run that
failed has no metrics. -/
theorem Files.isTimed_recovered (fs : Files) (path output : String) :
    (fs.recover output).IsTimed fs (announcedPath? output) ∧
      ((FileRun.announced path output).recover fs).IsTimed fs (some path) ∧
      ((FileRun.printed output).recover fs).IsTimed fs none ∧
      ((FileRun.failed output).recover fs).metrics = [] :=
  ⟨fs.isTimed_recoverFrom _ output, fs.isTimed_recoverFrom (some path) output,
    fs.isTimed_recoverFrom none output, rfl⟩

/-- A record whose duration is too large for a number gives a metric with an infinite time. -/
theorem recover_overflow :
    let text := "[\x7b\"function\": \"f\", \"duration\": 1e400, \"timestamp\": 1.0, \"line\": 1, \"file\": \"a.py\", \"threadId\": 7\x7d]"
    let fs : Files := ⟨[(["work"], .directory), (["work", "m.json"], .file (Text.Utf8.encode text) false)], ["work"]⟩
    let found := fs.recover "__ASYNC_PROFILER_METRICS__:m.json\n"
    found.structured = true ∧ found.metrics.map (·.totalTime.isFinite) = [false] := by
  decide +kernel

end Stopwatch

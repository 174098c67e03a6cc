/-
  What each file contributes.

  The metrics of a run on files are what its instrumented copies contribute, one after the other.
  What a copy contributes is told by its own children: by how they have ended, by what the second one
  has printed, and by the files that it has left.
-/
import Stopwatch.Proofs.Run.Rerun

namespace Stopwatch

open Action Files

variable {K : Files → Prop} {host : Host}

/-- What only children change: how many names have been made, the children to come, those so far,
and what has been gathered; and where children look for modules, and the day. -/
def Action.crew (h : Host) : Nat × List Child × List Spawned × List Metric × Option String × Timestamp :=
  (h.named, h.upcoming, h.spawned, h.gathered, h.searchPath, h.now)

/-! ## One file -/

namespace FileRun

variable {config : Config} {source binary : Path} {existing : Option String} {fs files : Files}
  {children : List Spawned}

/-- What the children of a run of a file contribute: if the file has been compiled and the program has
ended, the metrics that are recovered from what it has printed, without its binary. -/
def contribution (binary : Path) : List Spawned → List Metric
  | [c, e] =>
    match e.fate, e.child.printed with
    | .exited _, .ok text => if c.fate = .exited 0 then ((e.left.without binary).recover text).metrics else []
    | _, _ => []
  | _ => []

/-- What is measured is what the children contribute. -/
theorem Runs.metrics_eq {ran : Except Failure FileRun} {outcome : FileRun}
    (h : Runs config source binary existing fs children ran files) (hran : ran = .ok outcome) :
    (outcome.recover (files.without binary)).metrics = contribution binary children := by
  have hlost {f : Failure} (hf : ofLost f = .ok outcome) : (outcome.recover (files.without binary)).metrics = [] := by
    rw [ofLost] at hf
    split at hf
    · cases hf
      rfl
    · cases hf
  cases h with
  | uncompiled => exact hlost hran
  | rejected =>
    cases hran
    rfl
  | @unfinished c e text f _ hrun =>
    rw [hlost hran, contribution]
    rcases isLost_of_answered hrun.answered with hfate | hfate <;> rw [hfate]
  | @finished c e text status output hcompile hrun =>
    cases hran
    have hc := fate_of_heard hcompile.answered
    rw [(recover_ofOutput _ _).2, recover_withStatus, contribution]
    cases hrun.answered with
    | heard hfate hprinted =>
      rw [hfate, hprinted]
      exact (if_pos hc).symm

/-- A file that could not be compiled or run contributes nothing. -/
theorem contribution_of_failed {message : String}
    (h : Runs config source binary existing fs children (.ok (.failed message)) files) :
    contribution binary children = [] := by
  rw [← h.metrics_eq rfl]
  rfl

/-- The files when it has been looked for metrics after a run. -/
def leave (ran : Except Failure FileRun) (files : Files) : Files :=
  match ran with
  | .ok outcome => (outcome.recover files).files
  | .error _ => files

end FileRun

namespace Run

variable {r : Run} {h : Host}

/-- The binary of a number. -/
def binaryOf (r : Run) (n : Nat) : Path :=
  r.config.workRoot.child (FileRun.binaryName n)

/-- What is known of the crew of a host when a copy has been run by some children. -/
def crewAfter (host : Host) (children : List Spawned) (gathered : List Metric) :
    Nat × List Child × List Spawned × List Metric × Option String × Timestamp :=
  (host.named + 1, host.upcoming.drop children.length, host.spawned ++ children, gathered, host.searchPath, host.now)

/-- An instrumented copy has been run by some children, and what it has come to has been looked at;
an event has been logged since, or could not be. -/
structure Measured (r : Run) (entry : Instrumented) (host : Host) (children : List Spawned)
    (ran : Except Failure FileRun) (files : Files) (gathered : List Metric) (h : Host) : Prop where
  runs : FileRun.Runs r.config (Path.ofText entry.written) (r.binaryOf (host.named + 1)) host.searchPath host.files
    children ran files
  crew_eq : crew h = crewAfter host children gathered
  files_eq : h.files = FileRun.leave ran (files.without (r.binaryOf (host.named + 1))) ∨
    ∃ change, (FileRun.leave ran (files.without (r.binaryOf (host.named + 1)))).write (r.logPath host.now) change =
      .ok h.files

/-- A file has been run by some children, its metrics have been recovered, and no event has been
logged yet. -/
def IsRecovered (K : Files → Prop) (r : Run) (source : Path) (host : Host) (result : Except Failure (FileRun × Recovered))
    (h : Host) : Prop :=
  ∃ children ran files, FileRun.AreNext K host children ∧
    FileRun.Runs r.config source (r.binaryOf (host.named + 1)) host.searchPath host.files children ran files ∧
    crew h = crewAfter host children host.gathered ∧
    h.files = FileRun.leave ran (files.without (r.binaryOf (host.named + 1))) ∧
    ∀ found, result = .ok found → ran = .ok found.1 ∧
      found.2.metrics = FileRun.contribution (r.binaryOf (host.named + 1)) children

/-- A file is run, and its metrics are recovered. -/
theorem ends_runAndRecover (hK : Files.Lasting K) (r : Run) (source : Path) (h : K host.files) :
    Ends (do
      let outcome ← FileRun.run r.config source
      return (outcome, ← recover outcome.recover)) host (IsRecovered K r source host) := by
  refine Ends.bind (FileRun.ends_run hK r.config source h) ?_ ?_
  · rintro outcome h ⟨children, files, pipeline, hnext, hruns, rfl⟩
    rw [ends_bind, ends_recover]
    refine ⟨children, _, files, hnext, hruns, rfl, rfl, fun found hfound => ?_⟩
    cases hfound
    exact ⟨rfl, hruns.metrics_eq rfl⟩
  · rintro f h ⟨children, files, pipeline, hnext, hruns, rfl⟩
    exact ⟨children, _, files, hnext, hruns, rfl, rfl, fun _ => of_failure⟩

/-- A copy has been run by children of which `K` holds; if that has ended well an event has been
logged. -/
def IsLogged (K : Files → Prop) (r : Run) (entry : Instrumented) (host : Host)
    (result : Except Failure (FileRun × Recovered)) (h : Host) : Prop :=
  ∃ children ran files, FileRun.AreNext K host children ∧
    r.Measured entry host children ran files host.gathered h ∧
    ∀ found, result = .ok found → ran = .ok found.1 ∧
      found.2.metrics = FileRun.contribution (r.binaryOf (host.named + 1)) children ∧
      ∃ change, (FileRun.leave ran (files.without (r.binaryOf (host.named + 1)))).write (r.logPath host.now) change =
        .ok h.files

/-- Running an instrumented copy and logging that. -/
theorem ends_runLogged (hK : Files.Lasting K) (r : Run) (entry : Instrumented) (h : K host.files) :
    Ends (r.runLogged (Path.ofText entry.written)) host (r.IsLogged K entry host) := by
  -- the clock makes no difference to what is known of a run
  have hwork (clock : Clock) : Ends (do
      let outcome ← FileRun.run r.config (Path.ofText entry.written)
      return (outcome, ← recover outcome.recover)) { host with clock }
      (IsRecovered K r (Path.ofText entry.written) host) :=
    Ends.mono (ends_runAndRecover hK r (Path.ofText entry.written) h) fun _ _ hr => hr
  have hadded (result : Except Failure (FileRun × Recovered)) (h : Host) (logged : List Event)
      (hresult : r.IsLogged K entry host result h) : r.IsLogged K entry host result { h with logged } := by
    obtain ⟨children, ran, files, hnext, ⟨hruns, hcrew, hfiles⟩, hfound⟩ := hresult
    exact ⟨children, ran, files, hnext, ⟨hruns, hcrew, hfiles⟩, hfound⟩
  refine RunLog.ends_timed_aside hadded ?_ hwork
  rintro result h clock text ⟨children, ran, files, hnext, hruns, hcrew, hfiles, hresult⟩
  have hnow : h.now = host.now := congrArg (fun c => c.2.2.2.2.2) hcrew
  rw [appendText, ends_changeFiles]
  dsimp only
  split
  · rename_i files' hwrite
    rw [hfiles, hnow] at hwrite
    have hlogged : ∃ change, (FileRun.leave ran (files.without (r.binaryOf (host.named + 1)))).write
        (r.logPath host.now) change = .ok files' := ⟨_, hwrite⟩
    refine ⟨children, ran, files, hnext, ⟨hruns, hcrew, Or.inr hlogged⟩, fun found hfound => ?_⟩
    obtain ⟨hran, hmetrics⟩ := hresult found hfound
    exact ⟨hran, hmetrics, hlogged⟩
  · exact ⟨children, ran, files, hnext, ⟨hruns, hcrew, Or.inl hfiles⟩, fun _ => of_failure⟩

/-- A copy has been run by children of which `K` holds; if that has ended well an event has been
logged, and what the children contribute has been gathered. -/
def IsShare (K : Files → Prop) (r : Run) (entry : Instrumented) (host : Host) (result : Except Failure Unit)
    (h : Host) : Prop :=
  ∃ children ran files gathered, FileRun.AreNext K host children ∧
    r.Measured entry host children ran files gathered h ∧
    (result = .ok () → (∃ outcome, ran = .ok outcome) ∧
      gathered = host.gathered ++ FileRun.contribution (r.binaryOf (host.named + 1)) children ∧
      ∃ change, (FileRun.leave ran (files.without (r.binaryOf (host.named + 1)))).write (r.logPath host.now) change =
        .ok h.files)

theorem ignoresReports_isShare (K : Files → Prop) (r : Run) (entry : Instrumented) (host : Host) :
    IgnoresReports (r.IsShare K entry host) := by
  rintro result h reports ⟨children, ran, files, gathered, hnext, hm, hresult⟩
  exact ⟨children, ran, files, gathered, hnext, ⟨hm.runs, hm.crew_eq, hm.files_eq⟩, hresult⟩

/-- Running an instrumented copy: whatever is reported, what its children contribute is gathered. -/
theorem ends_measure (hK : Files.Lasting K) (r : Run) (entry : Instrumented) (h : K host.files) :
    Ends (r.measure entry) host (r.IsShare K entry host) := by
  rw [Run.measure]
  dsimp only
  refine IgnoresReports.ends_report_bind fun reports => ?_
  refine Ends.bind (ends_runLogged hK r entry h) (fun found h hfound => ?_) fun f h hf => ?_
  · obtain ⟨children, ran, files, hnext, hm, hresult⟩ := hfound
    obtain ⟨rfl, hmetrics, hlogged⟩ := hresult _ rfl
    split
    · rename_i message heq
      refine (ignoresReports_isShare K r entry host).ends_report _ ?_
      have hnone := FileRun.contribution_of_failed (heq ▸ hm.runs)
      exact ⟨children, _, files, host.gathered, hnext, ⟨hm.runs, hm.crew_eq, hm.files_eq⟩, fun _ =>
        ⟨⟨_, rfl⟩, by rw [hnone, List.append_nil], hlogged⟩⟩
    · have haccept (reports' : List Report) :
          Ends (accept found.2) { h with reports := reports' } (r.IsShare K entry host) := by
        rw [accept, ends_bind, ends_modify]
        refine (ignoresReports_isShare K r entry host).ends_report _ ?_
        refine ⟨children, _, files, host.gathered ++ found.2.metrics, hnext, ⟨hm.runs, ?_, hm.files_eq⟩, fun _ =>
          ⟨⟨_, rfl⟩, by rw [hmetrics], hlogged⟩⟩
        have hcrew := hm.crew_eq
        simp only [crew, crewAfter, Prod.mk.injEq] at hcrew ⊢
        obtain ⟨hnamed, hupcoming, hspawned, hgathered, hrest⟩ := hcrew
        exact ⟨hnamed, hupcoming, hspawned, by rw [hgathered], hrest⟩
      split
      · exact IgnoresReports.ends_report_bind haccept
      · exact haccept h.reports
  · obtain ⟨children, ran, files, hnext, hm, -⟩ := hf
    exact ⟨children, ran, files, _, hnext, ⟨hm.runs, hm.crew_eq, hm.files_eq⟩, of_failure⟩

end Run

end Stopwatch

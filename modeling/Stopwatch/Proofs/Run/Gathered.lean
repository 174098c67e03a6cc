/-
  What is gathered.

  A run on files instruments its sources one after the other, and then runs the copies that can be
  run, one after the other.  Each copy contributes what its own children tell, whatever other copies
  and earlier runs have come to.
-/
import Stopwatch.Proofs.Run.Contributions

namespace Stopwatch

open Action Files

namespace Run

variable {r : Run} {K : Files → Prop} {host : Host}

/-! ## Instrumenting -/

/-- What becomes of a source: it is skipped, or its copy is written. -/
inductive Judged (r : Run) (path : Path) (fs : Files) : Option Instrumented → Files → Prop
  | skipped (hverdict : r.verdict fs path = .ok none) : Judged r path fs none fs
  | copied {result : Instrumented} {text : String} {fs' : Files}
      (hverdict : r.verdict fs path = .ok (some (result, text)))
      (hwrite : (fs.write (r.copyPath path) fun _ => Text.Utf8.encode text) = .ok fs') :
      Judged r path fs (some result) fs'

/-- Sources are instrumented one after the other, and an event is logged each time: what is found out
about them, and the files that are left. -/
inductive Instruments (r : Run) (day : Timestamp) : Files → List Path → List Instrumented → Files → Prop
  | nil (fs : Files) : Instruments r day fs [] [] fs
  | cons {fs fs₁ fs₂ fs' : Files} {path : Path} {rest : List Path} {first : Option Instrumented}
      {more : List Instrumented} {change : List UInt8 → List UInt8} (hfirst : r.Judged path fs first fs₁)
      (hlog : fs₁.write (r.logPath day) change = .ok fs₂) (hrest : Instruments r day fs₂ rest more fs') :
      Instruments r day fs (path :: rest) (first.toList ++ more) fs'

/-- A source has been judged, without children, and no event has been logged yet. -/
def IsJudged (K : Files → Prop) (r : Run) (path : Path) (host : Host) (result : Except Failure (Option Instrumented))
    (h : Host) : Prop :=
  crew h = crew host ∧ K h.files ∧ ∀ first, result = .ok first → r.Judged path host.files first h.files

section Instrumenting

variable (hK : ∀ {fs fs' : Files} {p : Path} {change : List UInt8 → List UInt8},
  K fs → fs.write p change = .ok fs' → K fs')

include hK

theorem ends_instrument?_isJudged (r : Run) (path : Path) (h : K host.files) :
    Ends (r.instrument? path) host (r.IsJudged K path host) := by
  refine ends_instrument? (fun _ _ _ hq => hq) (fun _ => ⟨rfl, h, fun _ => of_failure⟩) (fun f _ => ⟨rfl, h, fun _ => of_failure⟩) ?_ ?_
  · intro _ hnone
    refine ⟨rfl, h, fun first hfirst => ?_⟩
    cases hfirst
    exact .skipped hnone
  · intro result text _ hsome
    cases hwrite : host.files.write (r.copyPath path) fun _ => Text.Utf8.encode text with
    | ok files =>
      refine ⟨rfl, hK h hwrite, fun first hfirst => ?_⟩
      cases hfirst
      exact .copied hsome hwrite
    | error fault => exact ⟨rfl, h, fun _ => of_failure⟩

theorem ends_instrumentLogged (r : Run) (path : Path) (h : K host.files) :
    Ends (r.instrumentLogged path) host fun result h => crew h = crew host ∧ K h.files ∧
      ∀ first, result = .ok first → ∃ files change, r.Judged path host.files first files ∧
        files.write (r.logPath host.now) change = .ok h.files := by
  have hwork (clock : Clock) : Ends (r.instrument? path) { host with clock } (r.IsJudged K path host) :=
    @ends_instrument?_isJudged K { host with clock } @hK r path h
  refine RunLog.ends_timed_aside (fun _ _ _ h => h) ?_ hwork
  rintro result h clock text ⟨hcrew, hfiles, hjudged⟩
  have hnow : h.now = host.now := congrArg (fun c => c.2.2.2.2.2) hcrew
  rw [appendText, ends_changeFiles]
  dsimp only
  split
  · rename_i files hwrite
    rw [hnow] at hwrite
    exact ⟨hcrew, hK hfiles hwrite, fun first hfirst => ⟨h.files, _, hjudged first hfirst, hwrite⟩⟩
  · exact ⟨hcrew, hfiles, fun _ => of_failure⟩

/-- Sources are judged one after the other, without children; what writing does not change is kept. -/
theorem ends_instrumentAll (r : Run) (paths : List Path) (h : K host.files) :
    Ends (r.instrumentAll paths) host fun result h => crew h = crew host ∧ K h.files ∧
      ∀ results, result = .ok results → r.Instruments host.now host.files paths results h.files := by
  induction paths generalizing host with
  | nil =>
    refine ⟨rfl, h, fun results hresults => ?_⟩
    cases hresults
    exact .nil _
  | cons path rest ih =>
    rw [Run.instrumentAll]
    refine Ends.bind (ends_instrumentLogged @hK r path h) ?_ fun f h hf => ⟨hf.1, hf.2.1, fun _ => of_failure⟩
    rintro first h₁ ⟨hcrew, hfiles, hfirst⟩
    obtain ⟨files, change, hjudged, hlog⟩ := hfirst first rfl
    have hnow : h₁.now = host.now := congrArg (fun c => c.2.2.2.2.2) hcrew
    refine Ends.bind (ih hfiles) ?_ fun f h hf => ⟨hf.1.trans hcrew, hf.2.1, fun _ => of_failure⟩
    rintro more h₂ ⟨hcrew', hfiles', hmore⟩
    refine ⟨hcrew'.trans hcrew, hfiles', fun results hresults => ?_⟩
    cases hresults
    exact .cons hjudged hlog (hnow ▸ hmore more rfl)

end Instrumenting

/-! ## Running the copies -/

/-- A copy that has been run, the number that its binary was named from, and its children. -/
structure Share where
  entry : Instrumented
  number : Nat
  children : List Spawned

/-- What a copy contributes. -/
def Share.metrics (r : Run) (s : Share) : List Metric :=
  FileRun.contribution (r.binaryOf s.number) s.children

/-- A copy has been compiled, and its program has ended. -/
def Share.HasRun (s : Share) : Prop :=
  ∃ c e status, s.children = [c, e] ∧ c.fate = .exited 0 ∧ e.fate = .exited status

/-- A copy that could not be compiled or run contributes nothing. -/
theorem Share.metrics_of_not_hasRun {s : Share} (h : ¬s.HasRun) : s.metrics r = [] := by
  unfold metrics FileRun.contribution
  split
  · rename_i c e hchildren
    split
    · rename_i status text hfate hprinted
      exact if_neg fun hcompiled => h ⟨c, e, status, hchildren, hcompiled, hfate⟩
    · rfl
  · rfl

/-- Copies are run one after the other, and an event is logged each time: their children, and the files
that are left. -/
inductive Shared (r : Run) (existing : Option String) (day : Timestamp) : Nat → Files → List Share → Files → Prop
  | nil (named : Nat) (fs : Files) : Shared r existing day named fs [] fs
  | cons {named : Nat} {fs files fs₁ fs' : Files} {entry : Instrumented} {children : List Spawned}
      {outcome : FileRun} {rest : List Share} {change : List UInt8 → List UInt8}
      (hruns : FileRun.Runs r.config (Path.ofText entry.written) (r.binaryOf (named + 1)) existing fs children
        (.ok outcome) files)
      (hlog : (FileRun.leave (.ok outcome) (files.without (r.binaryOf (named + 1)))).write (r.logPath day) change =
        .ok fs₁)
      (hrest : Shared r existing day (named + 1) fs₁ rest fs') :
      Shared r existing day named fs (⟨entry, named + 1, children⟩ :: rest) fs'

/-- What is known of the crew of a host when copies have been run. -/
def crewOf (r : Run) (host : Host) (shares : List Share) :
    Nat × List Child × List Spawned × List Metric × Option String × Timestamp :=
  (host.named + shares.length, host.upcoming.drop (shares.flatMap Share.children).length,
    host.spawned ++ shares.flatMap Share.children, host.gathered ++ shares.flatMap (Share.metrics r),
    host.searchPath, host.now)

/-- One more copy has been run, before the others. -/
theorem crewOf_cons {h : Host} {first : Share} {rest : List Share}
    (hcrew : crew h = crewAfter host first.children (host.gathered ++ first.metrics r)) :
    r.crewOf h rest = r.crewOf host (first :: rest) := by
  simp only [crew, crewAfter, Prod.mk.injEq] at hcrew
  obtain ⟨hnamed, hupcoming, hspawned, hgathered, hsearch, hnow⟩ := hcrew
  simp only [crewOf, hnamed, hupcoming, hspawned, hgathered, hsearch, hnow, List.flatMap_cons, List.length_append,
    List.length_cons, List.drop_drop, List.append_assoc, Nat.add_assoc, Nat.add_comm 1]

/-- Copies are run one after the other, and what they contribute is gathered. -/
theorem ends_measureAll (r : Run) (entries : List Instrumented) :
    Ends (r.measureAll entries) host fun result h => result = .ok () → ∃ shares,
      shares.map Share.entry = entries ∧ crew h = r.crewOf host shares ∧
        r.Shared host.searchPath host.now host.named host.files shares h.files := by
  induction entries generalizing host with
  | nil =>
    rw [Run.measureAll, ends_pure]
    exact fun _ => ⟨[], rfl, by simp [crew, crewOf], .nil _ _⟩
  | cons entry rest ih =>
    rw [Run.measureAll]
    refine Ends.bind (ends_measure Files.lasting_true r entry trivial) ?_ fun f h _ => of_failure
    rintro _ h₁ ⟨children, ran, files, gathered, -, hm, hresult⟩
    obtain ⟨⟨outcome, rfl⟩, rfl, change, hlog⟩ := hresult rfl
    refine Ends.mono ih fun result h₂ hrest heq => ?_
    obtain ⟨shares, hentries, hcrew, hshared⟩ := hrest heq
    refine ⟨⟨entry, host.named + 1, children⟩ :: shares, by rw [List.map_cons, hentries], ?_, ?_⟩
    · rw [hcrew]
      exact crewOf_cons hm.crew_eq
    · have hcrew₁ := hm.crew_eq
      simp only [crew, crewAfter, Prod.mk.injEq] at hcrew₁
      obtain ⟨hnamed, -, -, -, hsearch, hnow⟩ := hcrew₁
      rw [hnamed, hsearch, hnow] at hshared
      exact .cons hm.runs hlog hshared

/-! ## Whole runs -/

/-- What a run on files has come to: what is found out about its sources, the files when it begins to
run their copies, and what each copy contributes.  The binaries are named from the numbers after a
given one. -/
structure Gathers (r : Run) (named : Nat) (host : Host) (results : Results) (h : Host)
    (instrumented : List Instrumented) (files : Files) (shares : List Share) : Prop where
  instruments : r.Instruments host.now host.files (r.paths host.files) instrumented files
  summary_eq : results.summary = Summary.ofInstrumented instrumented fun p => r.shown files (Path.ofText p)
  entries_eq : shares.map Share.entry = instrumented.filter (·.hasEntryPoint)
  shared : r.Shared host.searchPath host.now named files shares h.files
  spawned_eq : h.spawned = host.spawned ++ shares.flatMap Share.children
  metrics_eq : results.metrics = shares.flatMap (Share.metrics r)

/-- The results of a run on files, if there are any. -/
def IsGathered (r : Run) (host : Host) (result : Except Failure Results) (h : Host) : Prop :=
  ∀ results, result = .ok results →
    ∃ instrumented files shares, r.Gathers host.named host results h instrumented files shares

/-- Copies are run when nothing has been gathered yet, and what they contribute is the result. -/
theorem ends_measure_results (r : Run) {instrumented : List Instrumented} {h : Host}
    (hcrew : crew h = crew { host with gathered := [] })
    (hinstruments : r.Instruments host.now host.files (r.paths host.files) instrumented h.files) (files : Files)
    (hfiles : files = h.files) :
    Ends (do
      r.measureAll (instrumented.filter (·.hasEntryPoint))
      results (Summary.ofInstrumented instrumented fun p => r.shown files (Path.ofText p))) h
      (r.IsGathered host) := by
  simp only [crew, Prod.mk.injEq] at hcrew
  obtain ⟨hnamed, -, hspawned, hgathered, hsearch, hnow⟩ := hcrew
  refine Ends.bind (ends_measureAll r _) ?_ fun f h _ _ => of_failure
  intro _ h' hmeasured
  obtain ⟨shares, hentries, hcrew', hshared⟩ := hmeasured rfl
  simp only [crew, crewOf, Prod.mk.injEq] at hcrew'
  obtain ⟨-, -, hspawned', hgathered', -, -⟩ := hcrew'
  rw [results, ends_bind, ends_get]
  dsimp only
  rw [ends_pure]
  intro results hresults
  cases hresults
  refine ⟨instrumented, h.files, shares, hinstruments, by rw [hfiles], hentries, ?_, ?_, ?_⟩
  · rw [← hnamed, ← hsearch, ← hnow]
    exact hshared
  · rw [hspawned', hspawned]
  · rw [hgathered', hgathered, List.nil_append]

/-- A run on files forgets what has been gathered; then sources are instrumented, and copies are run. -/
theorem ends_singleFiles_of {P : Except Failure (List Instrumented) → Host → Prop}
    {Q : Except Failure Results → Host → Prop} (hP : IgnoresReports P)
    (hinstrument : ∀ reports, Ends (r.instrumentAll (r.paths host.files)) { host with gathered := [], reports } P)
    (herror : ∀ f h, P (.error f) h → Q (.error f) h)
    (hmeasure : ∀ instrumented files h, P (.ok instrumented) h → files = h.files → Ends (do
      r.measureAll (instrumented.filter (·.hasEntryPoint))
      results (Summary.ofInstrumented instrumented fun p => r.shown files (Path.ofText p))) h Q) :
    Ends r.singleFiles host Q := by
  have hmain (reports : List Report) :
      Ends (do
        let instrumented ← r.instrumentAll (r.paths host.files)
        let files := (← get).files
        let summary := Summary.ofInstrumented instrumented fun p => r.shown files (Path.ofText p)
        Action.report (.summary summary)
        let entries := instrumented.filter (·.hasEntryPoint)
        if !instrumented.isEmpty && entries.isEmpty then
          Action.report (.info
            "No executable files found (no `__main__` guard). Instrumented files have been created.")
        r.measureAll entries
        results summary) { host with gathered := [], reports } Q := by
    refine Ends.bind (hinstrument reports) ?_ herror
    intro instrumented h hinstrumented
    have hlast (reports : List Report) :=
      hmeasure instrumented h.files { h with reports } (hP _ h reports hinstrumented) rfl
    rw [ends_bind, ends_get]
    refine IgnoresReports.ends_report_bind fun reports => ?_
    dsimp only
    split
    · exact IgnoresReports.ends_report_bind fun reports => hlast reports
    · exact hlast reports
  rw [Run.singleFiles, ends_bind, forget, ends_modify]
  dsimp only
  rw [ends_bind, ends_get]
  dsimp only
  split
  · exact IgnoresReports.ends_report_bind fun reports => hmain reports
  · exact hmain host.reports

/-- What copies contribute is what a run on files gathers. -/
theorem ends_singleFiles (r : Run) : Ends r.singleFiles host (r.IsGathered host) := by
  have hwrites {fs fs' : Files} {p : Path} {change : List UInt8 → List UInt8} (_ : True)
      (_ : fs.write p change = .ok fs') : True := trivial
  refine ends_singleFiles_of (P := fun result h => crew h = crew { host with gathered := [] } ∧ True ∧
      ∀ results, result = .ok results → r.Instruments host.now host.files (r.paths host.files) results h.files)
    (fun _ _ _ h => h) (fun reports => ends_instrumentAll hwrites r _ trivial) (fun f h _ _ => of_failure) ?_
  rintro instrumented files h ⟨hcrew, -, hinstruments⟩ hfiles
  exact ends_measure_results r hcrew (hinstruments instrumented rfl) files hfiles

/-- What has been gathered before makes no difference to a run on files. -/
theorem run_gathered (hmode : r.IsOnFiles host) (haccepted : r.inputProblem? host.files = none)
    (gathered : List Metric) : r.run { host with gathered } = r.run host := by
  have hfiles {Q : Except Failure Results → Host → Prop} (h : Host) :
      Ends r.singleFiles { h with gathered } Q ↔ Ends r.singleFiles h Q := by
    rw [Run.singleFiles, ends_bind, ends_bind, forget, ends_modify, ends_modify]
  have hrun {Q : Except Failure (Option Results) → Host → Prop} :
      Ends r.run { host with gathered } Q ↔ Ends r.run host Q := by
    rw [ends_run_iff hmode haccepted, @ends_run_iff r { host with gathered } Q hmode haccepted, ends_bind, ends_bind]
    exact hfiles { host with named := host.named + 1, pipeline := ⟨Stages.ofNames Package.stageNames, [], false⟩ }
  have hself : Ends r.run host fun result h => (result, h) = r.run host := rfl
  exact hrun.mpr hself

/-- The host when a run has been made a number of times, however it has ended. -/
def again (r : Run) : Nat → Host → Host
  | 0, host => host
  | n + 1, host => (r.run (r.again n host)).2

/-- The metrics of a run on files that returns, after any number of earlier ones: what each of its copies
that can be run contributes, in the order of the sources.  Each contribution is told by children that
this run has started; a copy that could not be compiled or run contributes nothing, and what has been
gathered before makes no difference. -/
theorem exists_gathers {n : Nat} {results : Results} (hmode : r.IsOnFiles (r.again n host))
    (hreturns : (r.run (r.again n host)).1 = .ok (some results)) :
    (r.paths (r.again n host).files).Pairwise (fun p q => p.le q = true) ∧
      (∃ instrumented files shares,
        r.Gathers ((r.again n host).named + 1) (r.again n host) results (r.again (n + 1) host) instrumented files
          shares ∧
        ∀ s ∈ shares, ¬s.HasRun → s.metrics r = []) ∧
      ∀ gathered, r.run { r.again n host with gathered } = r.run (r.again n host) := by
  have hpairwise := Files.pairwise_sources (r.again n host).files r.input r.config.instrumentedSuffix
  change _ ∧ (∃ instrumented files shares, r.Gathers _ _ results (r.run (r.again n host)).2 instrumented files shares ∧ _) ∧ _
  generalize r.again n host = host at *
  have haccepted : r.inputProblem? host.files = none := by
    by_contra hproblem
    obtain ⟨problem, hproblem⟩ := Option.ne_none_iff_exists'.mp hproblem
    have hrefused : Ends r.run host fun result _ => result = .error (.problem problem) := by
      rw [Run.run, ends_bind, ends_validate, hproblem]
    have : (.ok (some results) : Except Failure (Option Results)) = .error (.problem problem) := hreturns.symm.trans hrefused
    cases this
  refine ⟨hpairwise, ?_, run_gathered hmode haccepted⟩
  have hrun : Ends r.run host fun result h => ∀ results, result = .ok (some results) →
      ∃ instrumented files shares, r.Gathers (host.named + 1) host results h instrumented files shares := by
    refine ends_run_of_files hmode haccepted (ends_singleFiles r) (fun results h reports hgathered => ?_) fun _ _ _ _ => of_failure
    intro results' heq
    cases heq
    obtain ⟨instrumented, files, shares, hg⟩ := hgathered results rfl
    exact ⟨instrumented, files, shares, hg.instruments, hg.summary_eq, hg.entries_eq, hg.shared, hg.spawned_eq, hg.metrics_eq⟩
  obtain ⟨instrumented, files, shares, hg⟩ := hrun results hreturns
  exact ⟨instrumented, files, shares, hg, fun s _ hs => s.metrics_of_not_hasRun hs⟩

/-- A program that prints how long a call took. -/
def talker : Child :=
  { Child.idle with output := some [.bytes (Text.Utf8.encode "[Latency] job: 1s\n")] }

/-- The host of the small tree, on which two programs that print a time are to come. -/
def talkingHost : Host :=
  treeHost [.idle, talker, .idle, talker]

/-- The program of the small tree is run twice, and one call is measured each time. -/
theorem exists_gathers_twice :
    (treeRun.again 1 talkingHost).gathered.length = 1 ∧ ∃ results,
      (treeRun.run (treeRun.again 1 talkingHost)).1 = .ok (some results) ∧ results.metrics.length = 1 ∧
      ∃ instrumented files shares,
        treeRun.Gathers ((treeRun.again 1 talkingHost).named + 1) (treeRun.again 1 talkingHost) results
          (treeRun.again 2 talkingHost) instrumented files shares := by
  -- the two runs are evaluated once for the three facts
  obtain ⟨hmode, hlength, hgathered⟩ : treeRun.IsOnFiles (treeRun.again 1 talkingHost) ∧
      ((treeRun.run (treeRun.again 1 talkingHost)).1.toOption.bind id).map (·.metrics.length) = some 1 ∧
      (treeRun.again 1 talkingHost).gathered.length = 1 := by
    rw [IsOnFiles]
    decide +kernel
  refine ⟨hgathered, ?_⟩
  rcases hrun : (treeRun.run (treeRun.again 1 talkingHost)).1 with f | _ | results
  · rw [hrun] at hlength
    cases hlength
  · rw [hrun] at hlength
    cases hlength
  · rw [hrun] at hlength
    obtain ⟨-, ⟨instrumented, files, shares, hgathers, -⟩, -⟩ := exists_gathers hmode hrun
    exact ⟨results, rfl, Option.some.inj hlength, instrumented, files, shares, hgathers⟩

end Run

end Stopwatch

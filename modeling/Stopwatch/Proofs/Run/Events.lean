/-
  Events of a run.

  A run on files adds one event for each of its sources, and then one for each copy that can be run.  A
  run of a package adds one for the build, and one for the execution if there is something to execute.
  A failure that leaves the run ends the list, and an event whose line is refused is missing.
-/
import Stopwatch.Proofs.Host.Events
import Stopwatch.Proofs.Run.Frames
import Stopwatch.Proofs.Run.Gathered

namespace Stopwatch

open Action RunLog

namespace Run

variable {r : Run} {host h : Host}

/-! ## Sources -/

/-- A source is instrumented, or skipped, and an event says which.  What is found out about it names it
and its copy. -/
def LogsSource (r : Run) (path : Path) (host : Host) (result : Except Failure (Option Instrumented)) (h : Host)
    (events : List Event) : Prop :=
  r.log.Logs "instrument.file" path.text (r.instrument? path) (fun found => [("instrumented", .bool found.isSome)])
      host result h events ∧
    ∀ entry, result = .ok (some entry) → entry.source = path.text ∧ entry.written = (r.copyPath path).text

theorem names_of_verdict {fs : Files} {path : Path} {entry : Instrumented} {text : String}
    (h : r.verdict fs path = .ok (some (entry, text))) :
    entry.source = path.text ∧ entry.written = (r.copyPath path).text := by
  unfold verdict at h
  split at h
  · cases h
  · split at h <;> cases h
    exact ⟨rfl, rfl⟩

/-- What is found out about a source names it and its copy. -/
theorem ends_instrument?_names (r : Run) (path : Path) :
    Ends (r.instrument? path) host fun result _ => ∀ entry, result = .ok (some entry) →
      entry.source = path.text ∧ entry.written = (r.copyPath path).text := by
  refine ends_instrument? (fun _ _ _ hq => hq) (fun _ _ => of_failure) (fun _ _ _ => of_failure) (fun _ _ _ hnone => ?_) ?_
  · cases hnone
  · intro result text _ hverdict
    split
    · intro entry hentry
      cases hentry
      exact names_of_verdict hverdict
    · exact fun _ => of_failure

theorem isNote_instrumented : IsNote fun found : Option Instrumented => [("instrumented", .bool found.isSome)] where
  told_eq _ _ := rfl
  fits _ _ _ := ⟨trivial, trivial⟩

theorem ends_instrumentLogged_logs (r : Run) (path : Path) :
    Ends (r.instrumentLogged path) host (r.log.Records host (r.LogsSource path host)) := by
  refine Ends.mono (ends_timed_logs isNote_instrumented (r.works_instrument? path)) fun result h hr =>
    hr.mono fun events hlogs => ⟨hlogs, ?_⟩
  cases hlogs with
  | added hwork =>
    have hnames : Ends (r.instrument? path) { host with clock := host.clock.read.2 } _ := r.ends_instrument?_names path
    rw [Ends, hwork] at hnames
    exact hnames
  | refused => exact fun _ => of_failure

/-- Sources are instrumented one after the other, and one event is added each time. -/
theorem ends_instrumentAll_logs (r : Run) (paths : List Path) :
    Ends (r.instrumentAll paths) host (r.log.Records host fun result h events =>
      ∃ found, Series r.LogsSource paths host found h events ∧ result = found.map List.reduceOption) := by
  induction paths generalizing host with
  | nil => exact .none rfl ⟨_, .nil host, rfl⟩
  | cons path rest ih =>
    rw [instrumentAll]
    refine Records.bind (r.ends_instrumentLogged_logs path) (fun first h events hfirst => ?_) fun f h events hfirst =>
      ⟨_, .stopped hfirst, rfl⟩
    rw [ends_bind]
    refine Ends.mono ih fun result h' hrest => ?_
    have hmap (found : Except Failure (List (Option Instrumented))) :
        (found.map (first :: ·)).map List.reduceOption = (found.map List.reduceOption).map (first.toList ++ ·) := by
      cases found <;> cases first <;> rfl
    have hall (events' : List Event) (hseries : ∃ found, Series r.LogsSource rest h found h' events' ∧
        result = found.map List.reduceOption) :
        ∃ found, Series r.LogsSource (path :: rest) host found h' (events ++ events') ∧
          result.map (first.toList ++ ·) = found.map List.reduceOption := by
      obtain ⟨found, hseries, hresult⟩ := hseries
      exact ⟨_, .cons hfirst hseries, by rw [hmap, ← hresult]⟩
    cases result <;> exact hrest.mono hall

/-! ## Copies -/

/-- Runs a copy, and looks at what it has come to. -/
def runAndRecover (r : Run) (path : Path) : Action (FileRun × Recovered) := do
  let outcome ← FileRun.run r.config path
  return (outcome, ← recover outcome.recover)

/-- What is noted about a copy that has been run. -/
def noteCopy (found : FileRun × Recovered) : EventFields :=
  [("metrics", .integer found.2.metrics.length), ("structured", .bool found.2.structured)]

/-- A copy is run, an event is added, and what was measured is gathered; reports are made before and
behind. -/
def LogsCopy (r : Run) (entry : Instrumented) (host : Host) (result : Except Failure Recovered) (h : Host)
    (events : List Event) : Prop :=
  ∃ reports ran stop, r.log.Logs "compile.run" (Path.ofText entry.written).text
      (r.runAndRecover (Path.ofText entry.written)) noteCopy { host with reports } ran stop events ∧
    match ran with
    | .ok found => result = .ok found.2 ∧
      ∃ reports, h = { stop with reports, gathered := host.gathered ++ found.2.metrics }
    | .error f => result = .error f ∧ h = stop

theorem isNote_noteCopy : IsNote noteCopy where
  told_eq _ _ := rfl
  fits _ _ h := ⟨Json.isShort_of_lt h, trivial, trivial⟩

theorem works_runAndRecover {K : Host → Host → Prop} [IsRunFrame K] (hK : ∀ command, Admits K command) (path : Path) :
    Works K (r.runAndRecover path) :=
  (FileRun.works_run _ _ hK).bind fun outcome => (works_recover outcome.edits_recover).bind fun _ => .pure _

/-- Running a copy and logging that: nothing is gathered yet, and a copy that could not be run has nothing
to contribute. -/
theorem ends_runLogged_logs (r : Run) (entry : Instrumented) :
    Ends (r.runLogged (Path.ofText entry.written)) host (r.log.Records host fun ran stop events =>
      r.log.Logs "compile.run" (Path.ofText entry.written).text (r.runAndRecover (Path.ofText entry.written)) noteCopy
        host ran stop events ∧
      stop.gathered = host.gathered ∧
      ∀ message recovered, ran = .ok (.failed message, recovered) → recovered.metrics = []) := by
  have hlogs : Ends (r.runLogged (Path.ofText entry.written)) host (r.log.Records host (r.log.Logs "compile.run"
      (Path.ofText entry.written).text (r.runAndRecover (Path.ofText entry.written)) noteCopy host)) :=
    ends_timed_logs isNote_noteCopy (r.works_runAndRecover admits_unrecorded _)
  refine Ends.mono (hlogs.and (ends_runLogged Files.lasting_true r entry trivial)) ?_
  rintro ran stop ⟨hrecords, children, ran', files, -, hm, hfound⟩
  refine hrecords.mono fun events hlogs => ⟨hlogs, congrArg (fun c => c.2.2.2.1) hm.crew_eq, ?_⟩
  intro message recovered heq
  obtain ⟨rfl, hmetrics, -⟩ := hfound _ heq
  rw [hmetrics]
  exact FileRun.contribution_of_failed hm.runs

theorem ends_report_of {Q : Except Failure Unit → Host → Prop} {report : Report}
    (h : ∀ reports, Q (.ok ()) { host with reports }) : Ends (Action.report report) host Q := by
  rw [← bind_pure (Action.report report)]
  exact IgnoresReports.ends_report_bind h

theorem ends_measure_logs (r : Run) (entry : Instrumented) :
    Ends (r.measure entry) host (r.log.Records host fun result h events =>
      ∃ recovered, r.LogsCopy entry host recovered h events ∧ result = recovered.map fun _ => ()) := by
  rw [measure]
  dsimp only
  refine IgnoresReports.ends_report_bind fun reports => ?_
  change Ends _ { host with reports } (r.log.Records { host with reports } _)
  refine Records.bind (r.ends_runLogged_logs entry) ?_ ?_
  · rintro ⟨outcome, recovered⟩ stop events ⟨hlogs, hgathered, hfailed⟩
    have hdone (reports' : List Report) (gathered : List Metric) (heq : gathered = host.gathered ++ recovered.metrics) :
        ∃ found, r.LogsCopy entry host found { stop with reports := reports', gathered } (events ++ []) ∧
          (.ok () : Except Failure Unit) = found.map fun _ => () := by
      rw [List.append_nil, heq]
      exact ⟨.ok recovered, ⟨reports, _, stop, hlogs, rfl, reports', rfl⟩, rfl⟩
    -- a copy that could not be run is reported, and has measured nothing
    cases outcome with
    | failed message =>
      refine ends_report_of fun reports' => .none rfl (hdone reports' stop.gathered ?_)
      rw [hgathered, hfailed message recovered rfl, List.append_nil]
    | announced _ _ | printed _ =>
      have haccept (h : List Report) : Ends (accept recovered) { stop with reports := h } (r.log.Records stop
          fun result h' more => ∃ found, r.LogsCopy entry host found h' (events ++ more) ∧ result = found.map fun _ => ()) := by
        rw [accept, ends_bind, ends_modify]
        exact ends_report_of fun reports' => .none rfl (hdone reports' _ (by rw [hgathered]))
      dsimp only
      split
      · exact IgnoresReports.ends_report_bind haccept
      · exact haccept stop.reports
  · rintro f stop events ⟨hlogs, -⟩
    exact ⟨_, ⟨reports, _, stop, hlogs, rfl, rfl⟩, rfl⟩

/-- Copies are run one after the other, and one event is added each time. -/
theorem ends_measureAll_logs (r : Run) (entries : List Instrumented) :
    Ends (r.measureAll entries) host (r.log.Records host fun result h events =>
      ∃ measured, Series r.LogsCopy entries host measured h events ∧ result = measured.map fun _ => ()) := by
  induction entries generalizing host with
  | nil => exact .none rfl ⟨_, .nil host, rfl⟩
  | cons entry rest ih =>
    rw [measureAll]
    refine Records.bind (r.ends_measure_logs entry) ?_ ?_
    · rintro _ h events ⟨first, hfirst, hresult⟩
      cases first with
      | error f => cases hresult
      | ok recovered =>
        refine Ends.mono ih fun result h' hrest => hrest.mono fun events' hseries => ?_
        obtain ⟨measured, hseries, rfl⟩ := hseries
        exact ⟨_, .cons hfirst hseries, by cases measured <;> rfl⟩
    · rintro f h events ⟨first, hfirst, hresult⟩
      cases first with
      | ok recovered => cases hresult
      | error f =>
        cases hresult
        exact ⟨_, .stopped hfirst, rfl⟩

/-! ## Runs on files -/

/-- What a run on files adds: the events of its sources, up to the one that stops it; and if none does, the
events of the copies that can be run, again up to the one that stops it. -/
inductive LogsFiles (r : Run) (host : Host) : Except Failure Results → List Event → Prop
  | stopped {reports : List Report} {f : Failure} {h : Host} {events : List Event}
      (hsources : Series r.LogsSource (r.paths host.files) { host with gathered := [], reports } (.error f) h events) :
      LogsFiles r host (.error f) events
  | instrumented {reports reports' : List Report} {found : List (Option Instrumented)} {h h' : Host}
      {measured : Except Failure (List Recovered)} {first more : List Event}
      (hsources : Series r.LogsSource (r.paths host.files) { host with gathered := [], reports } (.ok found) h first)
      (hcopies : Series r.LogsCopy (found.reduceOption.filter (·.hasEntryPoint)) { h with reports := reports' } measured
        h' more) :
      LogsFiles r host (measured.map fun recovered =>
        ⟨Summary.ofInstrumented found.reduceOption fun p => r.shown h.files (Path.ofText p),
          recovered.flatMap Recovered.metrics, h'.now⟩) (first ++ more)

/-- What copies have measured is gathered. -/
theorem gathered_of_series {entries : List Instrumented} {measured : Except Failure (List Recovered)}
    {recovered : List Recovered} {events : List Event} (hs : Series r.LogsCopy entries host measured h events)
    (hmeasured : measured = .ok recovered) : h.gathered = host.gathered ++ recovered.flatMap Recovered.metrics := by
  induction hs generalizing recovered with
  | nil =>
    cases hmeasured
    exact (List.append_nil _).symm
  | @cons entry rest host h₁ h₂ value result events more hstep _ ih =>
    cases result with
    | error f => cases hmeasured
    | ok rest =>
      cases hmeasured
      have hfirst : h₁.gathered = host.gathered ++ value.metrics := by
        obtain ⟨_, ran, stop, -, hran⟩ := hstep
        cases ran with
        | error f => cases hran.1
        | ok found =>
          obtain ⟨hvalue, _, rfl⟩ := hran
          cases hvalue
          rfl
      rw [ih rfl, hfirst, List.flatMap_cons, List.append_assoc]
  | stopped => cases hmeasured

theorem ends_singleFiles_logs (r : Run) :
    Ends r.singleFiles host (r.log.Records host fun result _ events => r.LogsFiles host result events) := by
  -- reports are made between the sources and the copies, so the host in between is known but for them
  refine ends_singleFiles_of (P := fun result h => h.gathered = [] ∧ ∃ reports, ∃ reports' : List Report,
      r.log.Records host (fun result h events => ∃ found, Series r.LogsSource (r.paths host.files)
        { host with gathered := [], reports } found h events ∧ result = found.map List.reduceOption) result
        { h with reports := reports' })
    (fun _ _ _ hp => hp) (fun reports => ?_) ?_ ?_
  · have hcrew : Ends (r.instrumentAll (r.paths host.files)) { host with gathered := [], reports } _ :=
      ends_instrumentAll (K := fun _ => True) (fun _ _ => trivial) r _ trivial
    refine Ends.mono ((r.ends_instrumentAll_logs _).and hcrew) fun result h hr => ?_
    exact ⟨congrArg (fun c => c.2.2.2.1) hr.2.1, reports, h.reports, hr.1⟩
  · rintro f h ⟨-, reports, reports', events, hlogged, hadded, found, hseries, hfound⟩
    cases found with
    | ok _ => cases hfound
    | error f =>
      cases hfound
      exact ⟨events, hlogged, hadded, .stopped hseries⟩
  · rintro instrumented files h ⟨hgathered, reports, reports', first, hlogged, hadded, found, hseries, hfound⟩ rfl
    cases found with
    | error f => cases hfound
    | ok found =>
      cases hfound
      refine Ends.mono (Records.bind (Q := fun result _ more => r.LogsFiles host result (first ++ more))
        (r.ends_measureAll_logs _) ?_ ?_) fun _ _ hmore => hmore.after hlogged hadded
      · rintro _ h' more ⟨measured, hcopies, hmeasured⟩
        cases measured with
        | error f => cases hmeasured
        | ok recovered =>
          have hmetrics := gathered_of_series hcopies rfl
          rw [hgathered, List.nil_append] at hmetrics
          have hlogs := @LogsFiles.instrumented r host reports h.reports _ _ _ _ _ _ hseries hcopies
          rw [Except.map, ← hmetrics, ← List.append_nil more] at hlogs
          exact .none rfl hlogs
      · rintro f h' more ⟨measured, hcopies, hmeasured⟩
        cases measured with
        | ok _ => cases hmeasured
        | error f =>
          cases hmeasured
          exact @LogsFiles.instrumented r host reports h.reports _ _ _ _ _ _ hseries hcopies

/-! ## Runs of packages -/

/-- Executes a package, and looks at what it has printed. -/
def executeAndRecover (p : Package) (executable : Path) : Action (String × Recovered) := do
  let output ← p.execute executable
  return (output, ← recover fun fs => fs.recover output)

/-- What is noted about a package that has been executed. -/
def noteExecution (found : String × Recovered) : EventFields :=
  [("metrics", .integer found.2.metrics.length)]

/-- What a run of a package adds: the event of the build, and if there is something to execute then the one
of the execution. -/
inductive LogsPackage (r : Run) (p : Package) (host : Host) :
    Except Failure (Package.Built × String × Recovered) → List Event → Prop
  | unbuilt {f : Failure} {h : Host} {events : List Event}
      (hbuild : r.log.Logs "package.build" r.input.text p.instrumentAndBuild (fun _ => []) host (.error f) h events) :
      LogsPackage r p host (.error f) events
  | built {built : Package.Built} {h h' : Host} {reports : List Report} {found : Except Failure (String × Recovered)}
      {first more : List Event}
      (hbuild : r.log.Logs "package.build" r.input.text p.instrumentAndBuild (fun _ => []) host (.ok built) h first)
      (hrun : r.log.Logs "package.run" built.executable.text (executeAndRecover p built.executable) noteExecution
        { h with reports } found h' more) :
      LogsPackage r p host (found.map (built, ·)) (first ++ more)

theorem isNote_noteExecution : IsNote noteExecution where
  told_eq _ _ := rfl
  fits _ _ h := ⟨Json.isShort_of_lt h, trivial⟩

theorem isNote_nothing : IsNote fun _ : α => [] where
  told_eq _ _ := rfl
  fits _ _ _ := trivial

theorem ends_buildAndExecute_logs (r : Run) (p : Package) :
    Ends (r.buildAndExecute p) host (r.log.Records host fun result _ events => r.LogsPackage p host result events) := by
  have hbuild : Works Unrecorded p.instrumentAndBuild := (p.returns_instrumentAndBuild (p.admitsBuild admits_unrecorded)).works
  refine Records.bind (ends_timed_logs isNote_nothing hbuild) ?_ fun f h events hlogs => .unbuilt hlogs
  intro built h first hfirst
  refine IgnoresReports.ends_report_bind fun reports => ?_
  have hexecute : Works Unrecorded (executeAndRecover p built.executable) :=
    Works.bind ((works_observe _).bind fun _ => ((works_communicate (admits_unrecorded _)).stage _).bind fun _ => .pure _)
      fun _ => (works_recover fun fs => fs.edits_recoverFrom _ _).bind fun _ => .pure _
  change Ends _ { h with reports } (r.log.Records { h with reports } _)
  refine Records.bind (ends_timed_logs isNote_noteExecution hexecute) ?_ ?_
  · rintro ⟨output, recovered⟩ h' more hrun
    have hlogs := LogsPackage.built hfirst hrun
    rw [← List.append_nil more] at hlogs
    exact .none rfl hlogs
  · intro f h' more hrun
    exact LogsPackage.built hfirst hrun

/-- What came out is told, and what was measured is the result. -/
theorem ends_conclude (r : Run) (built : Package.Built) (output : String) (recovered : Recovered) :
    Ends (r.conclude built output recovered) host fun result _ => ∃ results, result = .ok results ∧
      results.metrics = recovered.metrics := by
  rw [conclude, ends_bind, forget, ends_modify]
  dsimp only
  refine IgnoresReports.ends_report_bind fun _ => ?_
  rw [ends_bind, accept, ends_bind, ends_modify]
  refine ends_report_of fun _ => ?_
  dsimp only
  rw [ends_bind, ends_get]
  exact IgnoresReports.ends_report_bind fun _ => ⟨_, rfl, List.nil_append _⟩

/-- What a run of a package adds and returns: the metrics are those that the execution has left. -/
def LogsResults (r : Run) (p : Package) (host : Host) (result : Except Failure (Option Results)) (events : List Event) :
    Prop :=
  ∃ found, r.LogsPackage p host found events ∧ ∀ results, result = .ok (some results) →
    ∃ built output recovered, found = .ok (built, output, recovered) ∧ results.metrics = recovered.metrics

theorem ends_package_logs (r : Run) (p : Package) :
    Ends (r.package p) host (r.log.Records host fun result _ => r.LogsResults p host result) := by
  refine Records.ensuring ?_ p.works_cleanUp ?_
  · rw [ends_bind, ends_attempt]
    refine Ends.mono (r.ends_buildAndExecute_logs p) ?_
    rintro found h ⟨events, hlogged, hadded, hlogs⟩
    rcases found with f | ⟨built, output, recovered⟩
    · have hnone (result : Except Failure (Option Results)) (hresult : ∀ results, result ≠ .ok (some results)) :
          r.LogsResults p host result events := ⟨_, hlogs, fun results heq => absurd heq (hresult results)⟩
      dsimp only
      split
      · exact IgnoresReports.ends_report_bind fun reports => ⟨events, hlogged, hadded, hnone _ fun _ heq => by cases heq⟩
      · exact ⟨events, hlogged, hadded, hnone _ fun _ heq => by cases heq⟩
    · have hsilent : Works Unrecorded (r.conclude built output recovered) := r.works_conclude built output recovered
      refine Ends.bind ((r.ends_conclude built output recovered).and (hsilent h)) ?_ ?_
      · rintro results h' ⟨⟨_, hresults, hmetrics⟩, hsilent, -⟩
        cases hresults
        refine ⟨events, hsilent.trans hlogged, hadded, _, hlogs, fun results' heq => ?_⟩
        cases heq
        exact ⟨built, output, recovered, rfl, hmetrics⟩
      · rintro f h' ⟨⟨_, hresults, -⟩, -⟩
        cases hresults
  · rintro result f events ⟨found, hlogs, -⟩
    exact ⟨found, hlogs, fun _ => of_failure⟩

/-! ## Whole runs -/

/-- What a run adds.  An input that is refused adds nothing.  The sources of a run on files are in order, and the
metrics that it returns are as many as the events of its copies tell of. -/
inductive LogsRun (r : Run) (host : Host) : Except Failure (Option Results) → List Event → Prop
  | refused {problem : Problem} (hproblem : r.inputProblem? host.files = some problem) :
      LogsRun r host (.error (.problem problem)) []
  | onFiles {result : Except Failure Results} {events : List Event} (haccepted : r.inputProblem? host.files = none)
      (hmode : r.IsOnFiles host) (hpaths : (r.paths host.files).Pairwise fun p q => p.le q = true)
      (hlogs : r.LogsFiles (Package.create r.input r.config host).2 result events)
      (hcount : ∀ results, result = .ok results → results.metrics.length =
        ((events.filter (·.type = "compile.run")).map (·.data.count)).sum) :
      LogsRun r host (result.map some) events
  | onPackage {result : Except Failure (Option Results)} {events : List Event}
      (haccepted : r.inputProblem? host.files = none) (hmode : ¬r.IsOnFiles host)
      (hlogs : r.LogsResults (Package.ofNumber r.input r.config (host.named + 1))
        (Package.create r.input r.config host).2 result events) :
      LogsRun r host result events

theorem LogsCopy.type_eq {entry : Instrumented} {result : Except Failure Recovered} {events : List Event}
    (h' : r.LogsCopy entry host result h events) : ∀ e ∈ events, e.type = "compile.run" := by
  obtain ⟨_, _, _, hlogs, -⟩ := h'
  exact hlogs.type_eq

theorem LogsCopy.sum_count_eq {entry : Instrumented} {recovered : Recovered} {events : List Event}
    (h' : r.LogsCopy entry host (.ok recovered) h events) :
    (events.map (·.data.count)).sum = recovered.metrics.length := by
  obtain ⟨_, ran, _, hlogs, hran⟩ := h'
  cases ran with
  | error f => cases hran.1
  | ok found =>
    cases hran.1
    exact hlogs.sum_count_eq

/-- The metrics of a run on files are as many as the events of its copies tell of. -/
theorem LogsFiles.length_metrics {result : Except Failure Results} {results : Results} {events : List Event}
    (h : r.LogsFiles host result events) (hresult : result = .ok results) :
    results.metrics.length = ((events.filter (·.type = "compile.run")).map (·.data.count)).sum := by
  cases h with
  | stopped => cases hresult
  | @instrumented _ _ found _ _ measured first more hsources hcopies =>
    -- the events of sources are of another type
    have hfirst : first.filter (·.type = "compile.run") = [] := by
      refine List.filter_eq_nil_iff.mpr fun e he => ?_
      rw [hsources.forall_mem (fun _ _ _ _ _ hs => hs.1.type_eq) e he]
      decide
    have hmore : more.filter (·.type = "compile.run") = more :=
      List.filter_eq_self.mpr fun e he => decide_eq_true (hcopies.forall_mem (fun _ _ _ _ _ => LogsCopy.type_eq) e he)
    cases measured with
    | error f => cases hresult
    | ok recovered =>
      cases hresult
      have hsum : (more.map (·.data.count)).sum = (recovered.map fun found => found.metrics.length).sum :=
        hcopies.sum_eq rfl fun _ _ _ _ _ => LogsCopy.sum_count_eq
      rw [List.filter_append, hfirst, hmore, List.nil_append, hsum]
      exact List.length_flatMap

/-- The events of a run: which ones there are and what they tell is said by `LogsRun`, and each is one line
behind all that the log held before. -/
theorem logged_run (r : Run) (host : Host) : ∃ events, (r.run host).2.logged = host.logged ++ events ∧
    (∀ e ∈ events, r.log.IsAdded e) ∧ r.LogsRun host (r.run host).1 events := by
  suffices hrun : Ends r.run host (r.log.Records host fun result _ => r.LogsRun host result) from hrun
  cases haccepted : r.inputProblem? host.files with
  | some problem =>
    rw [run, ends_bind, ends_validate, haccepted]
    exact .none rfl (.refused haccepted)
  | none =>
    by_cases hmode : r.IsOnFiles host
    · have hpaths := Files.pairwise_sources host.files r.input r.config.instrumentedSuffix
      have hfiles : Ends r.singleFiles (Package.create r.input r.config host).2 _ := r.ends_singleFiles_logs
      refine ends_run_of_files hmode haccepted hfiles ?_ ?_
      · rintro results h reports ⟨events, hlogged, hadded, hlogs⟩
        have hcount : ∀ results', (Except.ok results : Except Failure Results) = .ok results' → _ :=
          fun _ => hlogs.length_metrics
        exact ⟨events, hlogged, hadded, .onFiles haccepted hmode hpaths hlogs hcount⟩
      · rintro f h ⟨events, hlogged, hadded, hlogs⟩
        exact ⟨events, hlogged, hadded, .onFiles haccepted hmode hpaths hlogs fun _ => of_failure⟩
    · obtain ⟨hdirectory, hpackage⟩ := Bool.and_eq_true_iff.mp (Bool.of_not_eq_false hmode)
      have hpackage' : Ends (r.package (Package.ofNumber r.input r.config (host.named + 1)))
          (Package.create r.input r.config host).2 (r.log.Records host fun result _ => r.LogsResults _ _ result) :=
        r.ends_package_logs _
      refine ends_run_package_of hdirectory hpackage haccepted hpackage'
        (fun _ _ hr => hr.mono fun _ => .onPackage haccepted hmode)
        (fun _ hr => hr.mono fun _ => .onPackage haccepted hmode) ?_
      rintro results h ⟨events, hlogged, hadded, hresults⟩
      have htell : Works Unrecorded (tellStatistics results) := works_tellStatistics results
      refine Ends.mono (htell h) fun told h' htold => ?_
      have hlogged' : h'.logged = host.logged ++ events := htold.1.trans hlogged
      cases told with
      | ok _ => exact ⟨events, hlogged', hadded, .onPackage haccepted hmode hresults⟩
      | error f =>
        obtain ⟨found, hpackage, -⟩ := hresults
        exact ⟨events, hlogged', hadded, .onPackage haccepted hmode ⟨found, hpackage, fun _ => of_failure⟩⟩

/-- A run of the small package that looks for its tests where events are logged: they cannot be copied, and
what was there is removed. -/
def unloggedRun : Run :=
  { smallRun with config := { smallRun.config with testsDirectory := "../../home/logs" } }

/-- An event whose line is refused is missing: the small package is not built, and no event tells that. -/
theorem not_logged_run : unloggedRun.inputProblem? smallHost.files = none ∧ ¬unloggedRun.IsOnFiles smallHost ∧
    (unloggedRun.run smallHost).2.logged.length = 0 := by
  rw [IsOnFiles]
  decide +kernel

end Run

end Stopwatch

/-
  The work of a run.

  Once its input has been accepted, a run keeps to every frame, if only its children may be started,
  and no failure refuses the input any more.
-/
import Stopwatch.Proofs.Package.Frames
import Stopwatch.Proofs.Run.Package

namespace Stopwatch

open Action

variable {α : Type} {K : Host → Host → Prop}

/-! ## Logged work -/

theorem RunLog.works_timed [IsLogFrame K] {log : RunLog} {type : String} {data : EventFields} {work : Action α}
    {R : α → Prop} {note : α → EventFields} (hwork : Returns K R work) :
    Returns K R (log.timed type data work note) := by
  refine works_readClock.returns.bind fun _ _ => ?_
  have hwrite (fields : EventFields) (duration : Option Int) : Works K (log.write type fields duration) :=
    (works_observe _).bind fun _ => (works_observe _).bind fun _ => (works_appendText _ _).bind fun _ =>
      works_modify fun host => IsLogFrame.logged host _
  refine hwork.attempt_bind (fun x hx => ?_) fun e he => ?_
  · exact works_readClock.returns.bind fun _ _ => (hwrite _ _).returns.bind fun _ _ => .pure hx
  · exact works_readClock.returns.bind fun _ _ => (hwrite _ _).returns.bind fun _ _ => .fail he

/-- A file of records that is taken is removed; nothing else is done to the files. -/
theorem Files.edits_recoverFrom (fs : Files) (path : Option String) (output : String) :
    fs.Edits (fs.recoverFrom path output).files := by
  rw [recoverFrom]
  cases htaken : path.bind fs.takeMetrics? with
  | none => exact .refl
  | some found =>
    obtain ⟨metrics, files⟩ := found
    obtain ⟨path, -, hpath⟩ := Option.bind_eq_some_iff.mp htaken
    obtain ⟨own, -, -, -, -, -, -, -, rfl⟩ := takeMetrics_files hpath
    exact Edits.refl.erase own

theorem FileRun.edits_recover (outcome : FileRun) (fs : Files) : fs.Edits (outcome.recover fs).files := by
  cases outcome with
  | announced path output => exact fs.edits_recoverFrom _ _
  | printed output => exact fs.edits_recoverFrom _ _
  | failed message => exact .refl

namespace Run

variable (r : Run)

section Aside

variable [IsFrame K]

theorem works_forget : Works K forget :=
  works_modify fun _ => IsFrame.aside ⟨_, _, _, _, _, rfl, .refl, rfl⟩

theorem works_accept (recovered : Recovered) : Works K (accept recovered) := by
  refine Works.bind (works_modify fun _ => IsFrame.aside ⟨_, _, _, _, _, rfl, .refl, rfl⟩) fun _ => ?_
  exact works_report _

theorem works_recover {from_ : Files → Recovered} (h : ∀ fs : Files, fs.Edits (from_ fs).files) : Works K (recover from_) :=
  fun host => ⟨IsFrame.aside (.files (h host.files)), trivial⟩

theorem works_results (summary : Summary) : Works K (results summary) :=
  works_get.bind fun _ => .pure _

theorem works_conclude (built : Package.Built) (output : String) (recovered : Recovered) :
    Works K (r.conclude built output recovered) :=
  works_forget.bind fun _ => (works_report _).bind fun _ => (works_accept _).bind fun _ =>
    works_get.bind fun _ => (works_report _).bind fun _ => works_results _

theorem works_tellStatistics (results : Results) : Works K (tellStatistics results) := by
  unfold tellStatistics
  split
  · exact .pure ()
  · exact works_report _

/-! ## Sources -/

theorem works_writeCopy (p target : Path) (m : Syntax.Module) : Works K (writeCopy p target m) := by
  refine (Package.works_analyze m).bind fun analysis => (works_observe _).bind fun present => ?_
  have hwrite : Works K (do
      Action.writeText target (← Action.instrumentModule m p .definition)
      return (⟨p.text, target.text, analysis.functions, analysis.hasEntryPoint⟩ : Instrumented)) :=
    (Package.works_instrumentText _ _ _).bind fun _ => (works_writeText _ _).bind fun _ => .pure _
  dsimp only
  split
  · exact (works_report _).bind fun _ => hwrite
  · exact hwrite

theorem works_instrument? (p : Path) : Works K (r.instrument? p) := by
  have hcheck : Works K (checkName (r.copyPath p)) := by
    unfold checkName
    split
    · exact .fail rfl
    · exact .pure ()
  refine hcheck.bind fun _ => works_get.bind fun _ => (Package.works_readModule _ _).attempt_bind (fun m => ?_) fun f _ => ?_
  · exact (works_writeCopy _ _ _).bind fun _ => .pure _
  · exact (works_report _).bind fun _ => .pure none

omit [IsFrame K] in
theorem works_instrumentAll [IsLogFrame K] (paths : List Path) : Works K (r.instrumentAll paths) := by
  induction paths with
  | nil => exact .pure []
  | cons p rest ih =>
    exact (RunLog.works_timed (r.works_instrument? p).returns).works.bind fun _ => ih.bind fun _ => .pure _

end Aside

/-! ## Runs on files -/

section SingleFiles

variable [IsRunFrame K] [IsLogFrame K] (hK : ∀ command, Admits K command)

include hK

theorem works_measure (result : Instrumented) : Works K (r.measure result) := by
  have hwork (path : Path) : Works K (do
      let outcome ← FileRun.run r.config path
      return (outcome, ← recover outcome.recover)) :=
    (FileRun.works_run _ _ hK).bind fun outcome => (works_recover outcome.edits_recover).bind fun _ => .pure _
  refine (works_report _).bind fun _ => (RunLog.works_timed (hwork _).returns).works.bind fun (outcome, recovered) => ?_
  cases outcome with
  | failed message => exact works_report _
  | announced _ _ | printed _ =>
    dsimp only
    split
    · exact (works_report _).bind fun _ => works_accept _
    · exact works_accept _

theorem works_singleFiles : Works K r.singleFiles := by
  have hmeasure (entries : List Instrumented) : Works K (r.measureAll entries) := by
    induction entries with
    | nil => exact .pure ()
    | cons entry rest ih => exact (r.works_measure hK entry).bind fun _ => ih
  have hwarn (p : Prop) [Decidable p] (report : Report) {next : Action Results} (hnext : Works K next) :
      Works K (do if p then Action.report report
                  next) := by
    split
    · exact (works_report _).bind fun _ => hnext
    · exact hnext
  refine works_forget.bind fun _ => works_get.bind fun _ => hwarn _ _ ?_
  refine (r.works_instrumentAll _).bind fun instrumented => works_get.bind fun _ => (works_report _).bind fun _ => hwarn _ _ ?_
  exact (hmeasure _).bind fun _ => works_results _

end SingleFiles

/-! ## Runs of packages -/

/-- The three commands by which a package is built and run may be started. -/
structure AdmitsPackage (p : Package) (K : Host → Host → Prop) : Prop where
  build : p.AdmitsBuild K
  execute (name : String) (searchPath : Option String) : Admits K
    (.ofTexts [p.config.interpreter, (p.releaseDirectory.child name).text] (some p.path.text) (some ⟨searchPath, some "1"⟩))

theorem admitsPackage {p : Package} (hK : ∀ command, Admits K command) : AdmitsPackage p K :=
  ⟨p.admitsBuild hK, fun _ _ => hK _⟩

section Package

variable [IsChildFrame K] [IsStageFrame K] [IsLogFrame K] {p : Package}

theorem works_buildAndExecute (h : AdmitsPackage p K) : Works K (r.buildAndExecute p) := by
  refine Returns.works (R := fun _ => True)
    ((RunLog.works_timed (p.returns_instrumentAndBuild h.build)).bind fun built hname => Works.returns ?_)
  obtain ⟨name, hname⟩ := hname
  have hexecute : Works K (p.execute built.executable) := by
    rw [hname]
    exact (works_observe _).bind fun _ => ((works_communicate (h.execute name _)).stage _).bind fun _ => .pure _
  have hwork : Works K (do
      let output ← p.execute built.executable
      return (output, ← recover fun fs => fs.recover output)) :=
    hexecute.bind fun output => (works_recover fun fs => fs.edits_recoverFrom _ _).bind fun _ => .pure _
  exact (works_report _).bind fun _ => (RunLog.works_timed hwork.returns).works.bind fun _ => .pure _

theorem works_package (h : AdmitsPackage p K) : Works K (r.package p) := by
  refine .ensuring ((r.works_buildAndExecute h).attempt_bind (fun found => ?_) fun f hf => ?_) p.works_cleanUp
  · exact (r.works_conclude _ _ _).bind fun _ => .pure _
  · dsimp only
    split
    · exact (works_report _).bind fun _ => .pure none
    · exact .fail hf

end Package

/-! ## Whole runs -/

variable [IsRunFrame K] [IsLogFrame K] (hK : ∀ command, Admits K command)

include hK

theorem works_dispatch (p : Package) : Works K (r.dispatch p) := by
  refine works_get.bind fun host => ?_
  dsimp only
  split
  · exact r.works_package (admitsPackage hK)
  · exact (r.works_singleFiles hK).bind fun _ => .pure _

/-- A run whose input has been accepted does not refuse it any more. -/
theorem stays_run_accepted {host : Host} (haccepted : r.inputProblem? host.files = none) :
    Stays (K host) Failure.AcceptsInput r.run host := by
  have hcreate : Works K (Package.create r.input r.config) :=
    works_freshNumber.bind fun _ => (works_plan _).bind fun _ => .pure _
  rw [run, Stays, ends_bind, ends_validate, haccepted]
  refine (hcreate.bind fun p => (r.works_dispatch hK p).bind fun found => ?_) host
  cases found with
  | none => exact .pure none
  | some results => exact (works_tellStatistics results).bind fun _ => .pure _

end Run

end Stopwatch

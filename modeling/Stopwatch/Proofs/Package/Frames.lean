/-
  The work of the stages of a package.

  Whatever is done in the stages of a package keeps to every frame, if only its children may be
  started: no stage marks another one, makes a name, or refuses the input.
-/
import Stopwatch.Proofs.Package.Executable
import Stopwatch.Proofs.Process.Frames

namespace Stopwatch

open Action

variable {K : Host → Host → Prop}

namespace Package

section Aside

variable [IsFrame K] (p : Package)

theorem works_notify (text : String) : Works K (notify text) := works_report _

/-! ## The working copy -/

theorem works_copyStep (step : CopyStep) : Works K (p.copyStep step) := by
  refine (works_observe _).bind fun present => ?_
  split
  · refine (works_copy _ _).attempt_bind (fun _ => .pure ()) fun f hf => ?_
    dsimp only
    split
    · exact .fail hf
    · exact (works_removeTree _).attempt.discard.bind fun _ => works_advance fun _ => rfl
  · split
    · refine .fail ?_
      rw [missingPart]
      split <;> rfl
    · exact .pure ()

theorem works_copySteps (steps : List CopyStep) : Works K (p.copySteps steps) := by
  induction steps with
  | nil => exact .pure ()
  | cons step rest ih => exact (p.works_copyStep step).bind fun _ => ih

theorem works_copy : Works K p.copy := by
  refine works_get.bind fun _ => (p.works_copySteps _).bind fun _ => works_get.bind fun host => ?_
  dsimp only
  split
  · exact works_report _
  · exact .pure ()

/-! ## Sources -/

theorem works_readModule (path : Path) (name : String) : Works K (Action.readModule path name) := by
  refine (works_readText path).bind fun source => ?_
  cases Syntax.Module.parse? source with
  | some m =>
    dsimp only
    split
    · exact Works.bind (.fail rfl) fun _ => .pure m
    · exact .pure m
  | none =>
    dsimp only
    split
    · exact Works.bind (.fail rfl) fun _ => .fail rfl
    · exact .fail rfl

theorem works_analyze (m : Syntax.Module) : Works K (Action.analyze m) := by
  unfold Action.analyze
  split
  · exact .pure _
  · exact .fail rfl

theorem works_instrumentText (m : Syntax.Module) (path : Path) (origin : CollectorOrigin) :
    Works K (Action.instrumentModule m path origin) := by
  unfold Action.instrumentModule
  split
  · exact .pure _
  · exact .fail rfl

theorem works_instrumentModule (path : Path) (m : Syntax.Module) : Works K (p.instrumentModule path m) := by
  have hplace : Works K p.placeCollector := by
    refine works_get.bind fun host => ?_
    split
    · exact (works_writeText _ _).bind fun _ => works_advance fun _ => rfl
    · exact .pure ()
  exact (works_analyze m).bind fun _ => hplace.bind fun _ => (works_instrumentText _ _ _).bind fun _ =>
    (works_writeText _ _).bind fun _ => .pure _

theorem works_instrumentAll (paths : List Path) : Works K (p.instrumentAll paths) := by
  have hone (path : Path) : Works K (p.instrument? path) :=
    (works_readModule _ _).attempt_bind (fun m => (p.works_instrumentModule path m).bind fun _ => .pure _)
      fun _ _ => (works_report _).bind fun _ => .pure _
  induction paths with
  | nil => exact .pure []
  | cons path rest ih => exact (hone path).bind fun _ => ih.bind fun _ => .pure _

theorem works_instrumentSources : Works K p.instrumentSources := by
  refine works_get.bind fun host => ?_
  split
  · exact .fail rfl
  · exact p.works_instrumentAll _

/-! ## Entry, archive and executable -/

theorem acceptsInput_of_projectTable {manifest : Toml.Table} {f : Failure} (h : projectTable manifest = .error f) :
    f.AcceptsInput := by
  rw [projectTable] at h
  split at h
  · cases h
  · cases h
  · cases h
    rfl

theorem works_project : Works K p.project := by
  have hmanifest : Works K p.manifest := by
    refine (works_readText _).attempt_bind (fun _ => .pure _) fun f hf => ?_
    dsimp only
    split
    · exact .pure _
    · exact .fail hf
  refine hmanifest.bind fun table => ?_
  split
  · exact .pure _
  · rename_i f hf
    exact .fail (acceptsInput_of_projectTable hf)

/-- The archive stands in the release directory, under a safe name. -/
theorem returns_archive :
    Returns K (fun target => ∃ name, target = p.releaseDirectory.child (safeName name ++ ".pyz")) p.archive := by
  have hname : Returns K (fun name => ∃ given, name = safeName given) p.projectName :=
    p.works_project.returns.bind fun _ _ => works_get.returns.bind fun _ _ => .pure ⟨_, rfl⟩
  refine hname.bind fun name hgiven => .pure ?_
  obtain ⟨given, rfl⟩ := hgiven
  exact ⟨given, rfl⟩

/-- Scripts fail to be counted, or to be looked into, only because of what they are. -/
theorem acceptsInput_of_onlyScript {scripts : Toml} {f : Failure} (h : onlyScript? scripts = .error f) :
    f.AcceptsInput := by
  unfold onlyScript? countScripts at h
  cases scripts with
  | table t =>
    simp only [bind, Except.bind] at h
    split at h
    · cases h
    · rcases t with _ | ⟨⟨name, entry⟩, rest⟩
      · cases h
        rfl
      · cases h
  | array items =>
    simp only [bind, Except.bind] at h
    split at h
    · cases h
    · cases h
      rfl
  | text s =>
    simp only [bind, Except.bind] at h
    split at h
    · cases h
    · cases h
      rfl
  | _ =>
    cases h
    rfl

theorem works_resolveEntry (results : List Instrumented) : Works K (p.resolveEntry results) := by
  have hlaunch : Works K (p.launch results) := by
    unfold launch
    split
    · exact .fail rfl
    · exact works_writeText _ _
    · exact .fail rfl
  refine (works_observe _).bind fun present => ?_
  split
  · exact .pure none
  · refine p.works_project.bind fun table => ?_
    dsimp only
    split
    · rename_i f hf
      exact .fail (acceptsInput_of_onlyScript hf)
    · exact .pure _
    · exact hlaunch.bind fun _ => .pure none

/-- The executable stands in the release directory. -/
theorem returns_findExecutable : Returns K (fun path => ∃ name, path = p.releaseDirectory.child name) p.findExecutable := by
  refine works_get.returns.bind fun host _ => ?_
  split
  · exact .fail rfl
  · rename_i path hpath
    have hmem : path ∈ p.candidates host.files := by rw [hpath]; exact List.mem_singleton_self path
    obtain ⟨name, hname, -⟩ := exists_of_mem_candidates hmem
    exact .pure ⟨name, hname⟩
  · exact .fail rfl

end Aside

/-! ## Build -/

section Children

variable [IsChildFrame K] (p : Package)

theorem works_tell (notice : Notice) : Works K (tell notice) := by
  cases notice <;> exact works_report _

theorem works_buildStep (deadline : Float) {arguments : List Argument}
    (h : Admits K ⟨arguments, some p.work.text, none⟩) : Works K (p.buildStep deadline arguments) := by
  refine works_readClock.bind fun _ => Returns.works (R := fun _ => True) ?_
  refine (p.supervisor.returns_run rfl h _).bind fun supervised hsupervised => ?_
  refine (works_forM _ works_tell).returns.bind fun _ _ => Works.returns ?_
  split
  · rename_i f hf
    rw [hf] at hsupervised
    exact .fail hsupervised
  · split
    · exact .pure _
    · exact (works_report _).bind fun _ => .fail rfl

/-- The two commands by which a package is built may be started. -/
def AdmitsBuild (p : Package) (K : Host → Host → Prop) : Prop :=
  Admits K ⟨p.compileArguments, some p.work.text, none⟩ ∧ ∀ name entry,
    Admits K ⟨p.packArguments (p.releaseDirectory.child (safeName name ++ ".pyz")) entry, some p.work.text, none⟩

omit [IsChildFrame K] in
theorem admitsBuild (hK : ∀ command, Admits K command) : p.AdmitsBuild K :=
  ⟨hK _, fun _ _ => hK _⟩

theorem works_build (h : p.AdmitsBuild K) (entry : Option Toml) : Works K (p.build entry) := by
  refine (works_makeDirectories _ _).bind fun _ => (works_writeText _ _).bind fun _ => ?_
  refine (works_notify _).bind fun _ => (works_makeDirectories _ _).bind fun _ => ?_
  refine Returns.works (R := fun _ => True) (p.returns_archive.bind fun target htarget => Works.returns ?_)
  obtain ⟨name, rfl⟩ := htarget
  refine works_readClock.bind fun _ => (p.works_buildStep _ h.1).bind fun _ => ?_
  exact (p.works_buildStep _ (h.2 name entry)).bind fun _ => (works_notify _).bind fun _ => .pure _

/-! ## All stages -/

/-- The sources as a stage. -/
def instrumentStage (p : Package) : Action (List Instrumented) :=
  stage "instrument" do
    notify "Instrumenting Python files..."
    let results ← p.instrumentSources
    notify ("Instrumented " ++ toString results.length ++ " file(s)")
    return results

/-- The build as a stage, and the search for the executable as another one. -/
def buildStage (p : Package) (entry : Option Toml) : Action String :=
  stage "build" do
    notify "Building instrumented package..."
    p.build entry

theorem assemble_eq (p : Package) : p.assemble = (do
    let results ← p.instrumentStage
    let entry ← stage "entry" (p.resolveEntry results)
    let output ← p.buildStage entry
    let executable ← stage "locate" p.findExecutable
    return ⟨executable, p.work, output, results⟩) := rfl

variable [IsStageFrame K]

omit [IsChildFrame K] in
theorem works_prepare : Works K p.prepare :=
  (Works.stage _ (works_makeDirectories _ _)).bind fun _ => .stage _ ((works_notify _).bind fun _ => p.works_copy)

omit [IsChildFrame K] in
theorem works_instrumentStage : Works K p.instrumentStage :=
  .stage _ ((works_notify _).bind fun _ => p.works_instrumentSources.bind fun _ => (works_notify _).bind fun _ => .pure _)

theorem works_buildStage (h : p.AdmitsBuild K) (entry : Option Toml) : Works K (p.buildStage entry) :=
  .stage _ ((works_notify _).bind fun _ => p.works_build h entry)

theorem returns_assemble (h : p.AdmitsBuild K) :
    Returns K (fun built => ∃ name, built.executable = p.releaseDirectory.child name) p.assemble := by
  rw [assemble_eq]
  refine p.works_instrumentStage.returns.bind fun results _ => ?_
  refine ((p.works_resolveEntry results).stage _).returns.bind fun entry _ => ?_
  refine (p.works_buildStage h entry).returns.bind fun output _ => ?_
  exact (p.returns_findExecutable.stage _).bind fun executable hname => .pure hname

theorem returns_instrumentAndBuild (h : p.AdmitsBuild K) :
    Returns K (fun built => ∃ name, built.executable = p.releaseDirectory.child name) p.instrumentAndBuild :=
  (works_notify _).returns.bind fun _ _ => p.works_prepare.returns.bind fun _ _ => p.returns_assemble h

omit [IsChildFrame K] in
theorem works_cleanUp : Works K p.cleanUp := by
  refine .stage _ ((works_observe _).bind fun present => ?_)
  split
  · exact works_removeTree _
  · exact .pure ()

end Children

end Package

end Stopwatch

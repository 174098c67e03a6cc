/-
  Building and running a package.

  What the manifest says is a function of the files.  Each stage after the instrumentation
  keeps an invariant of which only a few things are asked: that it survives the writes of
  the stage, and that what the manifest says fails only as it is allowed to.
-/
import Stopwatch.Proofs.Host.Logged
import Stopwatch.Proofs.Package.Sources
import Stopwatch.Run.Whole

namespace Stopwatch

namespace Package

open Files Action

variable {p : Package} {I I' J : Host → Prop} {F : Failure → Prop} {R : Option Toml → Prop}
  {host h : Host}

/-! ## What the manifest says -/

/-- The manifest of a package.  One that cannot be read, or is not TOML, counts as empty. -/
def manifestAt (p : Package) (fs : Files) : Except Failure Toml.Table :=
  match fs.textAt p.manifestPath with
  | .ok text => .ok ((Toml.ofText? text).getD [])
  | .error f => if f.isSystem then .ok [] else .error f

/-- What stands under `project` in the manifest of a package. -/
def projectAt (p : Package) (fs : Files) : Except Failure Toml.Table :=
  match p.manifestAt fs with
  | .ok manifest => projectTable manifest
  | .error f => .error f

/-- The only entry among the scripts of a package, if there is just one. -/
def scriptAt (p : Package) (fs : Files) : Except Failure (Option Toml) :=
  match p.projectAt fs with
  | .ok project => onlyScript? ((Toml.get? project "scripts").getD (.table []))
  | .error f => .error f

theorem ends_manifest {Q : Except Failure Toml.Table → Host → Prop} :
    Ends p.manifest host Q ↔ Q (p.manifestAt host.files) host := by
  rw [manifest, ends_bind, ends_attempt, ends_readText]
  unfold manifestAt
  cases host.files.textAt p.manifestPath with
  | ok text => rfl
  | error f =>
    dsimp only
    cases f.isSystem <;> rfl

theorem ends_project {Q : Except Failure Toml.Table → Host → Prop} :
    Ends p.project host Q ↔ Q (p.projectAt host.files) host := by
  rw [project, ends_bind, ends_manifest]
  unfold projectAt
  cases p.manifestAt host.files with
  | error f => rfl
  | ok manifest =>
    dsimp only
    cases projectTable manifest <;> rfl

/-! ## Entry -/

/-- The path of the launcher. -/
def launcherPath (p : Package) : Path :=
  p.sourceRoot.child launcherFile

/-- What is asked of an invariant while the entry is resolved; `R` holds of all entries. -/
structure Resolves (p : Package) (I : Host → Prop) (F : Failure → Prop) (R : Option Toml → Prop) : Prop where
  system : ∀ e, F (.system e)
  problem : ∀ q : Problem, q.kind.isA .package = true → F (.problem q)
  script : ∀ h f, I h → p.scriptAt h.files = .error f → F f
  entry : ∀ h e, I h → p.scriptAt h.files = .ok (some e) → R (some e)
  none : R none
  launcher : ∀ h files text, I h →
    (h.files.write p.launcherPath fun _ => Text.Utf8.encode text) = .ok files → I { h with files }

/-- The launcher is written only where there is one source to launch. -/
theorem Resolves.launch (hI : p.Resolves I F R) (hi : I h) (results : List Instrumented) :
    Stays I F (p.launch results) h := by
  rw [Package.launch]
  split
  · exact .fail hi (hI.problem _ rfl)
  · exact stays_writeText hI.system hi fun files hwrite => hI.launcher h files _ hi hwrite
  · exact .fail hi (hI.problem _ rfl)

theorem Resolves.resolveEntry (hI : p.Resolves I F R) (hi : I h) (results : List Instrumented) :
    Yields I F R (p.resolveEntry results) h := by
  rw [Package.resolveEntry, Yields, ends_bind, Action.exists?, ends_observe]
  dsimp only
  split
  · exact ⟨hi, hI.none⟩
  · have hscript := hI.script h
    have hentry := hI.entry h
    rw [ends_bind, ends_project]
    unfold scriptAt at hscript hentry
    cases hproject : p.projectAt h.files with
    | error f => exact ⟨hi, hscript f hi (by rw [hproject])⟩
    | ok project =>
      simp only [hproject] at hscript hentry ⊢
      split
      · rename_i f hf
        exact ⟨hi, hscript f hi hf⟩
      · rename_i entry he
        exact ⟨hi, hentry entry hi he⟩
      · exact (hI.launch hi results).yields.bind fun _ h hi _ => .pure hi hI.none

/-! ## Build -/

/-- What is asked of the invariants while a package is built: `I` until children are started,
and `J` from then on. -/
structure Builds (p : Package) (I J : Host → Prop) (F : Failure → Prop) (entry : Option Toml) : Prop where
  quiet : Quiet I
  grows : Grows I
  log : ∀ h files, I h → (h.files.write p.config.buildLog fun _ => Text.Utf8.encode "") = .ok files →
    I { h with files }
  problem : ∀ q : Problem, q.kind.isA .package = true → F (.problem q)
  project : ∀ h f, I h → p.projectAt h.files = .error f → F f
  weaken : ∀ h, I h → J h
  supervised : ∀ arguments, (∀ f, Supervisor.joinArguments 0 arguments = .error f → F f) →
    p.supervisor.Keeps J F ⟨arguments, some p.work.text, none⟩
  arguments : ∀ target f, Supervisor.joinArguments 0 (p.packArguments target entry) = .error f → F f

variable {entry : Option Toml}

namespace Builds

theorem stays_tell (hJ : Quiet J) (hi : J h) (notices : List Notice) :
    Stays J F (notices.forM tell) h := by
  induction notices generalizing h with
  | nil => exact .pure hi ()
  | cons notice rest ih =>
    have hfirst : Stays J F (tell notice) h := by
      cases notice <;> exact Stays.report hJ hi _
    exact hfirst.bind fun _ h hi => ih hi

/-- The arguments that compile the sources are all texts. -/
theorem joinArguments_texts (index : Nat) (texts : List String) (f : Failure) :
    Supervisor.joinArguments index (texts.map .text) ≠ .error f := by
  induction texts generalizing index f with
  | nil => exact fun h => nomatch h
  | cons text texts ih =>
    rw [List.map_cons, Supervisor.joinArguments]
    cases hrest : Supervisor.joinArguments (index + 1) (texts.map .text) with
    | error f' => exact absurd hrest (ih (index + 1) f')
    | ok found => exact fun h => nomatch h

theorem buildStep (hI : p.Builds I J F entry) {arguments : List Argument}
    (harguments : ∀ f, Supervisor.joinArguments 0 arguments = .error f → F f) (hi : J h) (deadline : Float) :
    Stays J F (p.buildStep deadline arguments) h := by
  have hkeeps := hI.supervised arguments harguments
  rw [Package.buildStep]
  refine (Stays.readClock hkeeps.quiet hi).bind fun now h hi => ?_
  refine ((hkeeps.run rfl hi _).bind fun supervised h hi hsupervised => ?_ :
    Yields J F (fun _ => True) _ h).stays
  refine (stays_tell hkeeps.quiet hi _).yields.bind fun _ h hi _ => ?_
  split
  · rename_i f hf
    refine .fail hi ?_
    rcases hsupervised f hf with hsystem | ⟨seconds, rfl⟩
    · obtain ⟨e, rfl⟩ := hsystem.exists_eq
      exact hkeeps.system e
    · exact hI.problem _ rfl
  · split
    · exact .pure hi trivial
    · refine (Stays.report hkeeps.quiet hi _).yields.bind fun _ h hi _ => ?_
      exact .fail hi (hI.problem _ rfl)

/-- The archive is named after the project. -/
theorem archive (hI : p.Builds I J F entry) (hi : I h) : Stays I F p.archive h := by
  rw [Package.archive, Stays, ends_bind, projectName, ends_bind, ends_project]
  cases hproject : p.projectAt h.files with
  | error f => exact ⟨hi, hI.project h f hi hproject⟩
  | ok project => exact ⟨hi, trivial⟩

/-- The package is built in two steps; the manifest is not looked at any more once the first
child has been started. -/
theorem build (hI : p.Builds I J F entry) (hi : I h) : Stays J F (p.build entry) h := by
  have hkeeps := hI.supervised [] fun f hf => nomatch hf
  have hmake (q : Path) {h : Host} (hi : I h) : Stays I F (makeDirectories q true) h :=
    Stays.makeDirectories hkeeps.system hI.grows hi q true
  rw [Package.build]
  refine (hmake _ hi).bind_weaken hI.weaken fun _ h hi => ?_
  have hlog : Stays I F (writeText p.config.buildLog "") h :=
    stays_writeText hkeeps.system hi fun files hwrite => hI.log h files hi hwrite
  refine hlog.bind_weaken hI.weaken fun _ h hi => ?_
  refine (Stays.report hI.quiet hi _).bind_weaken hI.weaken fun _ h hi => ?_
  refine (hmake _ hi).bind_weaken hI.weaken fun _ h hi => ?_
  refine (hI.archive hi).bind_weaken hI.weaken fun target h hi => ?_
  refine (Stays.readClock hkeeps.quiet (hI.weaken h hi)).bind fun now h hi => ?_
  have hcompile : ∀ f, Supervisor.joinArguments 0 p.compileArguments = .error f → F f :=
    fun f hf => absurd hf (joinArguments_texts 0 _ f)
  refine (hI.buildStep hcompile hi _).bind fun compiled h hi => ?_
  refine (hI.buildStep (hI.arguments target) hi _).bind fun packed h hi => ?_
  exact (Stays.report hkeeps.quiet hi _).bind fun _ h hi => .pure hi _

end Builds

/-! ## All stages after the copy -/

theorem stays_findExecutable (hproblem : ∀ q : Problem, q.kind.isA .package = true → F (.problem q))
    (hi : J h) : Stays J F p.findExecutable h := by
  rw [findExecutable]
  refine .get_bind ?_
  split
  · exact .fail hi (hproblem _ rfl)
  · exact .pure hi _
  · exact .fail hi (hproblem _ rfl)

/-- A working copy is instrumented and built.  What is kept may get weaker from stage to stage. -/
theorem stays_assemble {I₀ : Host → Prop} {W : Path → Prop}
    (hinstrument : p.Instruments I₀ F W (p.sources h.files)) (hI₀ : ∀ h, I₀ h → I h) (hI : Quiet I)
    (hresolve : p.Resolves I F R) (hI' : ∀ h, I h → I' h)
    (hbuild : ∀ entry, R entry → p.Builds I' J F entry) (hi : I₀ h) : Stays J F p.assemble h := by
  have hquiet := hinstrument.quiet
  have hweaken (h : Host) (hi : I h) : J h := (hbuild none hresolve.none).weaken h (hI' h hi)
  have hJ : Quiet J := ((hbuild none hresolve.none).supervised [] fun f hf => nomatch hf).quiet
  rw [assemble]
  have hfirst : Stays I₀ F (stage "instrument" do
      notify "Instrumenting Python files..."
      let results ← p.instrumentSources
      notify ("Instrumented " ++ toString results.length ++ " file(s)")
      return results) h := by
    refine ends_stage (fun r h h' hview hr => ⟨hquiet h h' hview hr.1, hr.2⟩) fun h₁ hview₁ =>
      ends_report_bind fun h₂ hview₂ => ?_
    have hview := hview₂.trans hview₁
    have hfiles : h₂.files = h.files := congrArg Prod.fst hview
    have hsources := hinstrument
    rw [← hfiles] at hsources
    refine (hsources.instrumentSources hresolve.problem (hquiet h h₂ hview hi)).bind fun results h hi => ?_
    exact (Stays.report hquiet hi _).bind fun _ h hi => .pure hi results
  refine hfirst.bind_weaken (fun h hi => hweaken h (hI₀ h hi)) fun results h hi => ?_
  have hentry : Yields I F R (stage "entry" (p.resolveEntry results)) h :=
    Yields.stage hI (hI₀ h hi) fun h hi => hresolve.resolveEntry hi results
  refine Stays.bind_of_ends hentry (fun entry h hr => ?_) fun f h hr => ⟨hweaken h hr.1, hr.2⟩
  have hwork : Stays J F (stage "build" do
      notify "Building instrumented package..."
      p.build entry) h := by
    refine ends_stage (fun r h h' hview hr => ⟨hJ h h' hview hr.1, hr.2⟩) fun h₁ hview₁ =>
      ends_report_bind fun h₂ hview₂ => ?_
    exact (hbuild entry hr.2).build (hI' _ (hI h h₂ (hview₂.trans hview₁) hr.1))
  refine hwork.bind fun output h hi => ?_
  refine (Stays.stage hJ hi fun h hi => stays_findExecutable hresolve.problem hi).bind fun path h hi => ?_
  exact .pure hi _

end Package

end Stopwatch

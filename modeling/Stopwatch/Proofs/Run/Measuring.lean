/-
  Running instrumented copies.

  A copy is compiled and run by children, its binary is removed, what its output announces is
  taken, and an event is logged.  What is kept through all that is a matter of two invariants:
  one for the moments when a child may be started, and a weaker one for what follows until the
  event has been logged.
-/
import Stopwatch.Proofs.Process.FileRun
import Stopwatch.Proofs.Run.Package

namespace Stopwatch

open Action Files

variable {K : Files → Files → Prop} {I J : Host → Prop} {P : String → Host → Prop} {F : Failure → Prop}
  {config : Config} {h : Host}

/-! ## Running one file -/

namespace FileRun

/-- What is asked of the invariants while a file is run: `I` holds when a child is started and `J`
when the binary has been removed; `P` holds of a path once it has been announced, and `F` of the
failures to read what a child prints. -/
structure Keeps (config : Config) (K : Files → Files → Prop) (I J : Host → Prop) (P : String → Host → Prop)
    (F : Failure → Prop) : Prop where
  quiet : Quiet I
  quiet_last : Quiet J
  quiet_path : ∀ path, Quiet (P path)
  weaken : ∀ h, I h → J h
  lasting : ∀ fs, Lasting (K fs)
  begins : ∀ h, I h → K h.files h.files
  start : ∀ h d h', I h → Adds (K h.files) h d h' → I h'
  unread : ∀ h d h' f, I h → Adds (K h.files) h d h' → d.child.printed = .error f → IsSystem f ∨ F f
  announced : ∀ h d h' output path, I h → Adds (K h.files) h d h' → d.output = .ok output →
    announcedPath? output = some path → P path h'
  remove : ∀ h n files, I h → h.files.remove (config.workRoot.child (binaryName n)) = .ok files →
    J { h with files } ∧ ∀ path, P path h → P path { h with files }

/-- Something holds, and what an output announces is known. -/
def Heard (I : Host → Prop) (P : String → Host → Prop) (output : String) (h : Host) : Prop :=
  I h ∧ ∀ path, announcedPath? output = some path → P path h

/-- Something holds, and what the program has announced is known. -/
def Found (I : Host → Prop) (P : String → Host → Prop) (outcome : FileRun) (h : Host) : Prop :=
  I h ∧ ∀ path output, outcome = .announced path output → P path h

theorem Heard.found {output : String} (hr : Heard I P output h) : Found I P (ofOutput output) h := by
  refine ⟨hr.1, fun path output' heq => ?_⟩
  rw [ofOutput] at heq
  split at heq
  · rename_i path' hpath'
    cases heq
    exact hr.2 path hpath'
  · cases heq

/-- Where nothing has been announced, nothing need be known. -/
theorem found_failed (hi : I h) (message : String) : Found I P (.failed message) h :=
  ⟨hi, nofun⟩

section Run

variable (hk : Keeps config K I J P F)

include hk

theorem Keeps.quiet_heard (output : String) : Quiet (Heard I P output) := fun h h' hview hr =>
  ⟨hk.quiet h h' hview hr.1, fun path hpath => hk.quiet_path path h h' hview (hr.2 path hpath)⟩

theorem Keeps.quiet_found (outcome : FileRun) : Quiet (Found I P outcome) := fun h h' hview hr =>
  ⟨hk.quiet h h' hview hr.1, fun path output heq => hk.quiet_path path h h' hview (hr.2 path output heq)⟩

/-- A child that is waited for; what it announces is known afterwards. -/
theorem Keeps.communicate (hi : I h) (command : Command) :
    Leaves (fun found => Heard I P (withStatus found.1 found.2)) (fun f h => I h ∧ (IsSystem f ∨ F f))
      (Action.communicate command) h := by
  refine Ends.mono (ends_communicate (hk.lasting h.files) command (hk.begins h hi)) ?_
  rintro result h' ⟨s, hs, hresult⟩
  have hi' := hk.start h _ h' hi hs.adds
  cases result with
  | ok found =>
    obtain ⟨status, text⟩ := found
    obtain ⟨rfl, hprinted⟩ := hresult
    refine .ok ⟨hi', fun path hpath => ?_⟩
    refine hk.announced h _ h' _ path hi hs.adds ?_ hpath
    rw [Deed.output, hprinted]
    rfl
  | error f =>
    refine .error ⟨hi', ?_⟩
    rcases hresult with hsystem | hprinted
    · exact Or.inl hsystem
    · exact hk.unread h _ h' f hi hs.adds hprinted

/-- Compiling and running fail because of the system, because of the program, or because nothing
can be read. -/
theorem Keeps.attemptRun (hi : I h) (source binary : Path) :
    Leaves (Found I P) (fun f h => I h ∧ (IsSystem f ∨ f.isProblem .compilation = true ∨ F f))
      (FileRun.attemptRun config source binary) h := by
  have hquiet (f : Failure) : Quiet fun h => I h ∧ (IsSystem f ∨ f.isProblem .compilation = true ∨ F f) :=
    fun h h' hview hf => ⟨hk.quiet h h' hview hf.1, hf.2⟩
  have hcommunicate {h : Host} (hi : I h) (command : Command) :
      Leaves (fun found => Heard I P (withStatus found.1 found.2))
        (fun f h => I h ∧ (IsSystem f ∨ f.isProblem .compilation = true ∨ F f)) (Action.communicate command) h :=
    (hk.communicate hi command).mono (fun _ _ => id) fun f h hf => ⟨hf.1, hf.2.imp_right Or.inr⟩
  have hcompile (h' : Host) (hview : view h' = view h) :
      Leaves (fun _ => I) (fun f h => I h ∧ (IsSystem f ∨ f.isProblem .compilation = true ∨ F f))
        (FileRun.compile config source binary) h' := by
    refine Leaves.bind (hcommunicate (hk.quiet h h' hview hi) _) ?_
    rintro found h ⟨hi, -⟩
    dsimp only
    split
    · exact Leaves.fail ⟨hi, Or.inr (Or.inl rfl)⟩
    · exact Leaves.pure hi
  have hexecute {h : Host} (hi : I h) (h' : Host) (hview : view h' = view h) :
      Leaves (Heard I P) (fun f h => I h ∧ (IsSystem f ∨ f.isProblem .compilation = true ∨ F f))
        (FileRun.execute config binary source.parent) h' := by
    refine Leaves.observe_bind (Leaves.bind (hcommunicate (hk.quiet h h' hview hi) _) ?_)
    rintro ⟨status, text⟩ h hr
    exact Leaves.pure hr
  have hextract {output : String} {h : Host} (hr : Heard I P output h) (h' : Host) (hview : view h' = view h) :
      Leaves (Found I P) (fun f h => I h ∧ (IsSystem f ∨ f.isProblem .compilation = true ∨ F f))
        (pure (ofOutput output)) h' :=
    Leaves.pure (hk.quiet_heard output h h' hview hr).found
  rw [FileRun.attemptRun]
  refine Leaves.bind (Leaves.stage (fun _ => hk.quiet) hquiet hcompile) fun _ h hi => ?_
  refine Leaves.bind (Leaves.stage hk.quiet_heard hquiet (hexecute hi)) fun output h hr => ?_
  exact Leaves.stage hk.quiet_found hquiet (hextract hr)

omit hk in
/-- The binary is removed if it can be. -/
theorem stays_cleanUp {I' J' : Host → Prop} (hquiet : Quiet I') (hquiet' : Quiet J')
    (hweaken : ∀ h, I' h → J' h) (hi : I' h) (binary : Path)
    (hremove : ∀ h files, I' h → h.files.remove binary = .ok files → J' { h with files }) :
    Stays J' (fun _ => False) (cleanUp binary) h := by
  refine ends_stage (fun result h h' hview hr => ⟨hquiet' h h' hview hr.1, hr.2⟩) fun h' hview => ?_
  have hi' := hquiet h h' hview hi
  refine (Stays.removeFile isSystem_system (hweaken h' hi') fun files => hremove h' files hi').handling ?_ ?_
  · exact fun _ h hi _ _ => .pure hi ()
  · intro f hf htest
    rw [IsSystem, htest] at hf
    cases hf

/-- Afterwards the weaker invariant holds, and what has been announced stays known. -/
theorem Keeps.cleanUp {outcome : FileRun} (hr : Found I P outcome h) (n : Nat) :
    Stays (Found J P outcome) (fun _ => False) (FileRun.cleanUp (config.workRoot.child (binaryName n))) h := by
  refine stays_cleanUp (hk.quiet_found outcome) ?_ (fun h hr => ⟨hk.weaken h hr.1, hr.2⟩) hr _ ?_
  · intro h h' hview hr
    exact ⟨hk.quiet_last h h' hview hr.1, fun path output heq => hk.quiet_path path h h' hview (hr.2 path output heq)⟩
  · rintro h files ⟨hi, hfound⟩ hremove
    obtain ⟨hlast, hpath⟩ := hk.remove h n files hi hremove
    exact ⟨hlast, fun path output heq => hpath path (hfound path output heq)⟩

/-- A failure is handled, unless it says that nothing can be read. -/
theorem Keeps.attempt (hi : I h) (source binary : Path) :
    Leaves (Found I P) (fun f h => I h ∧ F f)
      (Action.handling (FileRun.attemptRun config source binary) (fun _ => true) ofFailure) h := by
  refine (hk.attemptRun hi source binary).handling fun f h hf => ?_
  obtain ⟨hi, hf⟩ := hf
  rw [ofFailure]
  split
  · exact Leaves.pure (found_failed hi _)
  · rename_i hother
    split
    · exact Leaves.pure (found_failed hi _)
    · rename_i hsystem
      exact Leaves.fail ⟨hi, (hf.resolve_left hsystem).resolve_left hother⟩

/-- A file that cannot be compiled or run is a result. -/
theorem Keeps.run (hi : I h) (source : Path) :
    Leaves (Found J P) (fun f h => J h ∧ F f) (FileRun.run config source) h := by
  have hname (h : Host) (hi : I h) : Leaves (fun name h => I h ∧ ∃ n, name = nameOf n) (fun f h => J h ∧ F f) freshName h :=
    .ok ⟨hk.quiet h _ rfl hi, h.named + 1, rfl⟩
  have hplan : Leaves (fun _ => I) (fun f h => J h ∧ F f) (plan stageNames) h :=
    .ok (hk.quiet h _ rfl hi)
  rw [FileRun.run]
  refine hplan.bind fun _ h hi => (hname h hi).bind ?_
  rintro name h ⟨hi, n, rfl⟩
  refine (hk.attempt hi _ _).ensuring (fun outcome h hr => ?_) fun f h hf => ?_
  · exact (hk.cleanUp hr n).leaves.mono (fun _ _ => id) fun _ _ hfalse => hfalse.2.elim
  · have hlast : Stays J (fun _ => False) (FileRun.cleanUp (config.workRoot.child (binaryName n))) h :=
      stays_cleanUp hk.quiet hk.quiet_last hk.weaken hf.1 _ fun h files hi hremove => (hk.remove h n files hi hremove).1
    exact hlast.leaves.mono (fun _ h hj => ⟨hj, hf.2⟩) fun _ _ hfalse => hfalse.2.elim

end Run

/-- Recovering metrics takes away at most the entry of the path that has been announced. -/
theorem recover_files (outcome : FileRun) (fs : Files) :
    (outcome.recover fs).files = fs ∨ ∃ path output metrics,
      outcome = .announced path output ∧ fs.takeMetrics? path = some (metrics, (outcome.recover fs).files) := by
  cases outcome with
  | announced path output =>
    rw [recover, recoverFrom, Option.bind_some]
    rcases htaken : fs.takeMetrics? path with _ | ⟨metrics, files⟩
    · exact Or.inl rfl
    · exact Or.inr ⟨path, output, metrics, rfl, htaken⟩
  | printed output => exact Or.inl rfl
  | failed message => exact Or.inl rfl

end FileRun

namespace Run

variable {r : Run}

/-! ## Running all copies -/

/-- Recovering metrics changes the files only. -/
theorem ends_recover {from_ : Files → Recovered} {Q : Except Failure Recovered → Host → Prop} :
    Ends (recover from_) h Q ↔ Q (.ok (from_ h.files)) { h with files := (from_ h.files).files } := Iff.rfl

/-- What is asked of the invariants while copies are run. -/
structure Measures (r : Run) (K : Files → Files → Prop) (I J : Host → Prop) (P : String → Host → Prop)
    (F : Failure → Prop) : Prop extends FileRun.Keeps r.config K I J P F where
  take : ∀ h path metrics files, J h → P path h → h.files.takeMetrics? path = some (metrics, files) →
    J { h with files }
  append : ∀ h text, J h →
    Leaves (fun _ => I) (fun f h => J h ∧ F f) (appendText (r.log.file h.now.dayText) text) h

variable (hm : r.Measures K I J P F)

include hm

/-- A copy is run, and what it announces is taken. -/
theorem Measures.runAndRecover (hi : I h) (path : Path) :
    Leaves (fun _ => J) (fun f h => J h ∧ F f)
      (do
        let outcome ← FileRun.run r.config path
        return (outcome, ← recover outcome.recover)) h := by
  have hrun := hm.toKeeps.run hi path
  refine hrun.bind fun outcome h hr => ?_
  refine Leaves.bind (S := fun _ => J) ?_ fun _ h hj => Leaves.pure hj
  rw [Leaves, ends_recover]
  apply OneOf.ok
  rcases outcome.recover_files h.files with hsame | ⟨path, output, metrics, heq, htaken⟩
  · rw [hsame]
    exact hr.1
  · exact hm.take h path metrics _ hr.1 (hr.2 path output heq) htaken

/-- Once a copy has been run and that has been logged, the next one can be run. -/
theorem Measures.runLogged (hi : I h) (path : Path) :
    Leaves (fun _ => I) (fun f h => J h ∧ F f) (r.runLogged path) h := by
  refine RunLog.ends_timed (Q := OneOf (fun _ => J) (fun f h => J h ∧ F f)) ?_ ?_ ?_ ?_
  · intro result h h' hview hq
    cases hq with
    | ok hj => exact .ok (hm.quiet_last h h' hview hj)
    | error hf => exact .error ⟨hm.quiet_last h h' hview hf.1, hf.2⟩
  · intro result h logged hq
    cases hq with
    | ok hi => exact .ok (hm.quiet h _ rfl hi)
    | error hf => exact .error ⟨hm.quiet_last h _ rfl hf.1, hf.2⟩
  · intro result h text hq
    cases hq with
    | ok hj =>
      refine Ends.mono (hm.append h text hj) fun result' h' hresult' => ?_
      cases hresult' with
      | ok hi => exact .ok hi
      | error hf => exact .error hf
    | error hf =>
      refine Ends.mono (hm.append h text hf.1) fun result' h' hresult' => ?_
      cases hresult' with
      | ok hi => exact .error ⟨hm.weaken h' hi, hf.2⟩
      | error hf' => exact .error hf'
  · intro h' hview
    exact hm.runAndRecover (hm.quiet h h' hview hi) path

/-- A report makes no difference. -/
theorem Measures.report (hi : I h) (report : Report) :
    Leaves (fun _ => I) (fun f h => J h ∧ F f) (Action.report report) h :=
  .ok (hm.quiet h _ (view_report report) hi)

theorem Measures.accept (hi : I h) (recovered : Recovered) :
    Leaves (fun _ => I) (fun f h => J h ∧ F f) (accept recovered) h :=
  Leaves.bind (S := fun _ => I) (.ok (hm.quiet h _ rfl hi)) fun _ _ hi => hm.report hi _

theorem Measures.measure (hi : I h) (result : Instrumented) :
    Leaves (fun _ => I) (fun f h => J h ∧ F f) (r.measure result) h := by
  rw [Run.measure]
  refine (hm.report hi _).bind fun _ h hi => (hm.runLogged hi _).bind fun found h hi => ?_
  obtain ⟨outcome, recovered⟩ := found
  dsimp only
  split
  · exact hm.report hi _
  · split
    · exact (hm.report hi _).bind fun _ h hi => hm.accept hi recovered
    · exact hm.accept hi recovered

theorem Measures.measureAll (hi : I h) (results : List Instrumented) :
    Leaves (fun _ => I) (fun f h => J h ∧ F f) (r.measureAll results) h := by
  induction results generalizing h with
  | nil => exact Leaves.pure hi
  | cons result rest ih =>
    rw [Run.measureAll]
    exact (hm.measure hi result).bind fun _ h hi => ih hi

end Run

end Stopwatch

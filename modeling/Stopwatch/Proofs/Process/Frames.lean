/-
  The work of child processes.

  A child that is supervised, or that is waited for, keeps to every frame to which it may be
  started, and what goes wrong with it does not refuse the input of a run.
-/
import Stopwatch.Proofs.Host.Aside
import Stopwatch.Proofs.Host.Logged

namespace Stopwatch

open Action

variable {K : Host → Host → Prop}

/-! ## Supervised children -/

namespace Supervisor

variable [IsChildFrame K] (s : Supervisor)

theorem acceptsInput_of_joinArguments {index : Nat} {arguments : List Argument} {f : Failure}
    (h : joinArguments index arguments = .error f) : f.AcceptsInput := by
  induction arguments generalizing index with
  | nil => cases h
  | cons argument arguments ih =>
    cases argument with
    | text value =>
      rw [joinArguments] at h
      cases hrest : joinArguments (index + 1) arguments with
      | ok rest =>
        rw [hrest] at h
        cases h
      | error e =>
        rw [hrest] at h
        cases h
        exact ih hrest
    | other value =>
      cases h
      rfl

theorem works_logCommand (command : Command) : Works K (s.logCommand command) := by
  refine (works_appendText _ _).bind fun _ => ?_
  split
  · exact works_appendText _ _
  · rename_i f hf
    exact .fail (acceptsInput_of_joinArguments hf)

theorem works_beat (start : Float) (n : Nat) : Works K (s.beat start n) := by
  induction n with
  | zero => exact .pure []
  | succ n ih => exact works_readClock.bind fun _ => ih.bind fun _ => .pure _

theorem returns_expire (bound : Float) : Returns K (Allows Failure.AcceptsInput) (s.expire bound) :=
  (works_settle _).returns.bind fun _ _ => (works_appendText _ _).returns.bind fun _ _ => .pure rfl

/-- Watching a child; a patient supervisor is stopped only by a stream that cannot be read. -/
theorem returns_watch (hpatient : s.listener = .patient) (events : List StreamEvent) :
    Returns K (fun watch => ∀ f, watch.failure = some f → f.AcceptsInput) (s.watch events) := by
  refine (works_observe _).returns.bind fun clock _ => ?_
  have hclock : Works K (modify fun host =>
      { host with clock := ((Watch.start clock).run ⟨s.listener, s.progressInterval⟩ events).clock }) :=
    works_modify fun _ => IsFrame.aside ⟨_, _, _, _, _, rfl, .refl, rfl⟩
  refine hclock.returns.bind fun _ _ => (works_appendText _ _).returns.bind fun _ _ => .pure fun f hf => ?_
  obtain ⟨e, rfl⟩ := (Watch.isSystem_failure_run hpatient (fun f hf => by cases hf) events f hf).exists_eq
  rfl

theorem returns_attend (hpatient : s.listener = .patient) (events : List StreamEvent) (command : Command)
    (bound start : Float) (child : Child) :
    Returns K (fun supervised => Allows Failure.AcceptsInput supervised.result)
      (s.attend events command bound start child) := by
  refine (s.works_logCommand command).returns.bind fun _ _ => ?_
  split
  · exact (s.returns_expire bound).bind fun result hresult => .pure hresult
  · refine (s.returns_watch hpatient events).bind fun watch hwatch => ?_
    split
    · rename_i f hf
      exact Returns.bind ((works_settle _).returns.bind fun _ _ => .pure (hwatch f hf)) fun result hresult => .pure hresult
    · split
      · exact (s.works_beat _ _).returns.bind fun _ _ => (s.returns_expire bound).bind fun result hresult => .pure hresult
      · exact (works_settle _).returns.bind fun _ _ => works_readClock.returns.bind fun _ _ => .pure trivial

theorem returns_run (hpatient : s.listener = .patient) {command : Command} (hcommand : Admits K command)
    (bound : Option Float) :
    Returns K (fun supervised => Allows Failure.AcceptsInput supervised.result) (s.run command bound) := by
  have hlaunch : Works K (s.launch command) :=
    works_readClock.bind fun _ => (works_makeDirectories _ _).bind fun _ => (works_start hcommand).bind fun _ => .pure _
  exact hlaunch.returns.bind fun started _ => s.returns_attend hpatient _ _ _ _ _

end Supervisor

/-! ## Runs of files -/

namespace FileRun

variable (config : Config) (source binary directory : Path)

section Children

variable [IsChildFrame K] (hK : ∀ command, Admits K command)

include hK

theorem works_compile : Works K (compile config source binary) := by
  refine (works_communicate (hK _)).bind fun (status, output) => ?_
  dsimp only
  split
  · exact .fail rfl
  · exact .pure ()

theorem works_execute : Works K (execute config binary directory) :=
  (works_observe _).bind fun _ => (works_communicate (hK _)).bind fun _ => .pure _

end Children

theorem works_removeBinary [IsFrame K] :
    Works K (Action.handling (Action.removeFile binary) Failure.isSystem fun _ => pure ()) :=
  (works_removeFile binary).handling fun _ _ => .pure ()

theorem works_run [IsRunFrame K] (hK : ∀ command, Admits K command) : Works K (run config source) := by
  have hattempt (binary : Path) : Works K (attemptRun config source binary) :=
    ((works_compile config _ _ hK).stage _).bind fun _ => ((works_execute config _ _ hK).stage _).bind fun _ =>
      (Works.pure _).stage _
  refine (works_plan _).bind fun _ => works_freshName.bind fun name => ?_
  refine .ensuring (.handling (hattempt _) fun f hf => ?_) ((works_removeBinary _).stage _)
  unfold ofFailure
  split
  · exact .pure _
  · split
    · exact .pure _
    · exact .fail hf

end FileRun

end Stopwatch

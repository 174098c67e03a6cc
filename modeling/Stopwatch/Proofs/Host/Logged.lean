/-
  Logged work.

  Events of a run and lines of supervised children are added at the end of a file.  Work
  that is logged keeps an invariant if the work does and adding text does; nothing else
  about the log matters.
-/
import Stopwatch.Proofs.Host.Children
import Stopwatch.Proofs.Process.Watch
import Stopwatch.RunLog

namespace Stopwatch

open Action

variable {α : Type} {host : Host} {I : Host → Prop} {F : Failure → Prop}

/-! ## Events -/

/-- Work that is logged: the clock is read, and one event is added, however the work ends. -/
theorem RunLog.stays_timed {log : RunLog} {type : String} {data : EventFields} {work : Action α}
    {note : α → EventFields} (hI : Quiet I) (h : I host)
    (happend : ∀ h text, I h → Stays I F (appendText (log.file h.now.dayText) text) h)
    (hwork : ∀ h, I h → Stays I F work h) : Stays I F (log.timed type data work note) host := by
  have hwrite (data : EventFields) (duration : Option Int) {h : Host} (hi : I h) :
      Stays I F (log.write type data duration) h :=
    Stays.observe_bind (Stays.observe_bind ((happend h _ hi).bind fun _ h hi => .modify (hI h _ rfl hi)))
  refine (Stays.readClock hI h).bind fun _ h hi => ?_
  refine Stays.attempt_bind (hwork h hi) (fun x h hi => ?_) fun e h hi he => ?_
  · refine (Stays.readClock hI hi).bind fun _ h hi => ?_
    exact (hwrite _ _ hi).bind fun _ h hi => .pure hi x
  · refine (Stays.readClock hI hi).bind fun _ h hi => ?_
    exact (hwrite _ _ hi).bind fun _ h hi => .fail hi he

/-- Work that is logged, however it ends: the clock is read, and one event is added.  What holds then
must not depend on the events that have been added. -/
theorem RunLog.ends_timed_work {log : RunLog} {type : String} {data : EventFields} {work : Action α}
    {note : α → EventFields} {Q Q' : Except Failure α → Host → Prop}
    (hlogged : ∀ r h logged, Q' r h → Q' r { h with logged })
    (happend : ∀ r h clock text, Q r h → Ends (appendText (log.file h.now.dayText) text) { h with clock }
      fun r' h' => match r' with
        | .ok _ => Q' r h'
        | .error e => Q' (.error e) h')
    (hwork : Ends work { host with clock := host.clock.read.2 } Q) : Ends (log.timed type data work note) host Q' := by
  rw [RunLog.timed, ends_bind, ends_readClock]
  dsimp only
  rw [ends_bind, ends_attempt]
  refine Ends.mono hwork fun r h hr => ?_
  dsimp only
  rw [ends_bind, ends_readClock]
  dsimp only
  rw [ends_bind, RunLog.write, ends_bind, ends_observe]
  dsimp only
  rw [ends_bind, ends_observe]
  dsimp only
  rw [ends_bind]
  refine Ends.mono (happend r h _ _ hr) fun r' h' hr' => ?_
  cases r' with
  | error e => exact hr'
  | ok _ => cases r <;> exact hlogged _ _ _ hr'

/-- The same for work that comes to something whatever the clock shows. -/
theorem RunLog.ends_timed_aside {log : RunLog} {type : String} {data : EventFields} {work : Action α}
    {note : α → EventFields} {Q Q' : Except Failure α → Host → Prop}
    (hlogged : ∀ r h logged, Q' r h → Q' r { h with logged })
    (happend : ∀ r h clock text, Q r h → Ends (appendText (log.file h.now.dayText) text) { h with clock }
      fun r' h' => match r' with
        | .ok _ => Q' r h'
        | .error e => Q' (.error e) h')
    (hwork : ∀ clock, Ends work { host with clock } Q) : Ends (log.timed type data work note) host Q' :=
  ends_timed_work hlogged happend (hwork _)

/-- What holds of logged work: what holds of the work, changed by an event that is added.  It must
depend neither on the clock nor on anything else that is not looked at. -/
theorem RunLog.ends_timed {log : RunLog} {type : String} {data : EventFields} {work : Action α}
    {note : α → EventFields} {Q Q' : Except Failure α → Host → Prop}
    (hQ : ∀ r h h', view h' = view h → Q r h → Q r h') (hlogged : ∀ r h logged, Q' r h → Q' r { h with logged })
    (happend : ∀ r h text, Q r h → Ends (appendText (log.file h.now.dayText) text) h fun r' h' =>
      match r' with
      | .ok _ => Q' r h'
      | .error e => Q' (.error e) h')
    (hwork : ∀ h, view h = view host → Ends work h Q) : Ends (log.timed type data work note) host Q' :=
  ends_timed_aside hlogged (fun r h clock text hr => happend r { h with clock } text (hQ r h _ rfl hr))
    fun _ => hwork _ rfl

/-! ## Watched streams -/

namespace Watch

variable {rules : WatchRules}

/-- A patient watch is stopped only by a stream that cannot be read. -/
theorem isSystem_failure_see (hpatient : rules.listener = .patient) {w : Watch}
    (hw : ∀ f, w.failure = some f → IsSystem f) (event : StreamEvent) :
    ∀ f, (w.see rules event).failure = some f → IsSystem f := by
  have haccepts : ∀ line, rules.listener.objection line = none := fun _ => by rw [hpatient]; rfl
  intro f hf
  cases event with
  | broke channel text =>
    rw [see] at hf
    split at hf
    · exact hw f hf
    · cases hf
      rfl
  | opened _ | arrived _ _ | ended _ =>
    rw [failure_see haccepts fun _ _ => StreamEvent.noConfusion] at hf
    exact hw f hf

theorem isSystem_failure_run (hpatient : rules.listener = .patient) {w : Watch}
    (hw : ∀ f, w.failure = some f → IsSystem f) (events : List StreamEvent) :
    ∀ f, (w.run rules events).failure = some f → IsSystem f := by
  induction events generalizing w with
  | nil => exact hw
  | cons event events ih => exact ih (isSystem_failure_see hpatient hw event)

end Watch

/-! ## Supervised children -/

namespace Supervisor

/-- The failures that a patient supervisor returns: those of the system, and an exceeded
bound. -/
def IsEnd (f : Failure) : Prop :=
  IsSystem f ∨ ∃ seconds, f = .problem (.buildTimeout seconds)

/-- What is asked of an invariant of a supervised run. -/
structure Keeps (s : Supervisor) (I : Host → Prop) (F : Failure → Prop) (command : Command) : Prop where
  quiet : Quiet I
  system : ∀ e, F (.system e)
  grows : Grows I
  append : ∀ h text, I h → Stays I F (appendText s.log text) h
  start : ∀ h, I h → Stays I F (start command) h
  arguments : ∀ f, joinArguments 0 command.arguments = .error f → F f

variable {s : Supervisor} {command : Command}

theorem Keeps.logCommand (hs : s.Keeps I F command) {h : Host} (hi : I h) :
    Stays I F (s.logCommand command) h := by
  rw [Supervisor.logCommand]
  refine (hs.append h _ hi).bind fun _ h hi => ?_
  split
  · exact hs.append h _ hi
  · rename_i f hf
    exact .fail hi (hs.arguments f hf)

/-- A bound that is exceeded is a result, not a failure. -/
theorem Keeps.expire (hs : s.Keeps I F command) {h : Host} (hi : I h) (bound : Float) :
    Yields I F (fun result => ∀ f, result = .error f → IsEnd f) (s.expire bound) h := by
  refine (Stays.settle hs.quiet hi .killed).yields.bind fun _ h hi _ => ?_
  refine (hs.append h _ hi).yields.bind fun _ h hi _ => .pure hi fun f hf => ?_
  cases hf
  exact Or.inr ⟨bound, rfl⟩

/-- Watching a child; a patient supervisor is stopped only by a stream that cannot be read. -/
theorem Keeps.watch (hs : s.Keeps I F command) (hpatient : s.listener = .patient) {h : Host}
    (hi : I h) (events : List StreamEvent) :
    Yields I F (fun watch => ∀ f, watch.failure = some f → IsSystem f) (s.watch events) h := by
  have hclock (clock : Clock) : Stays I F (modify fun h => { h with clock }) h :=
    .modify (hs.quiet h _ rfl hi)
  rw [Supervisor.watch, Yields, ends_bind, ends_observe]
  refine (hclock _).yields.bind fun _ h hi _ => ?_
  refine (hs.append h _ hi).yields.bind fun _ h hi _ => .pure hi ?_
  refine Watch.isSystem_failure_run hpatient (fun f hf => ?_) events
  cases hf

theorem Keeps.beat (hs : s.Keeps I F command) {h : Host} (hi : I h) (start : Float) (n : Nat) :
    Stays I F (s.beat start n) h := by
  induction n generalizing h with
  | zero => exact .pure hi []
  | succ n ih =>
    refine (Stays.readClock hs.quiet hi).bind fun _ h hi => ?_
    exact (ih hi).bind fun _ h hi => .pure hi _

/-- A child that is attended to keeps the invariant; what is returned as a failure is that of the
system, or an exceeded bound. -/
theorem Keeps.attend (hs : s.Keeps I F command) (hpatient : s.listener = .patient) {h : Host}
    (hi : I h) (events : List StreamEvent) (bound start : Float) (child : Child) :
    Yields I F (fun supervised => ∀ f, supervised.result = .error f → IsEnd f)
      (s.attend events command bound start child) h := by
  rw [Supervisor.attend]
  refine (hs.logCommand hi).yields.bind fun _ h hi _ => ?_
  split
  · exact (hs.expire hi _).bind fun result h hi hresult => .pure hi hresult
  · refine (hs.watch hpatient hi events).bind fun watch h hi hwatch => ?_
    split
    · rename_i f hf
      refine (Stays.settle hs.quiet hi .killed).yields.bind fun _ h hi _ => .pure hi fun f' hf' => ?_
      cases hf'
      exact Or.inl (hwatch f hf)
    · split
      · refine (hs.beat hi start _).yields.bind fun beats h hi _ => ?_
        exact (hs.expire hi _).bind fun result h hi hresult => .pure hi hresult
      · refine (Stays.settle hs.quiet hi _).yields.bind fun _ h hi _ => ?_
        refine (Stays.readClock hs.quiet hi).yields.bind fun now h hi _ => .pure hi fun f hf => ?_
        cases hf

/-- A supervised run of a child keeps the invariant. -/
theorem Keeps.run (hs : s.Keeps I F command) (hpatient : s.listener = .patient) {h : Host}
    (hi : I h) (bound : Option Float) :
    Yields I F (fun supervised => ∀ f, supervised.result = .error f → IsEnd f)
      (s.run command bound) h := by
  have hlaunch : Stays I F (s.launch command) h := by
    refine (Stays.readClock hs.quiet hi).bind fun start h hi => ?_
    refine (Stays.makeDirectories hs.system hs.grows hi _ true).bind fun _ h hi => ?_
    exact (hs.start h hi).bind fun child h hi => .pure hi _
  exact hlaunch.yields.bind fun launched h hi _ => hs.attend hpatient hi _ _ _ _

end Supervisor

end Stopwatch

/-
  Actions that are no stage.

  Stages mark how far a pipeline has come, and names are made before the first of them.  The work of
  a stage does neither: it reads, writes, asks children and reports, and leaves both as they are.
-/
import Stopwatch.Proofs.Host.Aside

namespace Stopwatch.Action

variable {α : Type} {a : Action α}

/-- What is kept of a run beside its work: how many names have been made, and the stages. -/
def bookkeeping (h : Host) : Nat × Stages :=
  (h.named, h.pipeline.stages)

/-- An action that makes no name and marks no stage. -/
def Unstaged (a : Action α) : Prop :=
  ∀ host, Ends a host fun _ h => bookkeeping h = bookkeeping host

/-- The frame of actions that make no name and mark no stage. -/
def Bookkept (host h : Host) : Prop :=
  bookkeeping h = bookkeeping host

instance : IsChildFrame Bookkept where
  aside := by
    rintro host h ⟨_, _, _, _, _, rfl, -, hstages⟩
    exact congrArg (Prod.mk host.named) hstages
  trans := fun h h' => h'.trans h
  settled := fun _ _ => rfl

theorem admits_bookkept (command : Command) : Admits Bookkept command := by
  intro host h s hs
  rw [hs.host_eq]
  rfl

theorem Works.unstaged (ha : Works Bookkept a) : Unstaged a :=
  fun host => Ends.mono (ha host) fun _ _ hr => hr.1

end Stopwatch.Action

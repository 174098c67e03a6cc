/-
  Actions that make no names.

  A name is made for the working directory of a package, and one for each binary; nothing else that
  a run does makes any.  A run of a package therefore makes a single name.
-/
import Stopwatch.Proofs.Run.Frames

namespace Stopwatch

namespace Action

variable {α : Type} {a : Action α}

/-- An action that makes no name. -/
def Nameless (a : Action α) : Prop :=
  ∀ host, Ends a host fun _ h => h.named = host.named

/-- The frame of actions that make no name. -/
def Unnamed (host h : Host) : Prop :=
  h.named = host.named

instance : IsChildFrame Unnamed where
  aside := by
    rintro host h ⟨_, _, _, _, _, rfl, -, -⟩
    rfl
  trans := fun h h' => h'.trans h
  settled := fun _ _ => rfl

instance : IsStageFrame Unnamed where
  pipeline := fun _ _ => rfl

instance : IsLogFrame Unnamed where
  logged := fun _ _ => rfl

theorem admits_unnamed (command : Command) : Admits Unnamed command := by
  intro host h s hs
  rw [hs.host_eq]
  rfl

theorem Works.nameless (ha : Works Unnamed a) : Nameless a :=
  fun host => Ends.mono (ha host) fun _ _ hr => hr.1

end Action

open Action

namespace Run

/-- A run of a package makes no name but that of its working directory. -/
theorem named_run_package {r : Run} {host : Host} (hdirectory : host.files.isDirectory r.input = true)
    (hpackage : (Package.ofNumber r.input r.config (host.named + 1)).isPackage host.files = true) :
    (r.run host).2.named ≤ host.named + 1 := by
  suffices hrun : Ends r.run host fun _ h => h.named ≤ host.named + 1 from hrun
  cases hproblem : r.inputProblem? host.files with
  | some problem =>
    rw [Run.run, ends_bind, ends_validate, hproblem]
    exact Nat.le_succ _
  | none =>
    refine ends_run_package_of hdirectory hpackage hproblem ((r.works_package (admitsPackage admits_unnamed)).nameless _) (fun _ _ hnamed => hnamed.le)
      (fun _ hnamed => hnamed.le) fun results h hnamed => ?_
    have htold : Nameless (tellStatistics results) := (works_tellStatistics results).nameless
    refine Ends.mono (htold h) fun told h' hnamed' => ?_
    cases told <;> exact (hnamed'.trans hnamed).le

end Run

end Stopwatch

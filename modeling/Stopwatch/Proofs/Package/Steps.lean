/-
  Steps of the build.

  A step of the build starts at most one child, in the working directory.  It has a result just if that
  child has ended well before the time that is left of the whole build is over.
-/
import Stopwatch.Proofs.Package.Frames
import Stopwatch.Proofs.Process.Supervised

namespace Stopwatch

namespace Package

open Action

variable {p : Package} {host h : Host}

/-- One child has been started with some arguments in the working directory. -/
structure Takes (p : Package) (arguments : List Argument) (host : Host) (s : Spawned) (h : Host) : Prop where
  spawned : h.spawned = host.spawned ++ [s]
  command : s.command = ⟨arguments, some p.work.text, none⟩

/-- The child has ended well by itself, and there was time left until a deadline when its step began. -/
structure TakesInTime (p : Package) (deadline : Float) (arguments : List Argument) (host : Host) (s : Spawned)
    (h : Host) : Prop extends p.Takes arguments host s h where
  fate : s.fate = .exited 0
  ends : s.child.hangs = false
  bound : ¬Record.atLeastZero (deadline - host.clock.read.1) ≤ 0.0

theorem ends_notify (text : String) :
    Ends (notify text) host fun r h => r = .ok () ∧ h.spawned = host.spawned ∧ h.files = host.files := by
  rw [notify, report, ends_modify]
  split <;> exact ⟨rfl, rfl, rfl⟩

/-- What was noticed is told, and nothing else happens. -/
theorem ends_tell (notices : List Notice) :
    Ends (notices.forM tell) host fun r h => r = .ok () ∧ h.spawned = host.spawned ∧ h.files = host.files := by
  induction notices generalizing host with
  | nil => exact ⟨rfl, rfl, rfl⟩
  | cons notice rest ih =>
    have hfirst : Ends (tell notice) host fun r h =>
        r = .ok () ∧ h.spawned = host.spawned ∧ h.files = host.files := by
      cases notice <;> exact ends_notify _
    change Ends (tell notice >>= fun _ => rest.forM tell) host _
    rw [ends_bind]
    refine Ends.mono hfirst ?_
    rintro _ h ⟨rfl, hspawned, hfiles⟩
    refine Ends.mono ih ?_
    rintro r h' ⟨hr, hspawned', hfiles'⟩
    exact ⟨hr, hspawned'.trans hspawned, hfiles'.trans hfiles⟩

/-- A step of the build has a result just if its child has ended well; since the child has written its
files, only the log has grown. -/
theorem ends_buildStep_takes (deadline : Float) (arguments : List Argument) :
    Ends (p.buildStep deadline arguments) host fun r h =>
      match r with
      | .ok _ => ∃ s, p.TakesInTime deadline arguments host s h ∧ host.files.Edits s.left ∧
        ∃ text, p.supervisor.Logs text s.left h.files
      | .error _ => h.spawned = host.spawned ∨ ∃ s, p.Takes arguments host s h ∧ s.fate ≠ .exited 0 := by
  rw [buildStep, ends_bind, ends_readClock]
  dsimp only
  rw [ends_bind, Supervisor.run, Supervisor.supervise, ends_bind]
  refine Ends.mono (p.supervisor.ends_launch _ (Files.lasting_edits host.files) .refl) ?_
  rintro r h₁ hr
  cases r with
  | error f =>
    refine hr.imp_right ?_
    rintro ⟨last, hlast, hcommand, hlost | hlost⟩ <;> exact ⟨last, ⟨hlast, hcommand⟩, by simp [hlost]⟩
  | ok started =>
    obtain ⟨start, child⟩ := started
    obtain ⟨last, hlast, rfl, hcommand, hrunning, hfiles, hedits⟩ := hr
    dsimp only at hlast hedits ⊢
    refine Ends.mono (Supervisor.ends_attend hlast _ _ _ _ _ _) ?_
    rintro r h₂ hattended
    cases r with
    | error f => exact .inr ⟨last, ⟨hattended.2.trans hlast, hcommand⟩, by simp [hrunning]⟩
    | ok supervised =>
      obtain ⟨texts, text, fate, -, hending, hlogs, hspawned⟩ := hattended
      dsimp only
      rw [ends_bind]
      refine Ends.mono (ends_tell supervised.notices) ?_
      rintro _ h₃ ⟨rfl, hspawned₃, hfiles₃⟩
      dsimp only
      have htakes : p.Takes arguments host { last with fate } h₃ := ⟨hspawned₃.trans hspawned, hcommand⟩
      -- only a child that has ended by itself can have ended well
      cases hending with
      | late | stopped | expired => exact .inr ⟨_, htakes, by simp⟩
      | exited elapsed hbound _ hends =>
        dsimp only
        split
        · rename_i hstatus
          rw [hfiles, ← hfiles₃] at hlogs
          exact ⟨_, ⟨htakes, congrArg Fate.exited hstatus, hends, hbound⟩, hedits, _, hlogs⟩
        · rename_i hstatus
          rw [ends_bind]
          refine Ends.mono (ends_notify _) ?_
          rintro _ h₄ ⟨rfl, hspawned₄, -⟩
          exact .inr ⟨_, ⟨hspawned₄.trans htakes.spawned, hcommand⟩, by simpa using hstatus⟩

end Package

end Stopwatch

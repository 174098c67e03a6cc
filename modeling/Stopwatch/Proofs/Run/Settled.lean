/-
  The working directory of a package.

  However a run of a package ends, its working directory is removed.  From the build on it stands
  where it has been made, whatever children write; before that, nothing has its name, and all that may
  come to stand there is the log.
-/
import Stopwatch.Proofs.Files.Remains
import Stopwatch.Proofs.Process.FileRun
import Stopwatch.Proofs.Run.Raised

namespace Stopwatch

open Action Files

/-- What is known of the files only. -/
theorem Action.quiet_files (K : Files → Prop) : Quiet fun h => K h.files := by
  intro h h' hview hi
  have hfiles : h'.files = h.files := congrArg Prod.fst hview
  rw [hfiles]
  exact hi

namespace Package

variable {p : Package} {w : String} {fs fs' : Files}

/-- The name of a working directory is long. -/
theorem length_workName (n : Nat) : 47 ≤ (workName n).length := by
  have hfront : "async_profiler_".length = 15 := by decide
  have hdigits := length_nameOf n
  rw [workName, String.length_append, hfront]
  omega

theorem workName_ne_up (n : Nat) : workName n ≠ ".." := by
  intro heq
  have hlength := length_workName n
  rw [heq] at hlength
  exact absurd hlength (by decide)

/-- The working directory has been made, or no directory and no link has its name. -/
structure IsSettled (p : Package) (w : String) (fs : Files) : Prop where
  tree : fs.IsTree
  work : p.IsMade w fs ∨ ∀ l, w ∈ l → fs.way? l = none

theorem IsLeft.isSettled {fs₀ : Files} (h : p.IsLeft w fs₀ fs) : p.IsSettled w fs := by
  rcases h with hground | hprepared
  · refine ⟨hground.tree, Or.inr fun l hl => ?_⟩
    rw [way?, hground.lacks l hl]
    rfl
  · exact ⟨hprepared.tree, Or.inl hprepared.isMade⟩

/-- Events make no directory and no link. -/
theorem IsSettled.write (h : p.IsSettled w fs) {path : Path} {change : List UInt8 → List UInt8}
    (hwrite : fs.write path change = .ok fs') : p.IsSettled w fs' := by
  have hlasting := (Files.lasting_extends fs).write ⟨h.tree, rfl, Extends.refl _⟩ hwrite
  refine ⟨hlasting.1, h.work.imp (fun hmade => hmade.of_extends hlasting.2.1 hlasting.2.2) fun hnone l hl => ?_⟩
  rw [← (sameWays_of_write hwrite).1 l]
  exact hnone l hl

/-- A path to a name that no directory and no link has leads to no directory. -/
theorem not_isDirectory_work (hnone : ∀ l, w ∈ l → fs.way? l = none) (hwork : p.work = p.config.workRoot.child w)
    (hname : w ≠ "..") : fs.isDirectory p.work = false := by
  rw [Bool.eq_false_iff]
  intro h
  obtain ⟨l, hlocate, hfound⟩ := isDirectory_iff.mp h
  rw [hwork, locate_eq_ok_iff] at hlocate
  obtain ⟨links, mid, -, hlast⟩ := Leads.split (List.cons_ne_nil w []) hlocate
  have hway : fs.way? (mid ++ [w]) = none := hnone _ (by simp)
  cases hlast with
  | up => exact hname rfl
  | into _ _ _ h =>
    cases h
    rw [(way?_eq_some rfl).mpr hfound] at hway
    cases hway
  | kept _ _ _ hfollow => cases hfollow
  | through _ _ hlink =>
    rw [(way?_eq_some rfl).mpr hlink] at hway
    cases hway

/-- There is no working directory when it has been removed. -/
theorem ends_cleanUp_settled (hwork : p.work = p.config.workRoot.child w) (hname : w ≠ "..") {h : Host}
    (hi : p.IsSettled w h.files) : Ends p.cleanUp h fun _ h' => h'.files.isDirectory p.work = false := by
  refine ends_stage (fun _ => quiet_files fun fs => fs.isDirectory p.work = false) fun h' hview => ?_
  have hfiles : h'.files = h.files := congrArg Prod.fst hview
  rw [ends_bind, Action.exists?, ends_observe]
  dsimp only
  rw [← hfiles] at hi
  rcases hi.work with hmade | hnone
  · split
    · obtain ⟨root, hroot, hdirectory, hfound⟩ := hmade
      have hleads : Leads h'.files true maxLinks (h'.files.start p.work) p.work.names (root ++ [w]) := by
        rw [hwork]
        refine (locate_eq_ok_iff.mp hroot).concat hdirectory hname fun target hlink => ?_
        rw [hfound] at hlink
        cases hlink
      have hown : h'.files.locateLink p.work = .ok (root ++ [w]) := by
        rw [locateLink_eq_ok_iff, hwork]
        exact (locate_eq_ok_iff.mp hroot).concat_own hdirectory hname
      rw [Action.removeTree, ends_bind, ends_get]
      dsimp only
      rw [ends_bind, hown, ends_refusing]
      dsimp only
      rw [hfound]
      exact not_isDirectory_eraseTree (locate_eq_ok_iff.mpr hleads) (by simp)
    · rename_i hmissing
      rw [ends_pure, Bool.eq_false_iff]
      intro hthere
      obtain ⟨l, hlocate, hfound⟩ := isDirectory_iff.mp hthere
      rw [Files.exists?, status?, hlocate] at hmissing
      dsimp only at hmissing
      rw [hfound] at hmissing
      exact hmissing rfl
  · have hthere := not_isDirectory_work hnone hwork hname
    split
    · -- nothing with that name can be removed with all below it
      have hremove : Stays (fun h => h.files.isDirectory p.work = false) (fun _ => True) (Action.removeTree p.work) h' := by
        refine Stays.removeTree (fun _ => trivial) hthere fun l hlocate hfound => ?_
        have hway := hnone l (mem_of_locateLink_work hwork hname hlocate)
        rw [(way?_eq_some rfl).mpr hfound] at hway
        cases hway
      exact Ends.mono hremove fun _ _ hr => hr.1
    · exact hthere

end Package

namespace Run

variable {r : Run} {p : Package} {w : String} {host h : Host}

/-- Once the working directory has been made, it stays through the stages behind the copy. -/
theorem stays_assemble_isRunning (hi : IsRunning p w host h) :
    Stays (IsRunning p w host) (fun _ => True) p.assemble h := by
  refine Package.stays_assemble (W := fun _ => True) (R := fun _ => True)
    ⟨quiet_isRunning, fun _ => trivial, fun _ _ _ _ _ _ => trivial, fun _ _ _ _ _ _ _ _ => trivial,
      fun _ _ hi hwrite => hi.write hwrite, fun _ _ _ _ _ hi _ hwrite => hi.write hwrite⟩
    (fun _ hi => hi) quiet_isRunning
    ⟨fun _ => trivial, fun _ _ => trivial, fun _ _ _ _ => trivial, fun _ _ _ _ => trivial, trivial,
      fun _ _ _ hi hwrite => hi.write hwrite⟩
    (fun _ hi => hi) (fun entry _ => ?_) hi
  exact {
    quiet := quiet_isRunning
    grows := grows_isRunning
    log := fun _ _ hi hwrite => hi.write hwrite
    problem := fun _ _ => trivial
    project := fun _ _ _ _ => trivial
    weaken := fun _ hi => hi
    supervised := fun arguments _ =>
      { quiet := quiet_isRunning
        system := fun _ => trivial
        grows := grows_isRunning
        append := fun _ _ hi => Stays.changeFiles (fun _ => trivial) hi fun _ hwrite => hi.write hwrite
        start := fun _ hi => stays_start_isRunning (fun _ => trivial) hi _
        arguments := fun _ _ => trivial }
    arguments := fun _ _ _ => trivial }

section Package

variable (hfresh : (Package.ofNumber r.input r.config (host.named + 1)).IsFresh w host.files)
  (happart : r.config.IsApart)

include hfresh happart

/-- The build ends with a working directory, or with files that are settled. -/
theorem ends_instrumentAndBuild_settled (hi : During host (· = host.files) h) :
    Ends (Package.ofNumber r.input r.config (host.named + 1)).instrumentAndBuild h fun result h =>
      match result with
      | .ok _ => IsRunning (Package.ofNumber r.input r.config (host.named + 1)) w host h
      | .error _ => (Package.ofNumber r.input r.config (host.named + 1)).IsSettled w h.files ∧ True := by
  rw [Package.instrumentAndBuild]
  refine ends_report_bind fun h₁ hview => ?_
  rw [ends_bind]
  refine Ends.mono (Package.ends_prepare (F := fun _ => True) (fun _ => trivial) hfresh (fun _ _ => trivial) happart
    (quiet_during host _ h h₁ hview hi)) fun result h₂ hresult => ?_
  cases result with
  | error f => exact ⟨hresult.2.2.isSettled, trivial⟩
  | ok _ =>
    obtain ⟨hview, hprepared⟩ := hresult
    simp only [view, Prod.mk.injEq] at hview
    have hrunning : IsRunning (Package.ofNumber r.input r.config (host.named + 1)) w host h₂ :=
      ⟨hview.1, hview.2.1 ▸ List.suffix_rfl, hprepared.tree, hprepared.isMade⟩
    refine Ends.mono (stays_assemble_isRunning hrunning) fun result h hresult => ?_
    cases result with
    | error f => exact ⟨⟨hresult.1.tree, Or.inl hresult.1.made⟩, trivial⟩
    | ok built => exact hresult.1

omit hfresh happart in
/-- Running the executable leaves the working directory where it is. -/
theorem stays_execute_settled (hi : IsRunning p w host h) (path : Path) :
    Stays (fun h => p.IsSettled w h.files) (fun _ => True) (do
      let output ← p.execute path
      return (output, ← recover fun fs => fs.recover output)) h := by
  have hbegins : h.files.IsTree ∧ h.files.workingDirectory = h.files.workingDirectory ∧ h.files.Extends h.files :=
    ⟨hi.tree, rfl, Extends.refl _⟩
  rw [Stays, ends_bind]
  refine Ends.mono (Package.ends_execute (Files.lasting_extends h.files) _ path hbegins) ?_
  rintro result h' ⟨d, hd, -⟩
  have hi' := hi.adds hd
  cases result with
  | error f => exact ⟨⟨hi'.tree, Or.inl hi'.made⟩, trivial⟩
  | ok output => exact ⟨⟨hi'.tree.recover output, Or.inl (hi'.made.recover output)⟩, trivial⟩

/-- A run of a package leaves no working directory. -/
theorem not_isDirectory_run_package (hdirectory : host.files.isDirectory r.input = true)
    (hpackage : (Package.ofNumber r.input r.config (host.named + 1)).isPackage host.files = true) :
    (r.run host).2.files.isDirectory (Package.ofNumber r.input r.config (host.named + 1)).work = false := by
  have hstart : host.files.isDirectory (Package.ofNumber r.input r.config (host.named + 1)).work = false := by
    refine Package.not_isDirectory_work (fun l hl => ?_) hfresh.work hfresh.name
    rw [way?, hfresh.lacks l hl]
    rfl
  suffices hrun : Ends r.run host fun _ h =>
      h.files.isDirectory (Package.ofNumber r.input r.config (host.named + 1)).work = false from hrun
  refine ends_run (fun _ => quiet_files fun fs => fs.isDirectory _ = false) hdirectory hpackage (fun problem _ => hstart) fun h hview _ => ?_
  have hpacks : r.Packs (Package.ofNumber r.input r.config (host.named + 1))
      (IsRunning (Package.ofNumber r.input r.config (host.named + 1)) w host)
      (fun h => (Package.ofNumber r.input r.config (host.named + 1)).IsSettled w h.files) (fun _ => True) h :=
    { quiet := quiet_isRunning
      quiet_last := quiet_files _
      weaken := fun _ hi => ⟨hi.tree, Or.inl hi.made⟩
      append := fun _ text hi => Stays.changeFiles (fun _ => trivial) hi fun _ hwrite => hi.write hwrite
      append_last := fun _ text hi => Stays.changeFiles (fun _ => trivial) hi fun _ hwrite => hi.write hwrite
      execute := fun path h hi => stays_execute_settled hi path
      build := fun h' hview' => ends_instrumentAndBuild_settled hfresh happart
        (quiet_during host _ host h' (hview'.trans hview) ⟨rfl, rfl⟩) }
  have hcleared : Stays (fun h => h.files.isDirectory (Package.ofNumber r.input r.config (host.named + 1)).work = false)
      (fun _ => True) (r.package (Package.ofNumber r.input r.config (host.named + 1))) h := by
    refine hpacks.package (fun h hi => ?_) fun _ _ _ => trivial
    refine Ends.mono (Package.ends_cleanUp_settled hfresh.work hfresh.name hi) fun result _ hr => ⟨hr, ?_⟩
    cases result <;> trivial
  exact Ends.mono hcleared fun _ _ hr => hr.1

end Package

end Run

end Stopwatch

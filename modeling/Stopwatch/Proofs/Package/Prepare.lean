/-
  Preparing a working copy.

  The working directory is made in a directory that is there or is made for it, and the
  package is copied into it.  Whether that succeeds or not, nothing is changed outside but
  for directories that were missing, and what has been made can be removed again.
-/
import Stopwatch.Package.Build
import Stopwatch.Proofs.Package.Copy

namespace Stopwatch

namespace Package

open Files Action

variable {p : Package} {w : String} {fs fs' : Files} {root : Location} {host h : Host}
  {F : Failure → Prop}

/-! ## The working directory -/

/-- A package whose working directory has a new name, and files in which nothing has that
name. -/
structure IsFresh (p : Package) (w : String) (fs : Files) : Prop where
  work : p.work = p.config.workRoot.child w
  name : w ≠ ".."
  not_mem : w ∉ p.config.workRoot.names
  tree : fs.IsTree
  lacks : fs.Lacks w

/-- While directories are made above the working directory, nothing has its name yet. -/
structure IsGround (w : String) (fs₀ fs : Files) : Prop where
  same : SameOutside w [] fs₀ fs
  tree : fs.IsTree
  lacks : fs.Lacks w
  free : fs₀.NoLinks → fs.NoLinks

/-- A new directory lies in one that was there, under the last name of its path. -/
theorem exists_of_makeDirectory (htree : fs.IsTree) {q : Path} (hmake : fs.makeDirectory q = .ok fs') :
    ∃ front name mid, q.names = front ++ [name] ∧ Leads fs true maxLinks (fs.start q) front mid ∧
      fs.find? mid = some .directory ∧ fs.find? (mid ++ [name]) = none ∧
      fs.Put (mid ++ [name]) .directory ∧ fs' = fs.insert (mid ++ [name]) .directory := by
  obtain ⟨l, hlocate, hput, rfl⟩ := htree.put_of_make hmake
  rw [locateLink_eq_ok_iff] at hlocate
  have hnone : fs.find? l = none := by
    rcases hput.place with hnone | ⟨-, hway⟩
    · exact hnone
    · cases hway
  rcases List.eq_nil_or_concat q.names with hnil | ⟨front, name, hnames⟩
  · rw [hnil] at hlocate
    cases hlocate
    rw [htree.directory_start q] at hnone
    cases hnone
  · rw [List.concat_eq_append] at hnames
    rw [hnames] at hlocate
    obtain ⟨mid, hfront, hmid, ⟨-, rfl⟩ | ⟨-, rfl⟩⟩ := hlocate.concat_inv
    · -- the directory above one that is there is there itself
      have hparent : fs.find? mid.dropLast = some .directory := by
        by_cases hroot : mid = []
        · rw [hroot]
          rfl
        · exact htree.parents mid _ hroot hmid
      rw [hparent] at hnone
      cases hnone
    · exact ⟨front, name, mid, hnames, hfront, hmid, hnone, hput, rfl⟩

/-- A directory under a path without the new name does not get that name. -/
theorem IsGround.makeDirectory {fs₀ : Files} (hi : IsGround w fs₀ fs) {q : Path} (hq : w ∉ q.names)
    (hmake : fs.makeDirectory q = .ok fs') : IsGround w fs₀ fs' := by
  obtain ⟨front, name, mid, hnames, -, hmid, hnone, hput, rfl⟩ := exists_of_makeDirectory hi.tree hmake
  refine ⟨hi.same.insert_directory hput.ne_nil hnone, hi.tree.insert hput, fun l hl => ?_,
    fun hfree => (hi.free hfree).insert hput.ne_nil fun target heq => nomatch heq⟩
  have hne : l ≠ mid ++ [name] := by
    rintro rfl
    rw [List.mem_append, List.mem_singleton] at hl
    rcases hl with hl | rfl
    · exact hi.lacks.not_mem hmid hl
    · exact hq (by simp [hnames])
  rw [find?_insert_of_ne fs hne]
  exact hi.lacks l hl

/-- A package has been prepared: the files are a working copy in a directory that has been
made for it. -/
def IsPrepared (p : Package) (w : String) (fs₀ fs : Files) : Prop :=
  ∃ fs₁ root, IsGround w fs₀ fs₁ ∧ p.IsRoom w fs₁ root ∧ IsCopy w fs₁ root (fun _ => True) fs

/-- The files when the preparation has failed: the working directory has not been made, or
there is a part of a working copy. -/
def IsLeft (p : Package) (w : String) (fs₀ fs : Files) : Prop :=
  IsGround w fs₀ fs ∨ p.IsPrepared w fs₀ fs

theorem IsPrepared.same {fs₀ : Files} (h : p.IsPrepared w fs₀ fs) : SameOutside w [] fs₀ fs := by
  obtain ⟨fs₁, root, hground, hroom, hcopy⟩ := h
  exact hground.same.trans hcopy.same

theorem IsPrepared.tree {fs₀ : Files} (h : p.IsPrepared w fs₀ fs) : fs.IsTree := by
  obtain ⟨fs₁, root, hground, hroom, hcopy⟩ := h
  exact hcopy.tree

/-! ## Removing it -/

/-- The working directory has its new name wherever it stands. -/
theorem mem_of_locateLink_work (hwork : p.work = p.config.workRoot.child w) (hname : w ≠ "..") {l : Location}
    (hlocate : fs.locateLink p.work = .ok l) : w ∈ l := by
  rw [hwork, locateLink_eq_ok_iff] at hlocate
  obtain ⟨mid, -, -, ⟨heq, -⟩ | ⟨-, rfl⟩⟩ := Leads.concat_inv hlocate
  · exact absurd heq hname
  · simp

/-- An invariant that the removal of the working directory does not break. -/
theorem stays_cleanUp {I : Host → Prop} (hF : ∀ e, F (.system e)) (hI : Quiet I) (hi : I h)
    (hremove : ∀ h l, I h → h.files.locateLink p.work = .ok l →
      I { h with files := h.files.eraseTree l }) : Stays I F p.cleanUp h := by
  rw [cleanUp]
  refine Stays.stage hI hi fun h hi => Stays.observe_bind ?_
  split
  · exact Stays.removeTree hF hi fun l hlocate _ => hremove h l hi hlocate
  · exact .pure hi ()

/-! ## The stages -/

section Stages

variable (hF : ∀ e, F (.system e)) (hfresh : p.IsFresh w host.files)

include hF hfresh

/-- Making the working directory: the directories above are made first. -/
theorem ends_makeWork (hi : During host (· = host.files) h) :
    Ends p.makeWork h fun r h =>
      match r with
      | .ok _ => ∃ fs₁ root, IsGround w host.files fs₁ ∧ p.IsRoom w fs₁ root ∧
          fs₁.Put (root ++ [w]) .directory ∧ During host (· = fs₁.insert (root ++ [w]) .directory) h
      | .error f => F f ∧ During host (IsGround w host.files) h := by
  have hstart : During host (IsGround w host.files) h := by
    refine hi.mono fun files hfiles => ?_
    subst hfiles
    exact ⟨SameOutside.refl w [] host.files, hfresh.tree, hfresh.lacks, id⟩
  have hgrows : GrowsAt (fun q => w ∉ q.names) (During host (IsGround w host.files)) :=
    fun h q files hq hi hmake => hi.change (hi.2.makeDirectory hq hmake)
  have hparent : w ∉ p.work.parent.names := by
    rw [hfresh.work]
    simpa [Path.parent, Path.child] using hfresh.not_mem
  refine Ends.mono (ends_makeDirectories hF (fun q hq hmem => hq (List.dropLast_subset _ hmem)) hgrows
    hstart hparent false) fun r h' hr => ?_
  rcases hr with ⟨e, rfl, he, hi⟩ | ⟨h₁, hi, hlast⟩
  · exact ⟨he, hi⟩
  · rw [ends_makeDirectory] at hlast
    cases hmake : h₁.files.makeDirectory p.work with
    | error fault =>
      rw [hmake] at hlast
      obtain ⟨rfl, rfl⟩ : _ ∧ _ := hlast
      exact ⟨hF _, hi⟩
    | ok files =>
      rw [hmake] at hlast
      obtain ⟨rfl, rfl⟩ : _ ∧ _ := hlast
      obtain ⟨front, name, mid, hnames, hfront, hmid, -, hput, rfl⟩ :=
        exists_of_makeDirectory hi.2.tree hmake
      rw [hfresh.work] at hnames hfront
      obtain ⟨rfl, hname⟩ := List.append_inj' hnames rfl
      obtain rfl : w = name := (List.cons.inj hname).1
      have hroom : p.IsRoom w h₁.files mid :=
        ⟨hfresh.work, hfresh.name, hi.2.tree, hi.2.lacks, locate_eq_ok_iff.mpr hfront, hmid⟩
      exact ⟨h₁.files, mid, hi.2, hroom, hput, hi.change rfl⟩

variable (hproblem : ∀ q : Problem, q.kind.isA .package = true → F (.problem q))
  (happart : p.config.IsApart)

include hproblem happart

/-- Preparing a package ends with a working copy, or leaves everything outside as it was. -/
theorem ends_prepare (hi : During host (· = host.files) h) :
    Ends p.prepare h fun r h =>
      match r with
      | .ok _ => During host (p.IsPrepared w host.files) h
      | .error f => F f ∧ During host (p.IsLeft w host.files) h := by
  rw [prepare, ends_bind]
  refine Ends.mono (ends_stage ?_ fun h' hview => ends_makeWork hF hfresh ?_) fun r h hr => ?_
  · rintro r h h' hview hr
    cases r with
    | ok _ =>
      obtain ⟨fs₁, root, hground, hroom, hput, hi⟩ := hr
      exact ⟨fs₁, root, hground, hroom, hput, quiet_during host _ h h' hview hi⟩
    | error f => exact ⟨hr.1, quiet_during host _ h h' hview hr.2⟩
  · exact quiet_during host _ h h' hview hi
  · cases r with
    | error f => exact ⟨hr.1, hr.2.mono fun _ hfs => Or.inl hfs⟩
    | ok _ =>
      obtain ⟨fs₁, root, hground, hroom, hput, hmade⟩ := hr
      have hi : During host (IsCopy w fs₁ root fun _ => False) h :=
        hmade.mono fun fs hfs => hfs ▸ IsCopy.start hroom hput
      have hcopy : Stays (Copying w fs₁ root host fun _ => True) F (stage "copy" do
          notify "Copying package to temporary location..."
          p.copy) h := by
        refine ends_stage (fun r h h' hview hr => ⟨quiet_during host _ h h' hview hr.1, hr.2⟩)
          fun h' hview => ends_report_bind fun h'' hview' => ?_
        have hi' := quiet_during host _ h h'' (hview'.trans hview) hi
        exact stays_copyPackage hF hroom hproblem happart hi'
      refine Ends.mono hcopy fun r h hr => ?_
      have hprepared {fs : Files} (hfs : IsCopy w fs₁ root (fun _ => True) fs) :
          p.IsPrepared w host.files fs := ⟨fs₁, root, hground, hroom, hfs⟩
      cases r with
      | ok _ => exact hr.1.mono fun fs hfs => hprepared hfs
      | error f => exact ⟨hr.2, hr.1.mono fun fs hfs => Or.inr (hprepared hfs)⟩

end Stages

end Package

end Stopwatch

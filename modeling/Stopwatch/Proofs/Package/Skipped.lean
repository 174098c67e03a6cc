/-
  Parts that are skipped.

  A step of the copy takes what its part leads to, completely, or fails because of a pipe.  If
  the part is required, that is the end of the copy; if it is not, what has been copied of it is
  removed, and one warning names it.

  The working directory has a name that is mentioned nowhere, so no step looks into it, and the
  parts lie apart, so no step touches what another one has copied.  `IsUnderway` says what is
  kept by each step, and `copied_or_skipped` what comes of it when all have been taken.
-/
import Mathlib.Data.List.Forall2
import Mathlib.Data.List.Pairwise
import Stopwatch.Proofs.Host.Aside
import Stopwatch.Proofs.Host.Copied
import Stopwatch.Proofs.Package.Prepare

namespace Stopwatch

open Files Action

/-! ## Steps -/

namespace Package

/-- The names below the package, and below its working copy, that a step is about. -/
def CopyStep.part (step : CopyStep) : List String :=
  (Path.ofText step.relative).names

/-- How the warning begins that names a step. -/
def CopyStep.warningStart (step : CopyStep) : String :=
  step.name ++ " (" ++ step.relative ++ "): "

/-- Whether a warning names a step. -/
def CopyStep.isNamedIn (step : CopyStep) (warning : String) : Bool :=
  step.warningStart.toList.isPrefixOf warning.toList

/-- Whether a step cannot be done: its part leads to a pipe, or to a directory in which there is one. -/
def isBlocked (p : Package) (fs : Files) (step : CopyStep) : Bool :=
  match fs.locate (p.path.slash step.relative) with
  | .ok l => fs.hasPipe l
  | .error _ => false

variable {p : Package} {w : String} {root : Location} {fs₀ fs fs' : Files} {host host₀ : Host} {step : CopyStep}
  {done : List CopyStep} {l : Location}

/-- A working directory that has just been made under a new name, in a directory outside all that is
copied. -/
structure IsBlank (p : Package) (w : String) (root : Location) (fs : Files) : Prop where
  work : p.work = p.config.workRoot.child w
  name : w ≠ ".."
  tree : fs.IsTree
  once : fs.IsListing
  locate : fs.locate p.config.workRoot = .ok root
  made : fs.find? (root ++ [w]) = some .directory
  empty : ∀ l, w ∈ l → l ≠ root ++ [w] → fs.find? l = none
  here : w ∉ fs.workingDirectory
  links : fs.Unmentioned w
  workRoot : w ∉ p.config.workRoot.names
  path : w ∉ p.path.names
  parts : ∀ part ∈ p.config.parts ++ p.config.lockFiles, w ∉ (Path.ofText part).names
  outside : ∀ part ∈ p.config.parts ++ p.config.lockFiles, ∀ l,
    fs.locate (p.path.slash part) = .ok l → ¬l <+: root

/-- The working directory that is made under a new name is such a one, if no part leads to what it is made in. -/
theorem isBlank_of_makeWork {h : Host} (hfresh : p.IsFresh w host.files) (honce : host.files.IsListing)
    (hlinks : host.files.Unmentioned w) (hpath : w ∉ p.path.names)
    (hparts : ∀ part ∈ p.config.parts ++ p.config.lockFiles, w ∉ (Path.ofText part).names)
    (hmade : p.makeWork host = (.ok (), h)) :
    ∃ root, h.files.locate p.config.workRoot = .ok root ∧
      ((∀ part ∈ p.config.parts ++ p.config.lockFiles, ∀ l,
        h.files.locate (p.path.slash part) = .ok l → ¬l <+: root) → p.IsBlank w root h.files) := by
  have hends := ends_makeWork (F := fun _ => True) (fun _ => trivial) hfresh ⟨rfl, rfl⟩
  rw [Ends, hmade] at hends
  obtain ⟨fs₁, root, hground, hroom, hput, -, hfiles⟩ := hends
  have honce' : h.files.IsListing := by
    have hworks : Stays (Aside host) Failure.AcceptsInput p.makeWork host := works_makeDirectories p.work false host
    rw [Stays, Ends, hmade] at hworks
    obtain ⟨⟨files, _, _, _, _, rfl, hedits, -⟩, -⟩ := hworks
    exact hedits.isListing honce
  have hcopy : IsCopy w fs₁ root (fun _ => False) h.files := hfiles ▸ IsCopy.start hroom hput
  have hlocate : h.files.locate p.config.workRoot = .ok root := locate_eq_ok_iff.mpr (hcopy.leads_root hroom)
  refine ⟨root, hlocate, fun houtside => ?_⟩
  refine ⟨hfresh.work, hfresh.name, hcopy.tree, honce', hlocate, hcopy.work, fun l hmem hne => ?_, ?_,
    fun l target hl hlink => ?_, hfresh.not_mem, hpath, hparts, houtside⟩
  · rw [hfiles, find?_insert_of_ne fs₁ hne]
    exact hground.lacks l hmem
  · rw [hfiles, workingDirectory_insert, hground.same.here]
    exact hfresh.lacks.not_mem hfresh.tree.here
  · have hne : l ≠ root ++ [w] := by
      rintro rfl
      simp at hl
    rw [hfiles, find?_insert_of_ne fs₁ hne] at hlink
    rcases hground.same.entries l hl with heq | ⟨-, hdirectory⟩ | ⟨hlog, -⟩
    · exact hlinks l target hl (heq ▸ hlink)
    · rw [hlink] at hdirectory
      cases hdirectory
    · cases hlog

/-- A step whose part lies in the package, as the layout says, under names that are not new. -/
structure IsPartOf (p : Package) (w : String) (root : Location) (fs : Files) (step : CopyStep) : Prop where
  plain : Path.IsPlain step.relative
  fresh : w ∉ step.part
  outside : ∀ l, fs.locate (p.path.slash step.relative) = .ok l → ¬l <+: root

/-- A step that ends the copy: its part is required, and it is missing or there is a pipe. -/
structure IsFatal (p : Package) (fs : Files) (step : CopyStep) : Prop where
  required : step.required = true
  cause : fs.exists? (p.path.slash step.relative) = false ∨ p.isBlocked fs step = true

/-- What stands under the part of a step: the copy of all that the part leads to, or nothing. -/
structure IsDone (p : Package) (b : Location) (fs₀ fs : Files) (step : CopyStep) : Prop where
  required : step.required = true → fs₀.exists? (p.path.slash step.relative) = true ∧ p.isBlocked fs₀ step = false
  whole : ∀ l, fs₀.locate (p.path.slash step.relative) = .ok l → p.isBlocked fs₀ step = false →
    ∀ names, fs.find? (b ++ step.part ++ names) = fs₀.find? (l ++ names)
  gone : p.isBlocked fs₀ step = true → ∀ names, fs.find? (b ++ step.part ++ names) = none

/-- The files when some steps have been done: nothing has changed outside, and in the working directory there
are the parts of these steps and the directories above them. -/
structure IsUnderway (p : Package) (w : String) (root : Location) (fs₀ : Files) (done : List CopyStep) (fs : Files) :
    Prop where
  tree : fs.IsTree
  once : fs.IsListing
  untouched : Untouched (root ++ [w]) fs₀ fs
  work : fs.find? (root ++ [w]) = some .directory
  inside : ∀ names, names ≠ [] → ¬Below (done.map CopyStep.part) names →
    fs.find? (root ++ [w] ++ names) = none ∨
      fs.find? (root ++ [w] ++ names) = some .directory ∧ ∃ step ∈ done, names <+: step.part
  parts : ∀ step ∈ done, p.IsDone (root ++ [w]) fs₀ fs step

section Blank

variable (hblank : p.IsBlank w root fs₀)

include hblank

/-- Before the first step the working directory is empty. -/
theorem IsBlank.isUnderway : p.IsUnderway w root fs₀ [] fs₀ where
  tree := hblank.tree
  once := hblank.once
  untouched := .refl _ _
  work := hblank.made
  inside names hne _ := by
    refine Or.inl (hblank.empty _ (by simp) ?_)
    intro heq
    exact hne (List.append_right_eq_self.mp heq)
  parts step hstep := absurd hstep List.not_mem_nil

/-- The working directory is where its path leads to. -/
theorem IsUnderway.isBase (h : p.IsUnderway w root fs₀ done fs) : fs.IsBase p.work (root ++ [w]) := by
  have hmem : w ∈ root ++ [w] := by simp
  obtain ⟨hroot, -⟩ := h.untouched.locate hmem hblank.links hblank.here hblank.workRoot hblank.locate
  have hlink : ∀ target, fs.find? (root ++ [w]) ≠ some (.link target) := by
    intro target hlink
    rw [h.work] at hlink
    cases hlink
  have hdirectory : fs.find? root = some .directory :=
    h.tree.directory_of_prefix h.work (List.prefix_append root [w]) (by simp)
  have hleads (follow : Bool) : Leads fs follow maxLinks (fs.start p.work) p.work.names (root ++ [w]) := by
    rw [hblank.work]
    exact (locate_eq_ok_iff.mp hroot).concat hdirectory hblank.name hlink
  refine ⟨h.tree, h.once, locate_eq_ok_iff.mpr (hleads true), locateLink_eq_ok_iff.mpr (hleads false), h.work, ?_⟩
  intro hbegins
  rw [h.untouched.here] at hbegins
  exact hblank.here (hbegins.subset hmem)

theorem IsBlank.not_mem_source (hpart : p.IsPartOf w root fs₀ step) : w ∉ (p.path.slash step.relative).names := by
  have habsolute : (Path.ofText step.relative).isAbsolute = false := by
    simp [Path.isAbsolute, hpart.plain.1]
  rw [Path.slash, Path.join, habsolute]
  simpa using ⟨hblank.path, hpart.fresh⟩

/-- What a part leads to is not in the working directory. -/
theorem IsBlank.not_prefix_source (hpart : p.IsPartOf w root fs₀ step)
    (hlocate : fs₀.locate (p.path.slash step.relative) = .ok l) (names : List String) :
    ¬root ++ [w] <+: l ++ names := by
  intro hbegins
  have hmem : w ∈ root ++ [w] := by simp
  obtain ⟨-, hl⟩ := (Untouched.refl (root ++ [w]) fs₀).locate hmem hblank.links hblank.here
    (hblank.not_mem_source hpart) hlocate
  -- the part would have the new name, or the working directory would have been made in it
  rcases List.prefix_or_prefix_of_prefix hbegins (List.prefix_append l names) with hshort | hlong
  · exact hl (hshort.subset hmem)
  · rcases List.prefix_concat_iff.mp hlong with heq | hroot
    · exact hl (heq ▸ hmem)
    · exact hpart.outside l hlocate hroot

/-- What a part leads to is the same at every step. -/
theorem IsUnderway.source (h : p.IsUnderway w root fs₀ done fs) (hpart : p.IsPartOf w root fs₀ step) :
    (fs.locate (p.path.slash step.relative) = .ok l ↔ fs₀.locate (p.path.slash step.relative) = .ok l) ∧
      (fs₀.locate (p.path.slash step.relative) = .ok l → ∀ names, fs.find? (l ++ names) = fs₀.find? (l ++ names)) := by
  constructor
  · exact h.untouched.locate_iff (by simp) hblank.links hblank.here (hblank.not_mem_source hpart)
  · intro hlocate names
    exact h.untouched.entries _ (hblank.not_prefix_source hpart hlocate names)

/-- A part is there at every step, or at none. -/
theorem IsUnderway.exists_source (h : p.IsUnderway w root fs₀ done fs) (hpart : p.IsPartOf w root fs₀ step) :
    fs.exists? (p.path.slash step.relative) = fs₀.exists? (p.path.slash step.relative) := by
  have hsource (l : Location) := h.source (l := l) hblank hpart
  have hentry {l : Location} (hlocate : fs₀.locate (p.path.slash step.relative) = .ok l) :
      fs.find? l = fs₀.find? l := by
    simpa using (hsource l).2 hlocate []
  rw [Bool.eq_iff_iff, exists_iff, exists_iff]
  constructor
  · rintro ⟨l, e, hlocate, hl⟩
    have hlocate₀ := (hsource l).1.mp hlocate
    exact ⟨l, e, hlocate₀, hentry hlocate₀ ▸ hl⟩
  · rintro ⟨l, e, hlocate₀, hl⟩
    exact ⟨l, e, (hsource l).1.mpr hlocate₀, (hentry hlocate₀).trans hl⟩

end Blank

/-- Where a path leads to nothing, there is nothing below either. -/
theorem find?_of_not_exists {path : Path} (htree : fs.IsTree) (hmissing : fs.exists? path = false)
    (hlocate : fs.locate path = .ok l) (names : List String) : fs.find? (l ++ names) = none := by
  refine htree.find?_below_of_missing ?_ names
  by_contra hfound
  obtain ⟨e, he⟩ := Option.ne_none_iff_exists'.mp hfound
  rw [exists_iff.mpr ⟨l, e, hlocate, he⟩] at hmissing
  cases hmissing

/-- What a blocked step is about is there. -/
theorem exists_of_isBlocked (htree : fs.IsTree) (hblocked : p.isBlocked fs step = true) :
    fs.exists? (p.path.slash step.relative) = true := by
  rw [isBlocked] at hblocked
  split at hblocked
  · rename_i l hlocate
    obtain ⟨names, hpipe⟩ := (hasPipe_iff htree).mp hblocked
    rw [← Bool.not_eq_false]
    intro hmissing
    rw [find?_of_not_exists htree hmissing hlocate names] at hpipe
    cases hpipe
  · cases hblocked

/-- Whether a step is blocked can be seen at every step. -/
theorem IsUnderway.isBlocked_source (hblank : p.IsBlank w root fs₀) (h : p.IsUnderway w root fs₀ done fs)
    (hpart : p.IsPartOf w root fs₀ step) (hlocate : fs₀.locate (p.path.slash step.relative) = .ok l) :
    p.isBlocked fs₀ step = fs.hasPipe l := by
  rw [isBlocked, hlocate]
  exact (hasPipe_congr hblank.tree h.tree ((h.source hblank hpart).2 hlocate)).symm

/-- A part that has not been copied yet can be copied. -/
theorem IsUnderway.isClear (h : p.IsUnderway w root fs₀ done fs) (hnew : IsNew (done.map CopyStep.part) step.part) :
    fs.IsClear (root ++ [w]) step.part := by
  refine ⟨hnew.ne_nil, hnew.plain, fun front hfront => ?_, fun names => ?_⟩
  · by_cases hnil : front = []
    · rw [hnil, List.append_nil]
      exact Or.inr h.work
    · have hbelow : ¬Below (done.map CopyStep.part) front :=
        hnew.not_below (hfront.trans (List.prefix_append step.part []))
      exact (h.inside front hnil hbelow).imp_right And.left
  · have hbelow : ¬Below (done.map CopyStep.part) (step.part ++ names) := hnew.not_below (List.prefix_refl _)
    rw [List.append_assoc]
    refine (h.inside _ (List.append_ne_nil_of_left_ne_nil hnew.ne_nil names) hbelow).resolve_right ?_
    rintro ⟨-, other, hother, hbegins⟩
    exact (hnew.apart _ (List.mem_map_of_mem hother)).2 ((List.prefix_append step.part names).trans hbegins)

theorem IsDone.congr {b : Location} (h : p.IsDone b fs₀ fs step)
    (hsame : ∀ names, fs'.find? (b ++ step.part ++ names) = fs.find? (b ++ step.part ++ names)) :
    p.IsDone b fs₀ fs' step := by
  refine ⟨h.required, fun l hlocate hfree names => ?_, fun hblocked names => ?_⟩
  · rw [hsame names]
    exact h.whole l hlocate hfree names
  · rw [hsame names]
    exact h.gone hblocked names

section Others

variable {b : Location} {part other : List String}
  (hothers : ∀ l, ¬b ++ part <+: l → KeptOrPaved b part fs fs' l)

include hothers

/-- Outside, nothing changes with a part. -/
theorem untouched_of_others (hhere : fs'.workingDirectory = fs.workingDirectory) : Untouched b fs fs' := by
  refine ⟨hhere, fun l hl => ?_⟩
  -- the directories that are new are inside as well
  refine Or.resolve_right (hothers l fun hbegins => hl ((List.prefix_append _ _).trans hbegins)) ?_
  rintro ⟨-, -, front, -, rfl⟩
  exact hl (List.prefix_append _ _)

/-- Nothing changes under another part either. -/
theorem find?_of_apart (hpart : ¬part <+: other) (hother : ¬other <+: part) (names : List String) :
    fs'.find? (b ++ other ++ names) = fs.find? (b ++ other ++ names) := by
  rw [List.append_assoc]
  refine Or.resolve_right (hothers _ fun hbegins => ?_) ?_
  · rcases List.prefix_or_prefix_of_prefix ((List.prefix_append_right_inj _).mp hbegins)
      (List.prefix_append other names) with hshort | hlong
    · exact hpart hshort
    · exact hother hlong
  · rintro ⟨-, -, front, hfront, heq⟩
    rw [← List.append_cancel_left heq] at hfront
    exact hother ((List.prefix_append _ _).trans hfront)

end Others

/-- What has been copied stays as it is while something is put under another part. -/
theorem IsUnderway.extend (h : p.IsUnderway w root fs₀ done fs) (hnew : IsNew (done.map CopyStep.part) step.part)
    (htree : fs'.IsTree) (honce : fs'.IsListing) (hhere : fs'.workingDirectory = fs.workingDirectory)
    (hothers : ∀ l, ¬root ++ [w] ++ step.part <+: l → KeptOrPaved (root ++ [w]) step.part fs fs' l)
    (hdone : p.IsDone (root ++ [w]) fs₀ fs' step) : p.IsUnderway w root fs₀ (done ++ [step]) fs' := by
  refine ⟨htree, honce, h.untouched.trans (untouched_of_others hothers hhere), ?_, fun names hne hbelow => ?_,
    fun other hother => ?_⟩
  · have hshort : ¬root ++ [w] ++ step.part <+: root ++ [w] := by
      intro hbegins
      have hlength := hbegins.length_le
      have hpos := List.length_pos_iff.mpr hnew.ne_nil
      rw [List.length_append] at hlength
      omega
    rcases hothers _ hshort with heq | ⟨hnone, -⟩
    · rw [heq]
      exact h.work
    · rw [h.work] at hnone
      cases hnone
  · have hbefore : ¬Below (done.map CopyStep.part) names := by
      rintro ⟨part, hpart, hbegins⟩
      refine hbelow ⟨part, ?_, hbegins⟩
      rw [List.map_append]
      exact List.mem_append_left _ hpart
    have hpart : ¬step.part <+: names := fun hbegins => hbelow ⟨step.part, by simp, hbegins⟩
    rcases hothers (root ++ [w] ++ names) (fun hbegins => hpart ((List.prefix_append_right_inj _).mp hbegins))
      with heq | ⟨-, hnew, front, hfront, heq⟩
    · rw [heq]
      refine (h.inside names hne hbefore).imp_right ?_
      rintro ⟨hdirectory, other, hother, hbegins⟩
      exact ⟨hdirectory, other, List.mem_append_left _ hother, hbegins⟩
    · rw [← List.append_cancel_left heq] at hfront
      exact Or.inr ⟨hnew, step, by simp, hfront⟩
  · rcases List.mem_append.mp hother with hother | hlast
    · have happart := hnew.apart _ (List.mem_map_of_mem hother)
      exact (h.parts other hother).congr (find?_of_apart hothers happart.2 happart.1)
    · rw [List.mem_singleton.mp hlast]
      exact hdone

/-! ## One step -/

/-- The host when some steps have been done: the warnings name those that have been skipped, in their order, and
nothing has been reported. -/
structure IsTaking (p : Package) (w : String) (root : Location) (host₀ : Host) (done : List CopyStep) (host : Host) :
    Prop where
  files : p.IsUnderway w root host₀.files done host.files
  warnings : List.Forall₂ (fun step warning => step.isNamedIn warning = true)
    (done.filter (p.isBlocked host₀.files)) host.pipeline.copyWarnings
  reports : host.reports = host₀.reports
  listening : host.listening = host₀.listening

/-- A step that is not skipped adds no warning. -/
theorem IsTaking.extend (h : p.IsTaking w root host₀ done host) {files : Files}
    (hfiles : p.IsUnderway w root host₀.files (done ++ [step]) files) (hfree : p.isBlocked host₀.files step = false) :
    p.IsTaking w root host₀ (done ++ [step]) { host with files } := by
  refine ⟨hfiles, ?_, h.reports, h.listening⟩
  rw [List.filter_append, List.filter_singleton, hfree, Bool.cond_false, List.append_nil]
  exact h.warnings

/-- A step that is skipped has been taken back, and is named in one more warning. -/
theorem leaves_skipStep {f : Failure} {h₁ : Host} (h : p.IsTaking w root host₀ done host)
    (hnew : IsNew (done.map CopyStep.part) step.part) (hoptional : step.required = false)
    (hblocked : p.isBlocked host₀.files step = true)
    (hfailed : OnlyFiles (fun fs => host.files.Fills p.work (root ++ [w]) step.part fs ∧
      IsBroken l (root ++ [w]) step.part host.files fs) host h₁) {E : Failure → Host → Prop} :
    Leaves (fun _ => p.IsTaking w root host₀ (done ++ [step])) E (skipStep step (p.work.under step.part) f) h₁ := by
  obtain ⟨hfills, hbroken⟩ := hfailed.files
  have hdiscard : Ends (discard (attempt (removeTree (p.work.under step.part)))) h₁ fun r h =>
      r = .ok () ∧ OnlyFiles (h₁.files.Removes (root ++ [w] ++ step.part)) host h := by
    change Ends ((fun _ => ()) <$> attempt (removeTree (p.work.under step.part))) _ _
    rw [ends_map, ends_attempt]
    refine Ends.mono (ends_removeTree_of_broken hfills hbroken hnew.ne_nil hnew.plain) fun r h hr => ?_
    exact ⟨rfl, hfailed.trans hr⟩
  rw [skipStep, Leaves]
  refine Ends.bind hdiscard ?_ ?_
  · rintro - h' ⟨-, files', rfl, hremoves⟩
    have hdone : p.IsDone (root ++ [w]) host₀.files files' step := by
      refine ⟨fun hrequired => ?_, fun l _ hfree => ?_, fun _ => hremoves.gone⟩
      · rw [hoptional] at hrequired
        cases hrequired
      · rw [hblocked] at hfree
        cases hfree
    have hunderway : p.IsUnderway w root host₀.files (done ++ [step]) files' := by
      refine h.files.extend hnew hremoves.tree hremoves.once (hremoves.here.trans hfills.here) (fun l hl => ?_) hdone
      rw [KeptOrPaved, hremoves.others l hl]
      exact hfills.others l hl
    refine .ok ⟨hunderway, ?_, h.reports, h.listening⟩
    rw [List.filter_append, List.filter_singleton, hblocked, Bool.cond_true]
    refine List.rel_append h.warnings (.cons ?_ .nil)
    have hwarning : (step.warningStart ++ f.message).toList = step.warningStart.toList ++ f.message.toList :=
      String.toList_append
    change step.isNamedIn (step.warningStart ++ f.message) = true
    rw [CopyStep.isNamedIn, List.isPrefixOf_iff_prefix, hwarning]
    exact List.prefix_append _ _
  · rintro e h' ⟨herror, -⟩
    cases herror

section Steps

variable (hblank : p.IsBlank w root host₀.files)

include hblank

/-- A part that has been copied completely is one more that has been done. -/
theorem IsTaking.copied (h : p.IsTaking w root host₀ done host) (hpart : p.IsPartOf w root host₀.files step)
    (hnew : IsNew (done.map CopyStep.part) step.part) {e : Entry} {files : Files}
    (hlocate : host₀.files.locate (p.path.slash step.relative) = .ok l) (hl : host₀.files.find? l = some e)
    (hfills : host.files.Fills p.work (root ++ [w]) step.part files)
    (hwhole : IsWhole l (root ++ [w]) step.part host.files files) :
    p.IsTaking w root host₀ (done ++ [step]) { host with files } := by
  have hfree : p.isBlocked host₀.files step = false :=
    (h.files.isBlocked_source hblank hpart hlocate).trans hwhole.plain
  have hsame := (h.files.source hblank hpart).2 hlocate
  have hdone : p.IsDone (root ++ [w]) host₀.files files step := by
    refine ⟨fun _ => ⟨exists_iff.mpr ⟨l, e, hlocate, hl⟩, hfree⟩, fun l' hlocate' _ names => ?_, fun hpipe => ?_⟩
    · obtain rfl := Except.ok.inj (hlocate.symm.trans hlocate')
      rw [hwhole.found names, hsame names]
    · rw [hfree] at hpipe
      cases hpipe
  exact h.extend (h.files.extend hnew hfills.base.tree hfills.base.once hfills.here hfills.others hdone) hfree

/-- An optional part that is not there needs nothing to be done. -/
theorem IsTaking.passed (h : p.IsTaking w root host₀ done host) (hnew : IsNew (done.map CopyStep.part) step.part)
    (hmissing : host₀.files.exists? (p.path.slash step.relative) = false) (hoptional : step.required = false) :
    p.IsTaking w root host₀ (done ++ [step]) host := by
  have hclear := h.files.isClear hnew
  have hfree : p.isBlocked host₀.files step = false := by
    rw [← Bool.not_eq_true]
    intro hblocked
    rw [exists_of_isBlocked hblank.tree hblocked] at hmissing
    cases hmissing
  have hdone : p.IsDone (root ++ [w]) host₀.files host.files step := by
    refine ⟨fun hrequired => ?_, fun l hlocate _ names => ?_, fun _ => hclear.absent⟩
    · rw [hoptional] at hrequired
      cases hrequired
    · -- nothing is there to be copied, so there is nothing below either
      rw [hclear.absent names, find?_of_not_exists hblank.tree hmissing hlocate names]
  exact h.extend (h.files.extend hnew h.files.tree h.files.once rfl (fun _ _ => Or.inl rfl) hdone) hfree

/-- A step is done, or it was a required one that cannot be done. -/
theorem leaves_copyStep (h : p.IsTaking w root host₀ done host) (hpart : p.IsPartOf w root host₀.files step)
    (hnew : IsNew (done.map CopyStep.part) step.part) :
    Leaves (fun _ => p.IsTaking w root host₀ (done ++ [step])) (fun _ _ => p.IsFatal host₀.files step)
      (p.copyStep step) host := by
  have hexists := h.files.exists_source hblank hpart
  rw [copyStep, slash_work hpart.plain]
  refine Leaves.observe_bind ?_
  cases hthere : host.files.exists? (p.path.slash step.relative) with
  | true =>
    obtain ⟨l, e, hlocate, hl⟩ := exists_iff.mp hthere
    have hlocate₀ := (h.files.source hblank hpart).1.mp hlocate
    have hl₀ : host₀.files.find? l = some e := by
      have hsame := (h.files.source hblank hpart).2 hlocate₀ []
      rwa [List.append_nil, hl, eq_comm] at hsame
    have hcopies : Copies host l p.work (root ++ [w]) step.part
        (Action.copy (p.path.slash step.relative) (p.below step.part)) :=
      copies_copy (h.files.isBase hblank) (h.files.isClear hnew) hlocate hl
    rw [if_pos rfl, Leaves, ends_bind, ends_attempt]
    refine Ends.mono hcopies fun r h' hr => ?_
    cases hr with
    | ok hcopied =>
      obtain ⟨files, rfl, hfills, hwhole⟩ := hcopied
      exact .ok (h.copied hblank hpart hnew hlocate₀ hl₀ hfills hwhole)
    | error hrefused =>
      obtain ⟨hsystem, hfailed⟩ := hrefused
      have hblocked : p.isBlocked host₀.files step = true :=
        (h.files.isBlocked_source hblank hpart hlocate₀).trans hfailed.files.2.pipe
      dsimp only
      cases hrequired : step.required with
      | true => exact .error ⟨hrequired, Or.inr hblocked⟩
      | false =>
        rw [hsystem]
        exact leaves_skipStep h hnew hrequired hblocked hfailed
  | false =>
    rw [if_neg Bool.false_ne_true]
    cases hrequired : step.required with
    | true => exact .error ⟨hrequired, Or.inl (hexists.symm.trans hthere)⟩
    | false => exact .ok (h.passed hblank hnew (hexists.symm.trans hthere) hrequired)

end Steps

/-! ## All steps -/

/-- The steps before one have been taken, and that one has failed. -/
structure FailsAt (p : Package) (steps : List CopyStep) (host : Host) (f : Failure) (h : Host)
    (before after : List CopyStep) (step : CopyStep) (h₁ : Host) : Prop where
  steps : steps = before ++ step :: after
  taken : p.copySteps before host = (.ok (), h₁)
  failed : p.copyStep step h₁ = (.error f, h)

theorem copySteps_cons_of_eq {rest : List CopyStep} {h₁ : Host} (hstep : p.copyStep step host = (.ok (), h₁)) :
    p.copySteps (step :: rest) host = p.copySteps rest h₁ := by
  suffices h : Ends (p.copySteps (step :: rest)) host fun r h => (r, h) = p.copySteps rest h₁ from h
  rw [copySteps]
  exact ends_bind_of_eq hstep rfl

theorem leaves_copySteps (hblank : p.IsBlank w root host₀.files) {steps : List CopyStep}
    (h : p.IsTaking w root host₀ done host) (hparts : ∀ step ∈ steps, p.IsPartOf w root host₀.files step)
    (happart : ((done ++ steps).map (·.relative)).Pairwise Path.Apart) :
    Leaves (fun _ => p.IsTaking w root host₀ (done ++ steps))
      (fun f h' => ∃ before after step h₁,
        p.FailsAt steps host f h' before after step h₁ ∧ p.IsFatal host₀.files step)
      (p.copySteps steps) host := by
  induction steps generalizing done host with
  | nil =>
    rw [List.append_nil]
    exact .pure h
  | cons step rest ih =>
    have hpart := hparts step List.mem_cons_self
    -- what has been done are parts that the next one lies apart from
    have hnew : IsNew (done.map CopyStep.part) step.part := by
      refine ⟨hpart.plain.2.1, hpart.plain.2.2, fun part hmem => ?_⟩
      obtain ⟨other, hother, rfl⟩ := List.mem_map.mp hmem
      rw [List.map_append, List.pairwise_append] at happart
      exact happart.2.2 _ (List.mem_map_of_mem hother) _ (List.mem_map_of_mem List.mem_cons_self)
    rcases (leaves_copyStep hblank h hpart hnew).cases with ⟨x, hresult, htaking⟩ | ⟨f, hresult, hfatal⟩
    · have hstep : p.copyStep step host = (.ok (), (p.copyStep step host).2) := Prod.ext hresult rfl
      rw [List.append_cons] at happart
      have hrest := ih htaking (fun other hother => hparts other (List.mem_cons_of_mem _ hother)) happart
      rw [← List.append_cons] at hrest
      rw [Leaves, Ends, copySteps_cons_of_eq hstep]
      refine Leaves.mono hrest (fun _ _ h => h) ?_
      rintro f h' ⟨before, after, other, h₁, hfails, hfatal⟩
      refine ⟨step :: before, after, other, h₁, ⟨?_, ?_, hfails.failed⟩, hfatal⟩
      · rw [hfails.steps, List.cons_append]
      · rw [copySteps_cons_of_eq hstep]
        exact hfails.taken
    · have hstep : p.copyStep step host = (.error f, (p.copyStep step host).2) := Prod.ext hresult rfl
      rw [copySteps, Leaves, ends_bind, Ends, hstep]
      exact .error ⟨[], rest, step, host, ⟨rfl, rfl, hstep⟩, hfatal⟩

/-! ## Warnings -/

/-- A warning that names a step begins with the first letter of the name. -/
theorem head_of_isNamedIn {warning : String} (hname : step.name.toList ≠ []) (h : step.isNamedIn warning = true) :
    warning.toList.head? = step.name.toList.head? := by
  rw [CopyStep.isNamedIn, List.isPrefixOf_iff_prefix] at h
  obtain ⟨rest, hrest⟩ := h
  obtain ⟨c, cs, hcs⟩ := List.exists_cons_of_ne_nil hname
  rw [← hrest, CopyStep.warningStart, String.toList_append, String.toList_append, String.toList_append, hcs]
  rfl

/-- No warning names two steps. -/
def CopyStep.Distinct (step other : CopyStep) : Prop :=
  ∀ warning, step.isNamedIn warning = true → other.isNamedIn warning = false

theorem CopyStep.Distinct.symm {other : CopyStep} (h : step.Distinct other) : other.Distinct step := by
  intro warning hother
  rw [← Bool.not_eq_true]
  intro hstep
  rw [h warning hstep] at hother
  cases hother

instance : Std.Symm CopyStep.Distinct := ⟨fun _ _ h => h.symm⟩

/-- The names of the steps of a plan begin with different letters. -/
theorem distinct_copyPlan (p : Package) (fs : Files) : (p.copyPlan fs).Pairwise CopyStep.Distinct := by
  have hnames : ((p.copyPlan fs).map fun step => step.name.toList.head?).Nodup ∧
      ∀ step ∈ p.copyPlan fs, step.name.toList ≠ [] := by
    -- the plan has one step more if there is a lock file
    rw [copyPlan]
    cases p.config.lockFiles.find? fun file => fs.exists? (p.path.slash file) with
    | none => simp
    | some file => simp
  refine List.Pairwise.imp_of_mem ?_ (List.pairwise_map.mp hnames.1)
  intro step other hstep hother hne warning hnamed
  rw [← Bool.not_eq_true]
  intro hnamed'
  apply hne
  rw [← head_of_isNamedIn (hnames.2 step hstep) hnamed, ← head_of_isNamedIn (hnames.2 other hother) hnamed']

section Warnings

variable {steps : List CopyStep} {warnings : List String}
  (h : List.Forall₂ (fun step warning => step.isNamedIn warning = true) steps warnings)

include h

/-- A step is not named by the warnings of others. -/
theorem countP_eq_zero_of_distinct (hdistinct : ∀ other ∈ steps, other.Distinct step) :
    warnings.countP step.isNamedIn = 0 := by
  induction h with
  | nil => rfl
  | cons hnamed _ ih =>
    rw [List.forall_mem_cons] at hdistinct
    rw [List.countP_cons_of_neg (by rw [hdistinct.1 _ hnamed]; exact Bool.false_ne_true)]
    exact ih hdistinct.2

/-- A step that has been skipped is named by just one warning. -/
theorem countP_eq_one_of_mem (hdistinct : steps.Pairwise CopyStep.Distinct) (hstep : step ∈ steps) :
    warnings.countP step.isNamedIn = 1 := by
  induction h with
  | nil => cases hstep
  | cons hnamed hrest ih =>
    rw [List.pairwise_cons] at hdistinct
    rcases List.mem_cons.mp hstep with rfl | hstep
    · rw [List.countP_cons_of_pos hnamed,
        countP_eq_zero_of_distinct hrest fun other hother => (hdistinct.1 other hother).symm]
    · rw [List.countP_cons_of_neg (by rw [hdistinct.1 step hstep _ hnamed]; exact Bool.false_ne_true)]
      exact ih hdistinct.2 hstep

end Warnings

/-! ## The whole copy -/

/-- A step has been done: there is a complete copy of what its part leads to, and no warning names it. -/
structure IsCopied (p : Package) (b : Location) (host h : Host) (step : CopyStep) : Prop where
  free : p.isBlocked host.files step = false
  whole : ∃ l, host.files.locate (p.path.slash step.relative) = .ok l ∧
    ∀ names, h.files.find? (b ++ step.part ++ names) = host.files.find? (l ++ names)
  named : h.pipeline.copyWarnings.countP step.isNamedIn = 0

/-- A step has been skipped: it was not required, there is nothing of a copy, and just one warning names it. -/
structure IsSkipped (p : Package) (b : Location) (host h : Host) (step : CopyStep) : Prop where
  blocked : p.isBlocked host.files step = true
  optional : step.required = false
  gone : ∀ names, h.files.find? (b ++ step.part ++ names) = none
  named : h.pipeline.copyWarnings.countP step.isNamedIn = 1

/-- What is told when a package has been copied. -/
def skippedReports (warnings : List String) : List Report :=
  if warnings.isEmpty then [] else [.warn ("Optional copy steps skipped: " ++ String.intercalate "; " warnings)]

/-- What has been skipped is told at the end, if anything has been. -/
theorem report_skipped (h : Host) :
    (if !h.pipeline.copyWarnings.isEmpty then
        report (.warn ("Optional copy steps skipped: " ++ String.intercalate "; " h.pipeline.copyWarnings))
      else pure () : Action Unit) h =
      (.ok (), { h with
        reports := h.reports ++ if h.listening then skippedReports h.pipeline.copyWarnings else [] }) := by
  rw [skippedReports]
  cases h.pipeline.copyWarnings.isEmpty with
  | true =>
    rw [if_pos rfl, ite_self, List.append_nil]
    rfl
  | false =>
    change (Except.ok (), if h.listening = true then _ else _) = _
    split
    · rfl
    · rw [List.append_nil]

/-- How the copy of a package ends: every step whose part is there has been done or skipped, which is told in one
warning, and nothing has changed outside; or a required step has failed. -/
inductive CopyEnds (p : Package) (b : Location) (host : Host) : Except Failure Unit → Host → Prop
  | done {h : Host}
      (steps : ∀ step ∈ p.copyPlan host.files, host.files.exists? (p.path.slash step.relative) = true →
        p.IsCopied b host h step ∨ p.IsSkipped b host h step)
      (reports : h.reports = host.reports ++ if host.listening then skippedReports h.pipeline.copyWarnings else [])
      (outside : Untouched b host.files h.files) : CopyEnds p b host (.ok ()) h
  | failed {f : Failure} {h h₁ : Host} {before after : List CopyStep} {step : CopyStep}
      (fails : p.FailsAt (p.copyPlan host.files) host f h before after step h₁)
      (fatal : p.IsFatal host.files step) : CopyEnds p b host (.error f) h

/-- A step that has been done or skipped when all have been taken. -/
theorem IsTaking.ends (h : p.IsTaking w root host₀ (p.copyPlan host₀.files) host)
    (hstep : step ∈ p.copyPlan host₀.files) (hexists : host₀.files.exists? (p.path.slash step.relative) = true) :
    p.IsCopied (root ++ [w]) host₀ host step ∨ p.IsSkipped (root ++ [w]) host₀ host step := by
  have hdone := h.files.parts step hstep
  have hdistinct := distinct_copyPlan p host₀.files
  cases hblocked : p.isBlocked host₀.files step with
  | false =>
    obtain ⟨l, e, hlocate, -⟩ := exists_iff.mp hexists
    refine Or.inl ⟨hblocked, ⟨l, hlocate, hdone.whole l hlocate hblocked⟩, ?_⟩
    refine countP_eq_zero_of_distinct h.warnings fun other hother => ?_
    obtain ⟨hother, hskipped⟩ := List.mem_filter.mp hother
    refine hdistinct.forall hother hstep ?_
    rintro rfl
    rw [hblocked] at hskipped
    cases hskipped
  | true =>
    refine Or.inr ⟨hblocked, ?_, hdone.gone hblocked, ?_⟩
    · rw [← Bool.not_eq_true]
      intro hrequired
      rw [(hdone.required hrequired).2] at hblocked
      cases hblocked
    · exact countP_eq_one_of_mem h.warnings (hdistinct.filter _) (List.mem_filter.mpr ⟨hstep, hblocked⟩)

/-- A package in which there is a pipe among the tests, and an empty working directory. -/
def pipedFiles : Files where
  entries := [(["pkg"], .directory), (["pkg", "pyproject.toml"], .file [] false), (["pkg", "src"], .directory),
    (["pkg", "src", "a.py"], .file [0x23] true), (["pkg", "src", "b.py"], .link "a.py"), (["pkg", "tests"], .directory),
    (["pkg", "tests", "a.py"], .file [] false), (["pkg", "tests", "p"], .pipe), (["tmp"], .directory),
    (["tmp", "w"], .directory)]
  workingDirectory := []

def piped : Package :=
  ⟨Path.ofText "/pkg", Config.usual (Path.ofText "/home") (Path.ofText "/tmp") "python3", Path.ofText "/tmp/w"⟩

/-- A host with these files. -/
def pipedHost : Host where
  files := pipedFiles
  clock := ⟨[]⟩
  named := 0
  upcoming := []
  spawned := []
  searchPath := none
  listening := true
  reports := []
  pipeline := ⟨Stages.ofNames Package.stageNames, [], false⟩
  now := ⟨2025, 1, 1, 12, 0, 0, 0, none⟩

theorem isBlank_piped : piped.IsBlank "w" ["tmp"] pipedFiles where
  work := by decide +kernel
  name := by decide
  tree := by decide +kernel
  once := by decide +kernel
  locate := by decide +kernel
  made := by decide +kernel
  empty l hmem hne := by
    have hall : ∀ e ∈ pipedFiles.entries, "w" ∈ e.1 → e.1 = ["tmp", "w"] := by decide
    by_contra hfound
    obtain ⟨e, he⟩ := Option.ne_none_iff_exists'.mp hfound
    exact hne (hall _ (mem_of_find (List.ne_nil_of_mem hmem) he) hmem)
  here := by decide
  links l target _ hlink := by
    have hall : ∀ e ∈ pipedFiles.entries, ∀ target, e.2 = .link target → target = "a.py" := by simp [pipedFiles]
    have hne : l ≠ [] := by
      rintro rfl
      cases hlink
    rw [hall _ (mem_of_find hne hlink) target rfl]
    decide +kernel
  workRoot := by decide +kernel
  path := by decide +kernel
  parts := by decide +kernel
  outside part hpart l hlocate := by
    have hall : ∀ part ∈ piped.config.parts ++ piped.config.lockFiles,
        (match pipedFiles.locate (piped.path.slash part) with
          | .ok l => l.isPrefixOf ["tmp"]
          | .error _ => false) = false := by decide +kernel
    intro hbegins
    have habove := hall part hpart
    rw [hlocate] at habove
    dsimp only at habove
    rw [List.isPrefixOf_iff_prefix.mpr hbegins] at habove
    cases habove

end Package

end Stopwatch

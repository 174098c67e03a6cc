/-
  What the manifest says during a run.

  The manifest is that of the package, not of its working copy, and nothing of it is checked
  before it is used.  As long as nothing that is written in the copy leads to it, it says
  the same until children are started, and what fails because of it has one of a few
  causes.
-/
import Stopwatch.Proofs.Run.Outside

namespace Stopwatch

open Action Files

namespace Package

variable {p : Package} {w : String} {m : Location} {fs fs' copied : Files} {f : Failure}

/-! ## Causes -/

/-- Why a run of a package raises a failure instead of telling it.  `fs` are the files at the
start, and `copied` those with the working copy.  A manifest that is not TOML counts as empty, and
is never a cause. -/
inductive Cause (p : Package) (fs copied : Files) : Failure → Prop
  /-- The manifest is not UTF-8. -/
  | manifest {bytes : List UInt8} {e : Text.Utf8.DecodeError} (hread : fs.read p.manifestPath = .ok bytes)
      (hdecode : Text.Utf8.decode bytes = .error e) : Cause p fs copied (.undecodable e)
  /-- What stands under `project` is no table. -/
  | project {manifest : Toml.Table} {value : Toml} (hmanifest : p.manifestAt fs = .ok manifest)
      (hvalue : Toml.get? manifest "project" = some value) (hother : ∀ t, value ≠ .table t) :
      Cause p fs copied (.value (.noLookup value.typeName "get"))
  /-- The scripts cannot be counted, or there is one, and they are no table. -/
  | scripts {project : Toml.Table} {f : Failure} (hproject : p.projectAt fs = .ok project)
      (hscripts : onlyScript? ((Toml.get? project "scripts").getD (.table [])) = .error f) :
      Cause p fs copied f
  /-- The only script is something other than a text. -/
  | script {value : Toml} (hscript : p.scriptAt fs = .ok (some value)) (hfull : value.isTruthy = true)
      (hother : ∀ s, value ≠ .text s) : Cause p fs copied (.value (.notText 9 value.typeName))
  /-- A source compares a malformed string at its top level. -/
  | source {path : Path} {module : Syntax.Module} {e : Syntax.StringFault} (hpath : path ∈ p.sources copied)
      (hmodule : copied.HasModule path module) (hanalyze : module.analyze = .error e) :
      Cause p fs copied (.malformedString e)

theorem cause_of_manifestAt (h : p.manifestAt fs = .error f) : p.Cause fs copied f := by
  unfold manifestAt textAt at h
  cases hread : fs.read p.manifestPath with
  | error fault =>
    rw [hread] at h
    cases h
  | ok bytes =>
    rw [hread] at h
    cases hdecode : Text.Utf8.decode bytes with
    | ok cs =>
      simp only [hdecode] at h
      cases h
    | error e =>
      simp only [hdecode] at h
      cases h
      exact .manifest hread hdecode

theorem projectAt_congr (h : fs'.textAt p.manifestPath = fs.textAt p.manifestPath) :
    p.projectAt fs' = p.projectAt fs := by
  unfold projectAt manifestAt
  rw [h]

theorem scriptAt_congr (h : fs'.textAt p.manifestPath = fs.textAt p.manifestPath) :
    p.scriptAt fs' = p.scriptAt fs := by
  unfold scriptAt
  rw [projectAt_congr h]

theorem cause_of_projectAt (h : p.projectAt fs = .error f) : p.Cause fs copied f := by
  unfold projectAt at h
  cases hmanifest : p.manifestAt fs with
  | error f' =>
    rw [hmanifest] at h
    cases h
    exact cause_of_manifestAt hmanifest
  | ok manifest =>
    rw [hmanifest] at h
    simp only [projectTable] at h
    split at h
    · cases h
    · cases h
    · rename_i value hother hvalue
      cases h
      exact .project hmanifest hvalue hother

theorem cause_of_scriptAt (h : p.scriptAt fs = .error f) : p.Cause fs copied f := by
  unfold scriptAt at h
  cases hproject : p.projectAt fs with
  | error f' =>
    rw [hproject] at h
    cases h
    exact cause_of_projectAt hproject
  | ok project =>
    rw [hproject] at h
    exact .scripts hproject h

/-- The arguments that pack the sources are all texts, unless the only script is not. -/
theorem cause_of_joinArguments {target : Path} {entry : Option Toml}
    (hentry : ∀ value, entry = some value → p.scriptAt fs = .ok (some value))
    (h : Supervisor.joinArguments 0 (p.packArguments target entry) = .error f) : p.Cause fs copied f := by
  rw [packArguments] at h
  split at h
  · rw [List.append_nil] at h
    exact absurd h (Builds.joinArguments_texts 0 _ f)
  · rename_i s _
    exact absurd h (Builds.joinArguments_texts 0 ([_, _, _, _, _, _, _, _, "-m", s]) f)
  · rename_i value hother hfound
    obtain ⟨rfl, hfull⟩ := Option.filter_eq_some_iff.mp hfound
    have hvalue : f = .value (.notText 9 value.typeName) := by
      simpa [Supervisor.joinArguments, Except.map] using h.symm
    rw [hvalue]
    exact .script (hentry value rfl) hfull hother

/-! ## The manifest while the copy is instrumented -/

/-- Nothing that is written in a working copy leads to the manifest. -/
def SparesManifest (p : Package) (copied : Files) : Prop :=
  ∀ path, p.Writes copied path → copied.locate path ≠ copied.locate p.manifestPath

/-- Where nothing that is written leads outside, the manifest is spared. -/
theorem WritesInside.sparesManifest (h : p.WritesInside w copied) (hlocate : copied.locate p.manifestPath = .ok m)
    (hm : w ∉ m) : p.SparesManifest copied := by
  intro path hwrites heq
  exact hm (h path hwrites m (heq.trans hlocate))

/-- The files while a working copy is instrumented and launched: the manifest and all ways are
those of the copy. -/
structure IsSpared (m : Location) (copied fs : Files) : Prop where
  tree : fs.IsTree
  ways : copied.SameWays fs
  here : fs.workingDirectory = copied.workingDirectory
  manifest : fs.find? m = copied.find? m

/-- All that has been written since the copy is marked. -/
def HasOnlyMarked (copied fs : Files) : Prop :=
  ∀ l, fs.find? l = copied.find? l ∨
    ∃ text executable, hasMarker text = true ∧ fs.find? l = some (.file (Text.Utf8.encode text) executable)

namespace IsSpared

theorem refl (htree : copied.IsTree) : IsSpared m copied copied :=
  ⟨htree, fun _ => rfl, rfl, rfl⟩

theorem locate (hi : IsSpared m copied fs) {path : Path} {l : Location} :
    fs.locate path = .ok l ↔ copied.locate path = .ok l :=
  hi.ways.locate hi.here

theorem write (hi : IsSpared m copied fs) {path : Path} (hpath : copied.locate path ≠ .ok m)
    {change : List UInt8 → List UInt8} (hwrite : fs.write path change = .ok fs') : IsSpared m copied fs' := by
  rcases write_inv hwrite with rfl | ⟨l, bytes, executable, hlocate, hplace, rfl⟩
  · exact hi
  · have hne : m ≠ l := by
      rintro rfl
      exact hpath (hi.locate.mp hlocate)
    have hways : fs.SameWays (fs.insert l (.file bytes executable)) :=
      sameWays_insert hplace.way?_eq_none rfl
    refine ⟨hi.tree.insert (hi.tree.put_file hlocate hplace bytes executable), fun l' => ?_, hi.here, ?_⟩
    · rw [hi.ways l', hways l']
    · rw [find?_insert_of_ne fs hne]
      exact hi.manifest

/-- What a path leads to has a module only if it had that module in the copy. -/
theorem hasModule (hi : IsSpared m copied fs) (hmarked : HasOnlyMarked copied fs) {path : Path}
    {module : Syntax.Module} (h : fs.HasModule path module) : copied.HasModule path module := by
  obtain ⟨l, hlocate⟩ := h.exists_location
  have hcopied := hi.locate.mp hlocate
  rcases hmarked l with hsame | ⟨text, executable, hmarker, hfile⟩
  · have htext : fs.textAt path = copied.textAt path := by
      refine textAt_congr (hlocate.trans hcopied.symm) fun l' hl' => ?_
      rw [hcopied] at hl'
      cases hl'
      exact hsame
    obtain ⟨source, hsource, hrest⟩ := h
    exact ⟨source, htext ▸ hsource, hrest⟩
  · exact absurd h (not_hasModule_of_marked hlocate hfile hmarker module)

/-- The manifest says what it said in the copy. -/
theorem textAt_manifest (hi : IsSpared m copied fs) (hlocate : copied.locate p.manifestPath = .ok m) :
    fs.textAt p.manifestPath = copied.textAt p.manifestPath := by
  refine textAt_congr ((hi.locate.mpr hlocate).trans hlocate.symm) fun l hl => ?_
  rw [hlocate] at hl
  cases hl
  exact hi.manifest

end IsSpared

theorem HasOnlyMarked.write (hmarked : HasOnlyMarked copied fs) {path : Path} {text : String}
    (hmarker : hasMarker text = true) (hwrite : (fs.write path fun _ => Text.Utf8.encode text) = .ok fs') :
    HasOnlyMarked copied fs' := by
  rcases write_inv hwrite with rfl | ⟨l, -, -, hlocate, hplace, -⟩
  · exact hmarked
  · obtain ⟨executable, heq⟩ := write_eq_ok hlocate hplace (Text.Utf8.encode text)
    obtain rfl : fs' = _ := Except.ok.inj (hwrite.symm.trans heq)
    intro l'
    by_cases hl : l' = l
    · subst hl
      exact Or.inr ⟨text, executable, hmarker, find?_insert_self fs hplace.ne_nil _⟩
    · rw [find?_insert_of_ne fs hl]
      exact hmarked l'

/-- The files until children are started: the manifest is that of the copy, or it is empty,
since the log of the build is emptied. -/
structure IsReadable (m : Location) (copied fs : Files) : Prop where
  tree : fs.IsTree
  extends_ : copied.Extends fs
  here : fs.workingDirectory = copied.workingDirectory
  manifest : fs.find? m = copied.find? m ∨ ∃ executable, fs.find? m = some (.file [] executable)

theorem IsSpared.isReadable (hi : IsSpared m copied fs) : IsReadable m copied fs :=
  ⟨hi.tree, fun _ _ he hfound => (hi.ways.find?_eq he).mp hfound, hi.here, Or.inl hi.manifest⟩

theorem IsReadable.change (hi : IsReadable m copied fs)
    (hfs' : fs'.IsTree ∧ fs'.workingDirectory = fs.workingDirectory ∧ fs.Extends fs')
    (hm : fs'.find? m = fs.find? m ∨ ∃ executable, fs'.find? m = some (.file [] executable)) :
    IsReadable m copied fs' := by
  refine ⟨hfs'.1, hi.extends_.trans hfs'.2.2, hfs'.2.1.trans hi.here, ?_⟩
  rcases hm with hsame | hempty
  · rw [hsame]
    exact hi.manifest
  · exact Or.inr hempty

theorem IsReadable.makeDirectory (hi : IsReadable m copied fs) {bytes : List UInt8} {executable : Bool}
    (hm : copied.find? m = some (.file bytes executable)) {path : Path}
    (hmake : fs.makeDirectory path = .ok fs') : IsReadable m copied fs' := by
  obtain ⟨l, -, hput, rfl⟩ := hi.tree.put_of_make hmake
  have hne : m ≠ l := by
    rintro rfl
    rcases hput.place with hnone | ⟨-, hway⟩
    · rcases hi.manifest with hsame | ⟨executable', hempty⟩
      · rw [hsame, hm] at hnone
        cases hnone
      · rw [hempty] at hnone
        cases hnone
    · cases hway
  exact hi.change ⟨hi.tree.insert hput, rfl, hput.extends⟩ (Or.inl (find?_insert_of_ne fs hne _))

/-- Emptying a file may empty the manifest. -/
theorem IsReadable.empty (hi : IsReadable m copied fs) {path : Path}
    (hwrite : (fs.write path fun _ => []) = .ok fs') : IsReadable m copied fs' := by
  rcases write_inv hwrite with rfl | ⟨l, -, -, hlocate, hplace, -⟩
  · exact hi
  · obtain ⟨executable, heq⟩ := write_eq_ok hlocate hplace []
    obtain rfl : fs' = _ := Except.ok.inj (hwrite.symm.trans heq)
    have hput := hi.tree.put_file hlocate hplace [] executable
    refine hi.change ⟨hi.tree.insert hput, rfl, hput.extends⟩ ?_
    by_cases heq : m = l
    · subst heq
      exact Or.inr ⟨executable, find?_insert_self fs hplace.ne_nil _⟩
    · exact Or.inl (find?_insert_of_ne fs heq _)

/-- What the manifest says before children are started is what it said in the copy, or nothing. -/
theorem IsReadable.projectAt (hi : IsReadable m copied fs) (hlocate : copied.locate p.manifestPath = .ok m) :
    p.projectAt fs = p.projectAt copied ∨ p.projectAt fs = .ok [] := by
  have hthere : fs.locate p.manifestPath = .ok m := by
    have hstart : fs.start p.manifestPath = copied.start p.manifestPath := by
      rw [Files.start, Files.start, hi.here]
    rw [locate_eq_ok_iff, hstart]
    refine (locate_eq_ok_iff.mp hlocate).of_extends hi.extends_ fun target hlink => ?_
    rcases hi.manifest with hsame | ⟨executable', hempty⟩
    · rw [← hsame]
      exact hlink
    · rw [hempty] at hlink
      cases hlink
  rcases hi.manifest with hsame | ⟨executable', hempty⟩
  · have htext : fs.textAt p.manifestPath = copied.textAt p.manifestPath := by
      refine textAt_congr (hthere.trans hlocate.symm) fun l hl => ?_
      rw [hlocate] at hl
      cases hl
      exact hsame
    exact Or.inl (projectAt_congr htext)
  · have htext : fs.textAt p.manifestPath = .ok "" := by
      rw [textAt, Files.read, hthere]
      simp only [bind, Except.bind, hempty]
      rfl
    refine Or.inr ?_
    unfold Package.projectAt manifestAt
    rw [htext]
    rfl

end Package

end Stopwatch

/-
  The executable of a package.

  Candidates for the executable are the executable files directly in the release directory, but for
  those whose extension says that they are something else.  A file with the name of an archive is a
  candidate; it is the executable if there is no other one, and otherwise all of them are named.
-/
import Mathlib.Data.List.Nodup
import Stopwatch.Package.Build
import Stopwatch.Proofs.Files.CopyNames
import Stopwatch.Proofs.Files.Remains
import Stopwatch.Proofs.Files.Sources
import Stopwatch.Proofs.Host.Action

namespace Stopwatch

open Action

/-! ## Executable files -/

namespace Files

variable {fs fs' : Files} {p q : Path}

theorem isExecutable_iff :
    fs.isExecutable p = true ↔ ∃ l bytes, fs.locate p = .ok l ∧ fs.find? l = some (.file bytes true) := by
  rw [isExecutable, status?]
  cases fs.locate p with
  | error fault => simp
  | ok l =>
    cases hfound : fs.find? l with
    | none => simp [hfound]
    | some e => cases e <;> simp [hfound]

/-- Writing into files makes none of them lose that it may be executed. -/
theorem isExecutable_of_write {change : List UInt8 → List UInt8} (hwrite : fs.write q change = .ok fs')
    (h : fs.isExecutable p = true) : fs'.isExecutable p = true := by
  obtain ⟨l, bytes, hlocate, hfound⟩ := isExecutable_iff.mp h
  obtain ⟨bytes', hkept⟩ := find?_file_of_write hwrite hfound
  exact isExecutable_iff.mpr ⟨l, bytes', (Overwrites.of_write hwrite).locate.mpr hlocate, hkept⟩

/-- A file below a path stands, itself or as a link, in the directory to which the path leads. -/
theorem mem_list_of_isExecutable {name : String} (hname : name ≠ "..") (h : fs.isExecutable (p.child name) = true) :
    ∃ found e, fs.list p = .ok found ∧ (name, e) ∈ found := by
  obtain ⟨l, bytes, hlocate, hfound⟩ := isExecutable_iff.mp h
  rw [locate_eq_ok_iff] at hlocate
  obtain ⟨links, mid, hfront, hlast⟩ := Leads.split (List.cons_ne_nil name []) hlocate
  have hdirectory := hlast.directory_of_ne_nil (List.cons_ne_nil name [])
  have hmid : fs.locate p = .ok mid := locate_eq_ok_iff.mpr hfront
  suffices hentry : ∃ e, fs.find? (mid ++ [name]) = some e by
    obtain ⟨e, he⟩ := hentry
    refine ⟨fs.children mid, e, ?_, List.mem_filterMap.mpr ⟨(mid ++ [name], e), mem_of_find (by simp) he, ?_⟩⟩
    · rw [list, hmid]
      simp only [bind, Except.bind, hdirectory]
    · simp only [Path.namesAfter_eq_some.mpr rfl]
  -- the last name leads up, or to an entry of the directory
  cases hlast with
  | up => exact absurd rfl hname
  | into _ _ _ hrest =>
    cases hrest
    exact ⟨_, hfound⟩
  | kept _ _ hlink => exact ⟨_, hlink⟩
  | through _ _ hlink => exact ⟨_, hlink⟩

theorem exists_of_list {found : List (String × Entry)} (h : fs.list p = .ok found) : ∃ l, found = fs.children l := by
  rw [list] at h
  cases hlocate : fs.locate p with
  | error fault =>
    rw [hlocate] at h
    cases h
  | ok l =>
    simp only [hlocate, bind, Except.bind] at h
    split at h
    · exact ⟨l, (Except.ok.inj h).symm⟩
    · cases h
    · cases h

/-- No two entries of a directory have the same name. -/
theorem nodup_children (honce : fs.IsListing) (l : Location) : ((fs.children l).map Prod.fst).Nodup := by
  refine List.pairwise_map.mpr (List.Pairwise.filterMap _ ?_ (List.pairwise_map.mp honce))
  rintro ⟨l₁, e₁⟩ ⟨l₂, e₂⟩ hne child hchild child' hchild' heq
  dsimp only at hne hchild hchild'
  split at hchild
  · rename_i name hafter
    split at hchild'
    · rename_i name' hafter'
      cases hchild
      cases hchild'
      have hsame : name = name' := heq
      exact hne (by rw [Path.namesAfter_eq_some.mp hafter, Path.namesAfter_eq_some.mp hafter', hsame])
    · cases hchild'
  · cases hchild

end Files

namespace Package

variable {p : Package} {fs : Files} {host h h' : Host} {target : Path}

/-! ## The name of the archive -/

/-- The name of an archive is a proper name. -/
theorem isName_archive (name : String) : Path.IsName (safeName name ++ ".pyz") := by
  have hlength (short : String) (hshort : short.toList.length < 4) : safeName name ++ ".pyz" ≠ short := by
    intro heq
    rw [← heq, String.toList_append, List.length_append] at hshort
    exact absurd hshort (Nat.not_lt.mpr (Nat.le_add_left 4 _))
  refine ⟨hlength "" (by decide), hlength "." (by decide), ?_⟩
  rw [String.toList_append, List.mem_append, not_or]
  refine ⟨fun hslash => ?_, by decide⟩
  rw [safeName] at hslash
  split at hslash
  · revert hslash
    decide
  · rw [String.toList_ofList, List.mem_map] at hslash
    obtain ⟨c, -, hc⟩ := hslash
    split at hc
    · rename_i hallowed
      rw [hc] at hallowed
      revert hallowed
      decide
    · revert hc
      decide

theorem archive_ne_up (name : String) : safeName name ++ ".pyz" ≠ ".." := by
  intro heq
  have hlength := congrArg (fun s => s.toList.length) heq
  simp at hlength

/-- The extension of an archive is not that of other files. -/
theorem otherExtensions_archive (directory : Path) (name : String) :
    otherExtensions.contains (directory.child (safeName name ++ ".pyz")).extension = false := by
  have hfront : (safeName name).toList ≠ [] := by
    rw [safeName]
    split
    · decide
    · rename_i hne
      rw [String.toList_ofList]
      exact fun hnil => hne (String.toList_eq_nil_iff.mp (List.map_eq_nil_iff.mp hnil))
  have hext : (directory.child (safeName name ++ ".pyz")).extension = ".pyz" := by
    rw [Path.extension, Path.name, Path.child, List.getLast?_concat, Option.getD_some, String.toList_append]
    change String.ofList (Path.splitExtension ((safeName name).toList ++ '.' :: ['p', 'y', 'z'])).2 = ".pyz"
    rw [Path.splitExtension_of_dot (by decide), if_pos ⟨hfront, by decide⟩]
  rw [hext]
  decide

/-! ## Candidates -/

theorem exists_of_mem_candidates {path : Path} (hmem : path ∈ p.candidates fs) :
    ∃ name, path = p.releaseDirectory.child name ∧ isCandidate fs path = true := by
  rw [candidates] at hmem
  split at hmem
  · cases hmem
  · obtain ⟨hmem, hcandidate⟩ := List.mem_filter.mp hmem
    obtain ⟨e, -, rfl⟩ := List.mem_map.mp (List.mem_mergeSort.mp hmem)
    exact ⟨e.1, rfl, hcandidate⟩

theorem mem_candidates {name : String} (hname : name ≠ "..")
    (hcandidate : isCandidate fs (p.releaseDirectory.child name) = true) :
    p.releaseDirectory.child name ∈ p.candidates fs := by
  have hexecutable : fs.isExecutable (p.releaseDirectory.child name) = true := (Bool.and_eq_true_iff.mp hcandidate).1
  obtain ⟨found, e, hlist, hmem⟩ := Files.mem_list_of_isExecutable hname hexecutable
  rw [candidates, hlist]
  exact List.mem_filter.mpr ⟨List.mem_mergeSort.mpr (List.mem_map.mpr ⟨(name, e), hmem, rfl⟩), hcandidate⟩

/-- No candidate is listed twice. -/
theorem nodup_candidates (honce : fs.IsListing) : (p.candidates fs).Nodup := by
  rw [candidates]
  split
  · exact List.Pairwise.nil
  · rename_i found hlist
    obtain ⟨l, rfl⟩ := Files.exists_of_list hlist
    refine List.Nodup.filter _ ((List.mergeSort_perm _ _).nodup_iff.mpr ?_)
    refine List.pairwise_map.mpr ((List.pairwise_map.mp (Files.nodup_children honce l)).imp fun hne heq => hne ?_)
    simpa [Path.child] using heq

/-- What is chosen as the executable among the candidates when the archive is one of them. -/
inductive Chosen (p : Package) (fs : Files) (target : Path) : Except Failure Path → Prop
  /-- There is no other candidate. -/
  | alone (halone : ∀ path ∈ p.candidates fs, path = target) : Chosen p fs target (.ok target)
  /-- There is another one, and all of them are named. -/
  | several {other : Path} (hmem : other ∈ p.candidates fs) (hne : other ≠ target) :
      Chosen p fs target
        (.error (.problem (.severalExecutables p.config.releaseDirectory ((p.candidates fs).map (·.name)))))

theorem chosen_of_mem (honce : host.files.IsListing) (hmem : target ∈ p.candidates host.files) :
    p.Chosen host.files target (p.findExecutable host).1 := by
  suffices hends : Ends p.findExecutable host fun r _ => p.Chosen host.files target r from hends
  have hnodup := nodup_candidates (p := p) honce
  rw [findExecutable, ends_bind, ends_get]
  dsimp only
  rcases hcandidates : p.candidates host.files with _ | ⟨first, _ | ⟨second, rest⟩⟩
  · rw [hcandidates] at hmem
    cases hmem
  · rw [hcandidates] at hmem
    obtain rfl := List.mem_singleton.mp hmem
    exact .alone fun path hpath => List.mem_singleton.mp (hcandidates ▸ hpath)
  · have hnamed : p.Chosen host.files target (.error (.problem
        (.severalExecutables p.config.releaseDirectory ((p.candidates host.files).map (·.name))))) := by
      rw [hcandidates] at hnodup
      by_cases hfirst : first = target
      · refine .several (show second ∈ _ by rw [hcandidates]; simp) fun hsecond => ?_
        exact (List.nodup_cons.mp hnodup).1 (by simp [hfirst, hsecond])
      · exact .several (show first ∈ _ by rw [hcandidates]; simp) hfirst
    rw [hcandidates] at hnamed
    exact hnamed

/-- Looking for the executable changes nothing. -/
theorem host_findExecutable (p : Package) (host : Host) : (p.findExecutable host).2 = host := by
  suffices hends : Ends p.findExecutable host fun _ h => h = host from hends
  rw [findExecutable, ends_bind, ends_get]
  dsimp only
  split <;> rfl

/-- Where there are two candidates for the executable, none is found. -/
theorem ends_locate_of_two {first second : Path} (hfirst : first ∈ p.candidates host.files)
    (hsecond : second ∈ p.candidates host.files) (hne : first ≠ second) :
    Ends (stage "locate" p.findExecutable) host fun r h => h.spawned = host.spawned ∧ ∃ f, r = .error f := by
  refine ends_stage_aside (fun _ _ _ hr => hr) fun pipeline => ?_
  rw [findExecutable, ends_bind, ends_get]
  dsimp only
  split
  · exact ⟨rfl, _, rfl⟩
  · rename_i path hpath
    rw [hpath, List.mem_singleton] at hfirst hsecond
    exact absurd (hfirst.trans hsecond.symm) hne
  · exact ⟨rfl, _, rfl⟩

end Package

end Stopwatch

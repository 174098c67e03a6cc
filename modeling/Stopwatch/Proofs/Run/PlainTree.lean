/-
  The tree of a run.

  A run on files is about a tree: everything below its input, and the copies of its sources.
  If that holds directories and regular files only, each source stands where its path says,
  and its copy beside it; no copy is a source, and no two sources have the same copy.
-/
import Stopwatch.Proofs.Files.CopyNames
import Stopwatch.Proofs.Files.Sources
import Stopwatch.Proofs.Run.SingleFiles

namespace Stopwatch

open Action Files

namespace Run

variable {r : Run} {root dir : Location} {fs : Files} {path : Path} {name : String} {l : Location}

/-- The tree of a run: everything below the location of the input, and the copies. -/
def Holds (r : Run) (root : Location) (fs : Files) (l : Location) : Prop :=
  root <+: l ∨ ∃ path ∈ r.paths fs, fs.locateLink (r.copyPath path) = .ok l

/-- The name of the copy of a source. -/
def copyNameOf (r : Run) (name : String) : String :=
  String.ofList (copyName r.config.instrumentedSuffix.toList name.toList)

/-- The input stands at a location of its own, and its tree holds directories and regular files
only. -/
structure IsPlain (r : Run) (root : Location) (fs : Files) : Prop where
  tree : fs.IsTree
  once : fs.IsListing
  proper : r.input.IsProper
  own : fs.locateLink r.input = .ok root
  located : fs.locate r.input = .ok root
  regular : ∀ l, r.Holds root fs l → ∀ e, fs.find? l = some e →
    e = .directory ∨ ∃ bytes executable, e = .file bytes executable
  /-- The copy of a source that is named by its extension alone does not look like a source. -/
  hidden : ∀ dirs, dirs ++ [".py"] ∈ fs.sourceNames root r.config.instrumentedSuffix →
    ¬sourceExtension <:+ r.config.instrumentedSuffix.toList

/-- A source and its copy, both in one directory. -/
structure Stands (r : Run) (fs : Files) (path : Path) (dir : Location) (name : String) : Prop where
  directory : fs.find? dir = some .directory
  own : fs.locateLink path = .ok (dir ++ [name])
  located : fs.locate path = .ok (dir ++ [name])
  copy_own : fs.locateLink (r.copyPath path) = .ok (dir ++ [r.copyNameOf name])
  copy : fs.locate (r.copyPath path) = .ok (dir ++ [r.copyNameOf name])
  copy_eq : r.copyPath path = path.parent.child (r.copyNameOf name)
  copy_ne : r.copyNameOf name ≠ ".."

theorem IsPlain.no_link (h : r.IsPlain root fs) (hl : r.Holds root fs l) (target : String) :
    fs.find? l ≠ some (.link target) := by
  intro hlink
  rcases h.regular l hl _ hlink with heq | ⟨bytes, executable, heq⟩
  · cases heq
  · cases heq

/-! ## Names of copies -/

/-- The name of a copy is longer than that of its source. -/
theorem length_copyNameOf (r : Run) (name : String) :
    (r.copyNameOf name).toList.length = name.toList.length + r.config.instrumentedSuffix.toList.length := by
  rw [copyNameOf, String.toList_ofList, length_copyName]

theorem length_suffix_pos (hsuffix : r.config.instrumentedSuffix ≠ "") :
    0 < r.config.instrumentedSuffix.toList.length := by
  apply List.length_pos_iff.mpr
  intro hnil
  exact hsuffix (String.toList_eq_nil_iff.mp hnil)

theorem copyNameOf_ne_self (hsuffix : r.config.instrumentedSuffix ≠ "") (name : String) :
    r.copyNameOf name ≠ name := by
  intro heq
  have hlength := r.length_copyNameOf name
  have hpos := length_suffix_pos hsuffix
  rw [heq] at hlength
  omega

/-- The name of a copy does not lead up. -/
theorem copyNameOf_ne_up (hsuffix : r.config.instrumentedSuffix ≠ "") (hempty : name ≠ "") (hdot : name ≠ ".") :
    r.copyNameOf name ≠ ".." := by
  intro heq
  have hlength := r.length_copyNameOf name
  have hpos := length_suffix_pos hsuffix
  have hpos' : 0 < name.toList.length :=
    List.length_pos_iff.mpr fun hnil => hempty (String.toList_eq_nil_iff.mp hnil)
  -- so the name is a single character of the copy's name, hence a dot
  have hone : name.toList.length = 1 := by
    rw [heq] at hlength
    change 2 = _ at hlength
    omega
  obtain ⟨c, hc⟩ := List.length_eq_one_iff.mp hone
  have hmem : c ∈ copyName r.config.instrumentedSuffix.toList name.toList := by
    have hin : c ∈ (Path.splitExtension name.toList).1 ++ (Path.splitExtension name.toList).2 := by
      rw [Path.splitExtension_append, hc]
      exact List.mem_singleton_self c
    rw [copyName]
    rcases List.mem_append.mp hin with hin | hin
    · exact List.mem_append_left _ (List.mem_append_left _ hin)
    · exact List.mem_append_right _ hin
  have hlist := String.toList_inj.mpr heq
  rw [copyNameOf, String.toList_ofList] at hlist
  rw [hlist] at hmem
  have hdot' : c = '.' := by simpa using hmem
  exact hdot (String.toList_inj.mp (by rw [hc, hdot']; rfl))

/-- A name that ends as sources do is neither empty nor a dot. -/
theorem ne_of_sourceExtension (hname : sourceExtension <:+ name.toList) : name ≠ "" ∧ name ≠ "." := by
  constructor
  · rintro rfl
    exact absurd hname (by decide)
  · rintro rfl
    exact absurd hname (by decide)

/-! ## Sources and copies -/

/-- A name of its own in a directory, and the name of its copy there. -/
theorem stands_of_leads (hsuffix : r.config.instrumentedSuffix ≠ "") {anchor : Anchor} {front : List String}
    (hempty : name ≠ "") (hdot : name ≠ ".") (hup : name ≠ "..")
    (hfront : Leads fs true maxLinks (fs.start ⟨anchor, front⟩) front dir) (hdir : fs.find? dir = some .directory)
    (hlink : ∀ target, fs.find? (dir ++ [name]) ≠ some (.link target))
    (hcopy : ∀ target, fs.find? (dir ++ [r.copyNameOf name]) ≠ some (.link target)) :
    r.Stands fs ⟨anchor, front ++ [name]⟩ dir name := by
  have hcopyUp := copyNameOf_ne_up hsuffix hempty hdot
  have hpath : r.copyPath ⟨anchor, front ++ [name]⟩ = ⟨anchor, front ++ [r.copyNameOf name]⟩ :=
    copyPath_eq r anchor front name
  constructor
  · exact hdir
  · exact locateLink_eq_ok_iff.mpr (hfront.concat_own hdir hup)
  · exact locate_eq_ok_iff.mpr (hfront.concat hdir hup hlink)
  · rw [hpath]
    exact locateLink_eq_ok_iff.mpr (hfront.concat_own hdir hcopyUp)
  · rw [hpath]
    exact locate_eq_ok_iff.mpr (hfront.concat hdir hcopyUp hcopy)
  · rw [hpath, Path.parent, Path.child, List.dropLast_concat]
  · exact hcopyUp

/-- The input alone, or a source below it. -/
inductive SourceAt (r : Run) (root : Location) (fs : Files) (path : Path) (dir : Location) (name : String) : Prop
  | file (hpath : path = r.input) (hroot : root = dir ++ [name]) (hfile : fs.isFile r.input = true)
  | below (dirs : List String) (hfile : fs.isFile r.input = false) (hroot : fs.find? root = some .directory)
      (hnames : dirs ++ [name] ∈ fs.sourceNames root r.config.instrumentedSuffix) (hdir : dir = root ++ dirs)
      (hpath : path = ⟨r.input.anchor, r.input.names ++ (dirs ++ [name])⟩)

/-- A path that leads to a file does so by its last name. -/
theorem IsPlain.names_of_file (h : r.IsPlain root fs) (hfile : fs.isFile r.input = true) :
    ∃ front name mid, r.input.names = front ++ [name] ∧ name ≠ ".." ∧ root = mid ++ [name] ∧
      fs.find? mid = some .directory ∧ Leads fs true maxLinks (fs.start r.input) front mid := by
  have hfound : ∃ bytes executable, fs.find? root = some (.file bytes executable) := by
    rw [isFile, status?, h.located] at hfile
    dsimp only at hfile
    split at hfile
    · rename_i bytes executable heq
      exact ⟨bytes, executable, heq⟩
    · cases hfile
  obtain ⟨bytes, executable, hfound⟩ := hfound
  have hown := locateLink_eq_ok_iff.mp h.own
  rcases List.eq_nil_or_concat r.input.names with hnil | ⟨front, name, hnames⟩
  · -- without a name the path leads to a directory
    rw [hnil] at hown
    cases hown
    rw [h.tree.directory_start] at hfound
    cases hfound
  · rw [List.concat_eq_append] at hnames
    rw [hnames] at hown
    obtain ⟨mid, hmid, hdirectory, hlast⟩ := hown.concat_inv
    rcases hlast with ⟨-, hroot⟩ | ⟨hup, hroot⟩
    · have habove : fs.find? root = some .directory := by
        by_cases hnil : mid = []
        · rw [hroot, hnil]
          rfl
        · rw [hroot]
          exact h.tree.parents mid _ hnil hdirectory
      rw [habove] at hfound
      cases hfound
    · exact ⟨front, name, mid, hnames, hup, hroot, hdirectory, hmid⟩

/-- Where the sources of a run are. -/
theorem IsPlain.exists_sourceAt (h : r.IsPlain root fs) (hpath : path ∈ r.paths fs) :
    ∃ dir name, r.SourceAt root fs path dir name := by
  rcases mem_sources.mp hpath with ⟨hfile, rfl⟩ | ⟨hfile, l, names, hlocate, hdirectory, hnames, rfl⟩
  · obtain ⟨front, name, mid, -, -, hroot, -⟩ := h.names_of_file hfile
    exact ⟨mid, name, .file rfl hroot hfile⟩
  · obtain rfl : root = l := Except.ok.inj (h.located.symm.trans hlocate)
    obtain ⟨dirs, name, rfl, -⟩ := exists_name_of_isSource (mem_sourceNames.mp hnames).1
    exact ⟨root ++ dirs, name, .below dirs hfile hdirectory hnames rfl rfl⟩

theorem SourceAt.mem_paths (hat : r.SourceAt root fs path dir name) (h : r.IsPlain root fs) : path ∈ r.paths fs := by
  apply mem_sources.mpr
  cases hat with
  | file hpath _ hfile => exact Or.inl ⟨hfile, hpath⟩
  | below dirs hfile hroot hnames _ hpath => exact Or.inr ⟨hfile, root, _, h.located, hroot, hnames, hpath⟩

/-- A source lies in the tree. -/
theorem SourceAt.holds (hat : r.SourceAt root fs path dir name) : r.Holds root fs (dir ++ [name]) := by
  left
  cases hat with
  | file _ hroot => exact hroot ▸ List.prefix_refl _
  | below dirs _ _ _ hdir =>
    rw [hdir, List.append_assoc]
    exact List.prefix_append _ _

/-- A source stands where its path says, and so will its copy. -/
theorem SourceAt.stands (hat : r.SourceAt root fs path dir name) (h : r.IsPlain root fs)
    (hsuffix : r.config.instrumentedSuffix ≠ "") : r.Stands fs path dir name := by
  have hlink := h.no_link hat.holds
  cases hat with
  | file hpath hroot hfile =>
    obtain ⟨front, name', mid, hnames, hup, hroot', hdirectory, hfront⟩ := h.names_of_file hfile
    rw [hroot] at hroot'
    obtain ⟨rfl, heq⟩ := List.append_inj' hroot' rfl
    obtain rfl : name = name' := List.singleton_inj.mp heq
    have hname := h.proper name (by rw [hnames]; simp)
    have hinput : r.input = ⟨r.input.anchor, front ++ [name]⟩ := by rw [← hnames]
    have hcopyUp := copyNameOf_ne_up hsuffix hname.ne_empty hname.ne_dot
    -- the copy belongs to the tree, so no link stands there either
    have hcopy : r.Holds root fs (dir ++ [r.copyNameOf name]) := by
      refine Or.inr ⟨r.input, mem_sources.mpr (Or.inl ⟨hfile, rfl⟩), ?_⟩
      rw [hinput, copyPath_eq]
      exact locateLink_eq_ok_iff.mpr (hfront.concat_own hdirectory hcopyUp)
    rw [hpath, hinput]
    exact stands_of_leads hsuffix hname.ne_empty hname.ne_dot hup hfront hdirectory hlink (h.no_link hcopy)
  | below dirs hfile hroot hnames hdir hpath =>
    obtain ⟨hsource, e, he⟩ := mem_sourceNames.mp hnames
    have hfound := h.tree.found _ he
    obtain ⟨hempty, hdot⟩ := ne_of_sourceExtension (isSource_iff.mp hsource).1
    have hup := h.tree.not_up_of_mem_sourceNames hnames
    rw [List.mem_append, List.mem_singleton, not_or] at hup
    have hwhole : root ++ dirs ++ [name] = root ++ (dirs ++ [name]) := List.append_assoc _ _ _
    have hdirectories (begun : List String) (hbegun : begun <+: dirs) :
        fs.find? (root ++ begun) = some .directory := by
      obtain ⟨rest, rfl⟩ := hbegun
      refine h.tree.directory_of_prefix hfound ⟨rest ++ [name], by simp⟩ fun heq => ?_
      have hlength := congrArg List.length heq
      simp only [List.length_append, List.length_singleton] at hlength
      omega
    have hfront := (locate_eq_ok_iff.mp h.located).append_directories hup.1 hdirectories
    rw [hpath, ← List.append_assoc, hdir]
    have hdirectory : fs.find? (root ++ dirs) = some .directory := hdirectories dirs (List.prefix_refl _)
    refine stands_of_leads hsuffix hempty hdot (Ne.symm hup.2) hfront hdirectory (hdir ▸ hlink) ?_
    apply h.no_link
    left
    rw [List.append_assoc]
    exact List.prefix_append _ _

/-! ## Sources and copies are apart -/

theorem IsPlain.hidden_of_mem (h : r.IsPlain root fs) {dirs : List String}
    (hnames : dirs ++ [name] ∈ fs.sourceNames root r.config.instrumentedSuffix) :
    name = ".py" → ¬sourceExtension <:+ r.config.instrumentedSuffix.toList := by
  rintro rfl
  exact h.hidden dirs hnames

/-- No copy stands where a source does. -/
theorem SourceAt.copy_ne {path' : Path} {dir' : Location} {name' : String} (h : r.IsPlain root fs)
    (hsuffix : r.config.instrumentedSuffix ≠ "") (hat : r.SourceAt root fs path dir name)
    (hat' : r.SourceAt root fs path' dir' name') : dir ++ [r.copyNameOf name] ≠ dir' ++ [name'] := by
  intro heq
  cases hat with
  | file _ hroot hfile =>
    cases hat' with
    | file _ hroot' _ =>
      have hself := heq.trans (hroot'.symm.trans hroot)
      obtain ⟨-, hsame⟩ := List.append_inj' hself rfl
      exact copyNameOf_ne_self hsuffix name (List.singleton_inj.mp hsame)
    | below _ hfile' =>
      rw [hfile] at hfile'
      cases hfile'
  | below dirs hfile _ hnames hdir =>
    cases hat' with
    | file _ _ hfile' =>
      rw [hfile] at hfile'
      cases hfile'
    | below dirs' _ _ hnames' hdir' =>
      rw [hdir, hdir', List.append_assoc, List.append_assoc] at heq
      have hsource := (mem_sourceNames.mp hnames').1
      rw [← List.append_cancel_left heq] at hsource
      have hextension := (isSource_iff.mp (mem_sourceNames.mp hnames).1).1
      have hcopy := isSource_copyName hsuffix hextension (h.hidden_of_mem hnames) dirs
      rw [copyNameOf, hcopy] at hsource
      cases hsource

/-- Two sources have different copies. -/
theorem SourceAt.copy_inj {path' : Path} {dir' : Location} {name' : String} (hat : r.SourceAt root fs path dir name)
    (hat' : r.SourceAt root fs path' dir' name') (heq : dir ++ [r.copyNameOf name] = dir' ++ [r.copyNameOf name']) :
    path = path' := by
  cases hat with
  | file hpath _ hfile =>
    cases hat' with
    | file hpath' => rw [hpath, hpath']
    | below _ hfile' =>
      rw [hfile] at hfile'
      cases hfile'
  | below dirs hfile _ hnames hdir hpath =>
    cases hat' with
    | file _ _ hfile' =>
      rw [hfile] at hfile'
      cases hfile'
    | below dirs' _ _ hnames' hdir' hpath' =>
      rw [hdir, hdir', List.append_assoc, List.append_assoc] at heq
      obtain ⟨rfl, hlast⟩ := List.append_inj' (List.append_cancel_left heq) rfl
      have hsame := String.toList_inj.mpr (List.singleton_inj.mp hlast)
      rw [copyNameOf, copyNameOf, String.toList_ofList, String.toList_ofList] at hsame
      have hextension := (isSource_iff.mp (mem_sourceNames.mp hnames).1).1
      have hextension' := (isSource_iff.mp (mem_sourceNames.mp hnames').1).1
      rw [hpath, hpath', String.toList_inj.mp (copyName_inj hextension hextension' hsame)]

/-- No copy is a source. -/
theorem IsPlain.copyPath_not_mem (h : r.IsPlain root fs) (hsuffix : r.config.instrumentedSuffix ≠ "")
    (hpath : path ∈ r.paths fs) : r.copyPath path ∉ r.paths fs := by
  intro hcopy
  obtain ⟨dir, name, hat⟩ := h.exists_sourceAt hpath
  obtain ⟨dir', name', hat'⟩ := h.exists_sourceAt hcopy
  have hhere := (hat.stands h hsuffix).copy
  have hthere := (hat'.stands h hsuffix).located
  exact hat.copy_ne h hsuffix hat' (Except.ok.inj (hhere.symm.trans hthere))

end Run

end Stopwatch

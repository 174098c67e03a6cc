/-
  What is found below a directory.

  Sources are told by their names alone.  So whatever stands below a directory under the name
  of a source is found, also a directory or a pipe, and a link wherever it leads; what is
  found are files only if nothing else bears such a name.
-/
import Stopwatch.Proofs.Files.CopyNames
import Stopwatch.Proofs.Files.Sources

namespace Stopwatch

/-- Directories and a name in the last of them that are those of a source: the name ends in
`.py`, its stem does not end as that of an instrumented copy, and none of the directories is hidden
or holds caches. -/
structure IsSourceName (suffix : String) (dirs : List String) (name : String) : Prop where
  extension : ".py".toList <:+ name.toList
  own : ¬suffix.toList <:+ (Path.splitExtension name.toList).1
  searched : ∀ dir ∈ dirs, dir ∉ skippedDirectories ∧ dir.toList.head? ≠ some '.'

theorem not_any_isSkipped {dirs : List String} :
    dirs.any isSkipped = false ↔ ∀ dir ∈ dirs, dir ∉ skippedDirectories ∧ dir.toList.head? ≠ some '.' := by
  simp [isSkipped]

theorem isSource_concat {suffix : String} {dirs : List String} {name : String} :
    isSource suffix (dirs ++ [name]) = true ↔ IsSourceName suffix dirs name := by
  rw [isSource_iff, not_any_isSkipped]
  exact ⟨fun ⟨hextension, hown, hsearched⟩ => ⟨hextension, hown, hsearched⟩, fun h => ⟨h.extension, h.own, h.searched⟩⟩

namespace Files

variable {fs : Files} {root p : Path} {suffix : String} {l : Location} {dirs : List String} {name : String}

/-- Where a path leads to a directory, it leads to no file. -/
theorem isFile_of_directory (hroot : fs.locate root = .ok l) (hdirectory : fs.find? l = some .directory) :
    fs.isFile root = false := by
  simp only [isFile, status?, hroot, hdirectory]

/-- Below a directory all that stands under the name of a source is found. -/
theorem mem_sources_below (h : fs.IsTree) (hroot : fs.locate root = .ok l) (hdirectory : fs.find? l = some .directory) :
    p ∈ fs.sources root suffix ↔ ∃ dirs name e, p = ⟨root.anchor, root.names ++ (dirs ++ [name])⟩ ∧
      fs.find? (l ++ (dirs ++ [name])) = some e ∧ IsSourceName suffix dirs name := by
  have hbelow (dirs : List String) (name : String) : dirs ++ [name] ∈ fs.sourceNames l suffix ↔
      IsSourceName suffix dirs name ∧ ∃ e, fs.find? (l ++ (dirs ++ [name])) = some e := by
    rw [mem_sourceNames, isSource_concat, exists_mem_entries_iff h (by simp), Option.ne_none_iff_exists']
  -- the root is no file, so only the search below it can find something
  rw [mem_sources, isFile_of_directory hroot hdirectory]
  constructor
  · rintro (⟨hfile, -⟩ | ⟨-, l', names, hlocate, -, hnames, rfl⟩)
    · cases hfile
    · obtain rfl := Except.ok.inj (hroot.symm.trans hlocate)
      obtain ⟨dirs, name, rfl, -⟩ := exists_name_of_isSource (mem_sourceNames.mp hnames).1
      obtain ⟨hname, e, he⟩ := (hbelow dirs name).mp hnames
      exact ⟨dirs, name, e, rfl, he, hname⟩
  · rintro ⟨dirs, name, e, rfl, he, hname⟩
    exact Or.inr ⟨rfl, l, dirs ++ [name], hroot, hdirectory, (hbelow dirs name).mpr ⟨hname, e, he⟩, rfl⟩

/-- What stands below a directory, if it is no link, is where its path leads. -/
theorem IsTree.locate_below (h : fs.IsTree) (hroot : fs.locate root = .ok l) {e : Entry}
    (he : fs.find? (l ++ (dirs ++ [name])) = some e) (hlink : ∀ target, e ≠ .link target) :
    fs.locate ⟨root.anchor, root.names ++ (dirs ++ [name])⟩ = .ok (l ++ (dirs ++ [name])) := by
  have hup := h.not_up he
  simp only [List.mem_append, List.mem_singleton, not_or] at hup
  have habove (begun : List String) (hbegun : begun <+: dirs) : fs.find? (l ++ begun) = some .directory :=
    h.directory_above (mem_of_find (by simp) he) hbegun
  rw [locate_eq_ok_iff] at hroot ⊢
  -- the path leads through its directories, and then to the entry itself
  have hdirs := hroot.append_directories hup.2.1 habove
  rw [← List.append_assoc, ← List.append_assoc]
  refine hdirs.concat (habove dirs (List.prefix_refl _)) (Ne.symm hup.2.2) fun target hfound => ?_
  rw [List.append_assoc, he] at hfound
  exact hlink target (Option.some.inj hfound)

/-- An entry below a directory that is no link leads to a file if it is one. -/
theorem IsTree.isFile_below (h : fs.IsTree) (hroot : fs.locate root = .ok l) {e : Entry}
    (he : fs.find? (l ++ (dirs ++ [name])) = some e) (hlink : ∀ target, e ≠ .link target) :
    fs.isFile ⟨root.anchor, root.names ++ (dirs ++ [name])⟩ = true ↔ ∃ bytes executable, e = .file bytes executable := by
  simp only [isFile, status?, h.locate_below hroot he hlink, he]
  cases e <;> simp

/-- Only files are found if nothing but files and links to one bears the name of a source. -/
theorem IsTree.forall_isFile_iff (h : fs.IsTree) (hroot : fs.locate root = .ok l)
    (hdirectory : fs.find? l = some .directory) (suffix : String) :
    (∀ p ∈ fs.sources root suffix, fs.isFile p = true) ↔
      ∀ dirs name e, fs.find? (l ++ (dirs ++ [name])) = some e → IsSourceName suffix dirs name →
        (∃ bytes executable, e = .file bytes executable) ∨
        (∃ target, e = .link target) ∧ fs.isFile ⟨root.anchor, root.names ++ (dirs ++ [name])⟩ = true := by
  constructor
  · intro hall dirs name e he hname
    have hfile := hall _ ((mem_sources_below h hroot hdirectory).mpr ⟨dirs, name, e, rfl, he, hname⟩)
    by_cases hlink : ∃ target, e = .link target
    · exact Or.inr ⟨hlink, hfile⟩
    · exact Or.inl ((h.isFile_below hroot he fun target heq => hlink ⟨target, heq⟩).mp hfile)
  · intro hall p hp
    obtain ⟨dirs, name, e, rfl, he, hname⟩ := (mem_sources_below h hroot hdirectory).mp hp
    rcases hall dirs name e he hname with ⟨bytes, executable, rfl⟩ | ⟨-, hleads⟩
    · exact (h.isFile_below hroot he fun target heq => by cases heq).mpr ⟨bytes, executable, rfl⟩
    · exact hleads

/-- Nothing is found if nothing bears the name of a source. -/
theorem sources_eq_nil_iff (h : fs.IsTree) (hroot : fs.locate root = .ok l)
    (hdirectory : fs.find? l = some .directory) (suffix : String) :
    fs.sources root suffix = [] ↔ ∀ dirs name, IsSourceName suffix dirs name → fs.find? (l ++ (dirs ++ [name])) = none := by
  rw [List.eq_nil_iff_forall_not_mem]
  constructor
  · intro hempty dirs name hname
    by_contra hfound
    obtain ⟨e, he⟩ := Option.ne_none_iff_exists'.mp hfound
    exact hempty _ ((mem_sources_below h hroot hdirectory).mpr ⟨dirs, name, e, rfl, he, hname⟩)
  · intro hnone p hp
    obtain ⟨dirs, name, e, -, he, hname⟩ := (mem_sources_below h hroot hdirectory).mp hp
    rw [hnone dirs name hname] at he
    cases he

/-- The sources under a directory are listed in the order of their paths, none of them twice: these
are all entries below it under the name of a source.  Those that are links lead to a file or not, all
others are files, directories or pipes; so only files are found if and only if nothing but files and
links to one bears such a name, and nothing is found if and only if no entry bears one. -/
theorem sources_of_directory (h : fs.IsTree) (honce : fs.IsListing) (hroot : fs.locate root = .ok l)
    (hdirectory : fs.find? l = some .directory) (suffix : String) :
    ((fs.sources root suffix).Pairwise fun p q => p.le q = true ∧ p ≠ q) ∧
    (∀ p, p ∈ fs.sources root suffix ↔ ∃ dirs name e, p = ⟨root.anchor, root.names ++ (dirs ++ [name])⟩ ∧
      fs.find? (l ++ (dirs ++ [name])) = some e ∧ IsSourceName suffix dirs name) ∧
    (∀ dirs name e, fs.find? (l ++ (dirs ++ [name])) = some e → (∀ target, e ≠ .link target) →
      (fs.isFile ⟨root.anchor, root.names ++ (dirs ++ [name])⟩ = true ↔ ∃ bytes executable, e = .file bytes executable)) ∧
    ((∀ p ∈ fs.sources root suffix, fs.isFile p = true) ↔
      ∀ dirs name e, fs.find? (l ++ (dirs ++ [name])) = some e → IsSourceName suffix dirs name →
        (∃ bytes executable, e = .file bytes executable) ∨
        (∃ target, e = .link target) ∧ fs.isFile ⟨root.anchor, root.names ++ (dirs ++ [name])⟩ = true) ∧
    (fs.sources root suffix = [] ↔
      ∀ dirs name, IsSourceName suffix dirs name → fs.find? (l ++ (dirs ++ [name])) = none) :=
  ⟨(pairwise_sources fs root suffix).and (nodup_sources honce root suffix),
    fun _ => mem_sources_below h hroot hdirectory,
    fun _ _ _ he hlink => h.isFile_below hroot he hlink,
    h.forall_isFile_iff hroot hdirectory suffix,
    sources_eq_nil_iff h hroot hdirectory suffix⟩

/-- A directory with a source and its copy, a directory under the name of a source and a hidden
directory. -/
def namedFiles : Files where
  entries :=
    [(["a"], .directory), (["a", "x.py"], .directory), (["a", "y.py"], .file [] false),
     (["a", "y_instrumented.py"], .file [] false), (["a", ".git"], .directory), (["a", ".git", "z.py"], .file [] false)]
  workingDirectory := []

theorem isTree_named : namedFiles.IsTree := by
  decide

theorem locate_named : namedFiles.locate ⟨.relative, ["a"]⟩ = .ok ["a"] := by
  decide

theorem isSourceName_named : IsSourceName "_instrumented" [] "x.py" where
  extension := by decide
  own := by decide
  searched := by simp

theorem sources_of_directory_named :
    (namedFiles.IsTree ∧ namedFiles.IsListing ∧ namedFiles.locate ⟨.relative, ["a"]⟩ = .ok ["a"] ∧
      namedFiles.find? ["a"] = some .directory) ∧
    ((namedFiles.sources ⟨.relative, ["a"]⟩ "_instrumented").Pairwise fun p q => p.le q = true ∧ p ≠ q) ∧
    (⟨.relative, ["a", "x.py"]⟩ : Path) ∈ namedFiles.sources ⟨.relative, ["a"]⟩ "_instrumented" ∧
    namedFiles.sources ⟨.relative, ["a"]⟩ "_instrumented" ≠ [] := by
  obtain ⟨hordered, hall, -, -, hempty⟩ :=
    sources_of_directory isTree_named (by decide) locate_named (by decide) "_instrumented"
  refine ⟨⟨isTree_named, by decide, locate_named, by decide⟩, hordered,
    (hall _).mpr ⟨[], "x.py", .directory, rfl, by decide, isSourceName_named⟩, fun hnil => ?_⟩
  exact absurd (hempty.mp hnil [] "x.py" isSourceName_named) (by decide)

/-- A directory under the name of a source is found as one. -/
theorem sources_list_directory :
    (⟨.relative, ["a", "x.py"]⟩ : Path) ∈ namedFiles.sources ⟨.relative, ["a"]⟩ "_instrumented" ∧
      namedFiles.isFile ⟨.relative, ["a", "x.py"]⟩ = false :=
  ⟨(mem_sources_below isTree_named locate_named (by decide)).mpr
    ⟨[], "x.py", .directory, rfl, by decide, isSourceName_named⟩, by decide⟩

end Files

end Stopwatch

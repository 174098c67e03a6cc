/-
  The launcher of a package.

  A package that names no entry starts at the one source with a guard for the main program.
  The launcher names the module of this source, as it is imported from the root of the
  sources: each part of the dotted name but the last one is a directory, and the last one
  is a directory with an `__init__.py`, or else a file.

  The name leads back to the source, but for three cases.  An `__init__.py` at the root
  itself has no name, a dot in a directory or in a stem is taken for one between two parts,
  and a file beside a directory of its name that holds an `__init__.py` is hidden by it.
  `moduleFile_launched` says that there are no others.
-/
import Stopwatch.Proofs.Package.Build
import Stopwatch.Proofs.Package.Executable
import Stopwatch.Proofs.Package.Rewriting
import Stopwatch.Proofs.Text.Quoted

namespace Stopwatch

open Action Files

/-! ## Dotted names -/

/-- The parts of a dotted name. -/
def dottedParts (name : String) : List String :=
  (name.toList.splitOn '.').map String.ofList

/-- There is no dot in the parts between dots. -/
theorem not_mem_splitOn {cs part : List Char} (h : part ∈ cs.splitOn '.') : '.' ∉ part := by
  induction cs generalizing part with
  | nil =>
    rw [List.splitOn_nil, List.mem_singleton] at h
    rw [h]
    exact List.not_mem_nil
  | cons c cs ih =>
    rw [List.splitOn_cons_eq_if_modifyHead] at h
    split at h
    · rcases List.mem_cons.mp h with rfl | h
      · exact List.not_mem_nil
      · exact ih h
    · rename_i hc
      cases hsplit : cs.splitOn '.' with
      | nil =>
        rw [hsplit] at h
        cases h
      | cons first parts =>
        rw [hsplit] at ih h
        rcases List.mem_cons.mp h with rfl | h
        · rw [List.mem_cons, not_or]
          exact ⟨fun heq => hc (by simp [← heq]), ih List.mem_cons_self⟩
        · exact ih (List.mem_cons_of_mem first h)

theorem not_mem_dottedParts {name part : String} (h : part ∈ dottedParts name) : '.' ∉ part.toList := by
  obtain ⟨cs, hcs, rfl⟩ := List.mem_map.mp h
  rw [String.toList_ofList]
  exact not_mem_splitOn hcs

theorem dottedParts_ne_nil (name : String) : dottedParts name ≠ [] := by
  rw [dottedParts, ne_eq, List.map_eq_nil_iff]
  exact List.splitOn_ne_nil _ _

/-- Parts without dots are those of the name that they make up. -/
theorem dottedParts_intercalate {parts : List String} (hne : parts ≠ []) (h : ∀ part ∈ parts, '.' ∉ part.toList) :
    dottedParts (String.intercalate "." parts) = parts := by
  have hdots : ∀ part ∈ parts.map String.toList, '.' ∉ part := by
    intro part hpart
    obtain ⟨name, hname, rfl⟩ := List.mem_map.mp hpart
    exact h name hname
  have hid : String.ofList ∘ String.toList = id := funext fun _ => String.ofList_toList
  rw [dottedParts, String.toList_intercalate]
  change (List.splitOn '.' (['.'].intercalate _)).map String.ofList = parts
  rw [List.splitOn_intercalate '.' hdots (by simpa using hne), List.map_map, hid, List.map_id]

namespace Package

variable {p : Package} {fs : Files} {names dirs : List String} {file : String}

/-! ## Names of modules -/

/-- The parts of the name of the module in a file. -/
def moduleParts (names : List String) : List String :=
  let parts := names.dropLast ++ [(Path.mk .relative names).stem]
  if parts.getLast? = some "__init__" then parts.dropLast else parts

theorem moduleName_eq (names : List String) : moduleName names = String.intercalate "." (moduleParts names) := rfl

/-- The file, below the root of the sources, that a dotted name is imported from: that of a package, or
else that of a module.  All parts but the last one are directories. -/
def moduleFile? (p : Package) (fs : Files) (name : String) : Option (List String) :=
  let parts := dottedParts name
  let package := parts ++ ["__init__.py"]
  let module := parts.dropLast ++ [parts.getLast?.getD "" ++ ".py"]
  if parts.contains "" || !fs.isDirectory (p.sourceAt parts.dropLast) then none
  else if fs.isFile (p.sourceAt package) then some package
  else if fs.isFile (p.sourceAt module) then some module
  else none

/-- A module is found where its parts, which are not empty, lead to. -/
theorem moduleFile_eq_some {name : String} :
    p.moduleFile? fs name = some names ↔ "" ∉ dottedParts name ∧
      fs.isDirectory (p.sourceAt (dottedParts name).dropLast) = true ∧ fs.isFile (p.sourceAt names) = true ∧
      (names = dottedParts name ++ ["__init__.py"] ∨
        names = (dottedParts name).dropLast ++ [(dottedParts name).getLast?.getD "" ++ ".py"] ∧
          fs.isFile (p.sourceAt (dottedParts name ++ ["__init__.py"])) = false) := by
  rw [moduleFile?]
  split
  · rename_i hbad
    refine iff_of_false nofun ?_
    rintro ⟨hempty, hdirectory, -⟩
    simp [hempty, hdirectory] at hbad
  · rename_i hgood
    rw [Bool.or_eq_true, not_or, Bool.not_eq_true', Bool.not_eq_false, List.contains_iff_mem] at hgood
    rw [and_iff_right hgood.1, and_iff_right hgood.2]
    split
    · rename_i hpackage
      rw [Option.some_inj]
      constructor
      · rintro rfl
        exact ⟨hpackage, Or.inl rfl⟩
      · rintro ⟨-, rfl | ⟨-, hnone⟩⟩
        · rfl
        · rw [hpackage] at hnone
          cases hnone
    · rename_i hpackage
      rw [Bool.not_eq_true] at hpackage
      split
      · rename_i hmodule
        rw [Option.some_inj]
        constructor
        · rintro rfl
          exact ⟨hmodule, Or.inr ⟨rfl, hpackage⟩⟩
        · rintro ⟨hfile, rfl | ⟨rfl, -⟩⟩
          · rw [hfile] at hpackage
            cases hpackage
          · rfl
      · rename_i hmodule
        refine iff_of_false nofun ?_
        rintro ⟨hfile, rfl | ⟨rfl, -⟩⟩
        · rw [hfile] at hpackage
          cases hpackage
        · exact hmodule hfile

/-- The stem of a source is what stands in front of its extension. -/
theorem stem_source {stem : String} (hstem : stem ≠ "") :
    (Path.mk .relative (dirs ++ [stem ++ ".py"])).stem = stem := by
  have hname : Path.name ⟨.relative, dirs ++ [stem ++ ".py"]⟩ = stem ++ ".py" := by simp [Path.name]
  have hfront : stem.toList ≠ [] := fun hnil => hstem (String.toList_eq_nil_iff.mp hnil)
  rw [Path.stem, hname, String.toList_append]
  change String.ofList (Path.splitExtension (stem.toList ++ '.' :: ['p', 'y'])).1 = stem
  rw [Path.splitExtension_of_dot (by decide), if_pos ⟨hfront, by decide⟩]
  exact String.ofList_toList

theorem init_eq : "__init__.py" = "__init__" ++ ".py" := by decide

theorem moduleParts_init : moduleParts (dirs ++ ["__init__" ++ ".py"]) = dirs := by
  rw [moduleParts, stem_source (by decide)]
  simp

theorem moduleParts_of_ne {stem : String} (hstem : stem ≠ "") (hinit : stem ≠ "__init__") :
    moduleParts (dirs ++ [stem ++ ".py"]) = dirs ++ [stem] := by
  rw [moduleParts, stem_source hstem]
  simp [hinit]

/-- A file that is all extension has a dot in its module. -/
theorem exists_dot_of_extension (dirs : List String) :
    ∃ part ∈ moduleParts (dirs ++ ["" ++ ".py"]), '.' ∈ part.toList := by
  have hstem : (Path.mk .relative (dirs ++ ["" ++ ".py"])).stem = ".py" := by
    have hname : Path.name ⟨.relative, dirs ++ ["" ++ ".py"]⟩ = ".py" := by simp [Path.name]
    rw [Path.stem, hname]
    decide
  refine ⟨".py", ?_, by decide⟩
  rw [moduleParts, hstem]
  simp

/-- A name that leads back to a file is made up of parts without dots. -/
theorem plain_of_moduleFile {stem : String}
    (h : p.moduleFile? fs (moduleName (dirs ++ [stem ++ ".py"])) = some (dirs ++ [stem ++ ".py"])) :
    moduleParts (dirs ++ [stem ++ ".py"]) ≠ [] ∧ ∀ part ∈ moduleParts (dirs ++ [stem ++ ".py"]), '.' ∉ part.toList := by
  obtain ⟨hempty, -, -, hnames⟩ := moduleFile_eq_some.mp h
  have hne := dottedParts_ne_nil (moduleName (dirs ++ [stem ++ ".py"]))
  have hdots : ∀ part ∈ dottedParts (moduleName (dirs ++ [stem ++ ".py"])), '.' ∉ part.toList := fun _ =>
    not_mem_dottedParts
  rcases hnames with hnames | ⟨hnames, -⟩
  · -- the file makes a directory a package
    obtain ⟨hdirs, hfile⟩ := List.append_singleton_inj.mp hnames
    rw [init_eq, String.append_left_inj] at hfile
    rw [hfile, moduleParts_init, hdirs]
    exact ⟨hne, hdots⟩
  · obtain ⟨hdirs, hfile⟩ := List.append_singleton_inj.mp hnames
    rw [String.append_left_inj] at hfile
    have hparts : dottedParts (moduleName (dirs ++ [stem ++ ".py"])) = dirs ++ [stem] := by
      rw [List.getLast?_eq_some_getLast hne, Option.getD_some] at hfile
      have hwhole := List.dropLast_concat_getLast hne
      rw [← hdirs, ← hfile] at hwhole
      exact hwhole.symm
    rw [hparts] at hempty hne hdots
    by_cases hinit : stem = "__init__"
    · -- its name would be that of the directory, and not its own
      subst hinit
      rw [moduleName_eq, moduleParts_init] at hparts
      by_cases hnil : dirs = []
      · subst hnil
        exact absurd hparts (by decide)
      · rw [dottedParts_intercalate hnil fun part hpart => hdots part (List.mem_append_left _ hpart)] at hparts
        exact absurd (congrArg List.length hparts) (by simp)
    · have hstem : stem ≠ "" := by
        rintro rfl
        exact hempty (by simp)
      rw [moduleParts_of_ne hstem hinit]
      exact ⟨hne, hdots⟩

/-- What the name of the module in a file leads to, where the file and the directories above it stand:
to the file, unless the name has no parts, a part has a dot in it, or a package hides the file. -/
theorem moduleFile_moduleName_iff {stem : String} (hdirs : "" ∉ dirs)
    (hdirectories : ∀ begun, begun <+: dirs → fs.isDirectory (p.sourceAt begun) = true)
    (hfile : fs.isFile (p.sourceAt (dirs ++ [stem ++ ".py"])) = true) :
    p.moduleFile? fs (moduleName (dirs ++ [stem ++ ".py"])) = some (dirs ++ [stem ++ ".py"]) ↔
      moduleParts (dirs ++ [stem ++ ".py"]) ≠ [] ∧
        (∀ part ∈ moduleParts (dirs ++ [stem ++ ".py"]), '.' ∉ part.toList) ∧
        (fs.isFile (p.sourceAt (moduleParts (dirs ++ [stem ++ ".py"]) ++ ["__init__.py"])) = true →
          dirs ++ [stem ++ ".py"] = moduleParts (dirs ++ [stem ++ ".py"]) ++ ["__init__.py"]) := by
  constructor
  · intro h
    obtain ⟨hne, hdots⟩ := plain_of_moduleFile h
    refine ⟨hne, hdots, fun hpackage => ?_⟩
    obtain ⟨-, -, -, hnames⟩ := moduleFile_eq_some.mp h
    rw [moduleName_eq, dottedParts_intercalate hne hdots] at hnames
    rcases hnames with hnames | ⟨-, hnone⟩
    · exact hnames
    · rw [hpackage] at hnone
      cases hnone
  · rintro ⟨hne, hdots, hhidden⟩
    rw [moduleFile_eq_some, moduleName_eq, dottedParts_intercalate hne hdots]
    by_cases hstem : stem = ""
    · subst hstem
      obtain ⟨part, hpart, hdot⟩ := exists_dot_of_extension dirs
      exact absurd hdot (hdots part hpart)
    · by_cases hinit : stem = "__init__"
      · subst hinit
        rw [moduleParts_init] at hhidden ⊢
        exact ⟨hdirs, hdirectories _ (List.dropLast_prefix _), hfile, Or.inl (by rw [init_eq])⟩
      · rw [moduleParts_of_ne hstem hinit] at hhidden ⊢
        rw [List.dropLast_concat, List.getLast?_concat, Option.getD_some]
        refine ⟨?_, hdirectories _ (List.prefix_refl _), hfile, Or.inr ⟨rfl, ?_⟩⟩
        · rw [List.mem_append, List.mem_singleton, not_or]
          exact ⟨hdirs, Ne.symm hstem⟩
        · rw [← Bool.not_eq_true]
          exact fun hpackage => absurd (congrArg List.length (hhidden hpackage)) (by simp)

/-! ## Sources with a guard -/

/-- A module with a guard is not read from a pipe, which has no text. -/
theorem isFile_of_guard {path : Path} {m : Syntax.Module} {analysis : Analysis} (hmodule : fs.HasModule path m)
    (hanalyze : m.analyze = .ok analysis) (hguard : analysis.hasEntryPoint = true) : fs.isFile path = true := by
  have hempty : (Syntax.Module.parse? "").map (fun m => m.body.isEmpty) = some true := by decide +kernel
  obtain ⟨source, htext, -, hparse⟩ := hmodule
  have hsource : source ≠ "" := by
    rintro rfl
    rw [hparse, Option.map_some, Option.some_inj, List.isEmpty_iff] at hempty
    rw [Syntax.Module.analyze, hempty] at hanalyze
    cases hanalyze
    cases hguard
  rw [textAt, Files.read] at htext
  cases hlocate : fs.locate path with
  | error fault =>
    rw [hlocate] at htext
    cases htext
  | ok l =>
    simp only [hlocate, bind, Except.bind] at htext
    cases hfound : fs.find? l with
    | none =>
      rw [hfound] at htext
      cases htext
    | some e =>
      rw [hfound] at htext
      cases e with
      | file bytes executable => exact isFile_iff.mpr ⟨l, bytes, executable, hlocate, hfound⟩
      | directory => cases htext
      | link target =>
        cases htext
        exact absurd rfl hsource
      | pipe =>
        cases htext
        exact absurd rfl hsource

/-- A result is that of one of some paths, and if the source has a guard, there is a file. -/
def ComesFrom (fs : Files) (paths : List Path) (entry : Instrumented) : Prop :=
  ∃ path ∈ paths, entry.written = path.text ∧ (entry.hasEntryPoint = true → fs.isFile path = true)

variable {fs' : Files} {paths paths' : List Path} {entry : Instrumented} {host host₁ host₂ : Host} {path : Path}
  {results : List Instrumented}

theorem ComesFrom.mono (h : ComesFrom fs paths entry) (hfiles : fs.Overwrites fs') (hpaths : paths ⊆ paths') :
    ComesFrom fs' paths' entry := by
  obtain ⟨path, hpath, hwritten, hfile⟩ := h
  exact ⟨path, hpaths hpath, hwritten, fun hguard => hfiles.isFile (hfile hguard)⟩

theorem leaves_placeCollector (p : Package) (host : Host) :
    Leaves (fun _ host' => host.files.Overwrites host'.files) (fun _ _ => True) p.placeCollector host := by
  rw [placeCollector]
  refine .get_bind ?_
  split
  · refine Leaves.bind (leaves_writeText (S := fun _ host' => host.files.Overwrites host'.files) fun files hwrite => ?_)
      fun _ host' hfiles => .ok hfiles
    exact .of_write hwrite
  · exact .pure (.refl _)

/-- The result of a source with a guard is that of a file, which is written in place. -/
theorem leaves_instrumentModule {m : Syntax.Module} (hmodule : host.files.HasModule path m) :
    Leaves (fun entry host' => host.files.Overwrites host'.files ∧ ComesFrom host'.files [path] entry)
      (fun _ _ => True) (p.instrumentModule path m) host := by
  rw [instrumentModule, Leaves, ends_bind, ends_analyze]
  cases hanalyze : m.analyze with
  | error f => exact .error trivial
  | ok analysis =>
    refine (leaves_placeCollector p host).bind fun _ host₁ hplaced => ?_
    obtain ⟨m', himports⟩ := exists_imports path m
    have hwritten : Leaves (fun _ host' => host.files.Overwrites host'.files) (fun _ _ => True)
        (writeText path m'.text) host₁ :=
      leaves_writeText fun files hwrite => hplaced.trans (.of_write hwrite)
    rw [Action.instrumentModule, himports.instrumented]
    dsimp only
    rw [pure_bind]
    refine hwritten.bind fun _ host' hfiles => .pure ⟨hfiles, path, List.mem_singleton_self path, rfl, ?_⟩
    exact fun hguard => hfiles.isFile (isFile_of_guard hmodule hanalyze hguard)

theorem leaves_instrument? (p : Package) (path : Path) (host : Host) :
    Leaves (fun result host' => host.files.Overwrites host'.files ∧
      ∀ entry ∈ result.toList, ComesFrom host'.files [path] entry) (fun _ _ => True) (p.instrument? path) host := by
  rw [instrument?]
  dsimp only
  rw [Leaves, ends_bind, ends_attempt, ends_readModule]
  cases hread : host.files.moduleAt path (p.originOf path).1 with
  | ok m =>
    refine (leaves_instrumentModule (moduleAt_eq_ok.mp hread)).bind fun entry host' hentry => .pure ⟨hentry.1, ?_⟩
    intro other hother
    obtain rfl := List.mem_singleton.mp hother
    exact hentry.2
  | error f =>
    dsimp only
    refine ends_report_bind fun host' hview => .ok ⟨?_, fun entry hentry => absurd hentry List.not_mem_nil⟩
    have hfiles : host'.files = host.files := congrArg Prod.fst hview
    change host.files.Overwrites host'.files
    rw [hfiles]
    exact .refl _

/-- The results are those of the sources, one after the other. -/
theorem leaves_instrumentAll (p : Package) (paths : List Path) (host : Host) :
    Leaves (fun results host' => host.files.Overwrites host'.files ∧
      ∀ entry ∈ results, ComesFrom host'.files paths entry) (fun _ _ => True) (p.instrumentAll paths) host := by
  induction paths generalizing host with
  | nil => exact .pure ⟨.refl _, nofun⟩
  | cons path rest ih =>
    rw [instrumentAll]
    refine (leaves_instrument? p path host).bind fun first host₁ hfirst => ?_
    refine (ih host₁).bind fun more host₂ hmore => .pure ⟨hfirst.1.trans hmore.1, ?_⟩
    intro entry hentry
    rcases List.mem_append.mp hentry with hentry | hentry
    · exact (hfirst.2 entry hentry).mono hmore.1 (by simp)
    · exact (hmore.2 entry hentry).mono (.refl _) (List.subset_cons_self path rest)

theorem comesFrom_of_instrumentSources (h : p.instrumentSources host = (.ok results, host₁)) :
    host.files.Overwrites host₁.files ∧ ∀ entry ∈ results, ComesFrom host₁.files (p.sources host.files) entry := by
  have hleaves : Leaves (fun results host' => host.files.Overwrites host'.files ∧
      ∀ entry ∈ results, ComesFrom host'.files (p.sources host.files) entry) (fun _ _ => True)
      p.instrumentSources host := by
    rw [instrumentSources]
    refine .get_bind ?_
    cases hsources : p.sources host.files with
    | nil => exact .error trivial
    | cons first rest => exact leaves_instrumentAll p (first :: rest) host
  have hok := hleaves.of_ok (x := results) (by rw [h])
  rwa [h] at hok

/-! ## The launcher -/

/-- The names of a result below the root of the sources. -/
def namesOf (p : Package) (entry : Instrumented) : List String :=
  (((Path.ofText entry.written).relativeTo? p.sourceRoot).map (·.names)).getD []

/-- A package that starts at no entry and had no launcher has got one, for the one result with a
guard. -/
theorem launched_of_resolveEntry (hmissing : host₁.files.exists? p.launcherPath = false)
    (h : p.resolveEntry results host₁ = (.ok none, host₂)) :
    ∃ entry, results.filter (·.hasEntryPoint) = [entry] ∧
      host₁.files.write p.launcherPath
        (fun _ => Text.Utf8.encode (launcherText (moduleName (p.namesOf entry)))) = .ok host₂.files := by
  have hends : Ends (p.resolveEntry results) host₁ fun r host₂ => r = .ok none →
      ∃ entry, results.filter (·.hasEntryPoint) = [entry] ∧
        host₁.files.write p.launcherPath
          (fun _ => Text.Utf8.encode (launcherText (moduleName (p.namesOf entry)))) = .ok host₂.files := by
    rw [resolveEntry, ends_bind, Action.exists?, ends_observe]
    dsimp only
    rw [if_neg (by simpa [launcherPath] using hmissing), ends_bind, ends_project]
    cases p.projectAt host₁.files with
    | error f =>
      intro hnone
      cases hnone
    | ok project =>
      dsimp only
      split
      · intro hnone
        cases hnone
      · intro hsome
        cases hsome
      · rw [ends_bind, launch]
        split
        · intro hnone
          cases hnone
        · rename_i entry hentry
          dsimp only
          rw [writeText, ends_changeFiles]
          cases hwrite : host₁.files.write (p.sourceRoot.child launcherFile)
              fun _ => Text.Utf8.encode (launcherText (moduleName (p.namesOf entry))) with
          | error fault =>
            rw [namesOf] at hwrite
            rw [hwrite]
            intro hnone
            cases hnone
          | ok files =>
            rw [namesOf] at hwrite
            rw [hwrite]
            exact fun _ => ⟨entry, hentry, hwrite⟩
        · intro hnone
          cases hnone
  rw [Ends, h] at hends
  exact hends rfl

/-! ## Where the launcher leads -/

/-- A path below another one leads somewhere only from a directory. -/
theorem isDirectory_of_locate_child {path : Path} {name : String} {l : Location}
    (h : fs.locate (path.child name) = .ok l) : fs.isDirectory path = true := by
  have hleads : Leads fs true maxLinks (fs.start path) (path.names ++ [name]) l := locate_eq_ok_iff.mp h
  obtain ⟨links, mid, hfront, hlast⟩ := hleads.split (List.cons_ne_nil name [])
  exact isDirectory_iff.mpr ⟨mid, locate_eq_ok_iff.mpr hfront, hlast.directory_of_ne_nil (List.cons_ne_nil name [])⟩

/-- The launcher names a module: the literal in its text has the name of the module as its value. -/
def Launches (p : Package) (fs : Files) (name : String) : Prop :=
  fs.read p.launcherPath = .ok (Text.Utf8.encode (launcherText name)) ∧
    Syntax.stringValue (Text.quoted name) = .ok (.text (name.toList.map Char.toNat))

theorem launches_of_write {name : String} (hmissing : fs.exists? p.launcherPath = false)
    (hwrite : (fs.write p.launcherPath fun _ => Text.Utf8.encode (launcherText name)) = .ok fs') :
    p.Launches fs' name := by
  refine ⟨?_, Text.stringValue_quoted name⟩
  have hover : fs.Overwrites fs' := .of_write hwrite
  rw [write_eq] at hwrite
  cases hlocate : fs.locate p.launcherPath with
  | error fault =>
    rw [hlocate] at hwrite
    cases hwrite
  | ok l =>
    have hnone : fs.find? l = none := by simpa [Files.exists?, status?, hlocate] using hmissing
    have hl : l ≠ [] := by
      rintro rfl
      cases hnone
    simp only [hlocate, hnone, Except.ok.injEq] at hwrite
    rw [Files.read, hover.locate.mpr hlocate, ← hwrite]
    simp only [bind, Except.bind, find?_insert_self fs hl]

/-- A tree of files with proper names, and a working copy that is written with such names. -/
structure IsProperTree (p : Package) (fs : Files) : Prop where
  tree : fs.IsTree
  names : ∀ e ∈ fs.entries, ∀ name ∈ e.1, Path.IsName name
  work : p.work.IsProper

theorem isProper_sourceRoot (h : p.IsProperTree fs) : p.sourceRoot.IsProper := by
  rw [sourceRoot, Path.slash, Path.join]
  split
  · exact Path.ofText_isProper _
  · intro name hname
    rcases List.mem_append.mp hname with hname | hname
    · exact h.work name hname
    · exact Path.ofText_isProper _ name hname

/-- A source below the root stands in directories, under proper names. -/
theorem exists_names_of_source (h : p.IsProperTree fs) (hroot : fs.isFile p.sourceRoot = false)
    (hpath : path ∈ p.sources fs) :
    ∃ dirs stem, path = p.sourceAt (dirs ++ [stem ++ ".py"]) ∧ path.IsProper ∧ "" ∉ dirs ∧
      ∀ begun, begun <+: dirs → fs.isDirectory (p.sourceAt begun) = true := by
  obtain ⟨hpath, -⟩ := List.mem_filter.mp hpath
  rcases mem_sources.mp hpath with ⟨hfile, -⟩ | ⟨-, l, names, hlocate, hdirectory, hnames, rfl⟩
  · rw [hroot] at hfile
    cases hfile
  obtain ⟨hsource, e, he⟩ := mem_sourceNames.mp hnames
  obtain ⟨dirs, name, rfl, front, hfront⟩ := exists_name_of_isSource hsource
  have hup := h.tree.not_up_of_mem_sourceNames hnames
  have hproper (part : String) (hpart : part ∈ dirs ++ [name]) : Path.IsName part :=
    h.names _ he part (List.mem_append_right _ hpart)
  have hname : name = String.ofList front ++ ".py" := by
    rw [← String.toList_inj, String.toList_append, String.toList_ofList]
    exact hfront.symm
  rw [List.mem_append, not_or] at hup
  refine ⟨dirs, String.ofList front, by rw [← hname, sourceAt], ?_, ?_, fun begun hbegun => ?_⟩
  · intro part hpart
    exact (List.mem_append.mp hpart).elim (isProper_sourceRoot h part) (hproper part)
  · exact fun hmem => (hproper "" (List.mem_append_left _ hmem)).ne_empty rfl
  · have hfront := Leads.append_directories (locate_eq_ok_iff.mp hlocate)
      (fun hmem => hup.1 (hbegun.subset hmem)) fun other hother => h.tree.directory_above he (hother.trans hbegun)
    exact isDirectory_iff.mpr ⟨l ++ begun, locate_eq_ok_iff.mpr hfront, h.tree.directory_above he hbegun⟩

/-- The names of a source below the root are read back from the text of its path. -/
theorem namesOf_source {names : List String} (hproper : (p.sourceAt names).IsProper)
    (hwritten : entry.written = (p.sourceAt names).text) : p.namesOf entry = names := by
  have hafter : Path.namesAfter? p.sourceRoot.names (p.sourceRoot.names ++ names) = some names :=
    Path.namesAfter_eq_some.mpr rfl
  rw [namesOf, hwritten, Path.ofText_text hproper, Path.relativeTo?, sourceAt, if_pos rfl, hafter]
  rfl

/-- Where the launcher can be written, the root above it is a directory, and has been one before. -/
theorem isFile_sourceRoot_of_write {fs₁ fs₂ : Files} {f : List UInt8 → List UInt8} (hwrites : fs.Overwrites fs₁)
    (hwrite : fs₁.write p.launcherPath f = .ok fs₂) : fs.isFile p.sourceRoot = false := by
  rw [← Bool.not_eq_true]
  intro hfile
  rw [write_eq] at hwrite
  cases hlocate : fs₁.locate p.launcherPath with
  | error fault =>
    rw [hlocate] at hwrite
    cases hwrite
  | ok l =>
    obtain ⟨at_, hat, hfound⟩ := isDirectory_iff.mp (isDirectory_of_locate_child hlocate)
    obtain ⟨at', bytes, executable, hat', hfound'⟩ := isFile_iff.mp (hwrites.isFile hfile)
    obtain rfl := Except.ok.inj (hat.symm.trans hat')
    rw [hfound] at hfound'
    cases hfound'

/-- If a package has got a launcher, then just one of its results is that of a source with a guard, and the
launcher names the module of this source.  The name leads back to the source unless the source is the
`__init__.py` of the root, a directory above it or its stem has a dot, or a directory of the same name has
an `__init__.py`. -/
theorem moduleFile_launched (h : p.IsProperTree host.files)
    (hinstrument : p.instrumentSources host = (.ok results, host₁))
    (hmissing : host₁.files.exists? p.launcherPath = false)
    (hresolve : p.resolveEntry results host₁ = (.ok none, host₂)) :
    ∃ entry names, results.filter (·.hasEntryPoint) = [entry] ∧ p.sourceAt names ∈ p.sources host.files ∧
      entry.written = (p.sourceAt names).text ∧ p.Launches host₂.files (moduleName names) ∧
      (moduleName names ≠ "" ∧ p.moduleFile? host₂.files (moduleName names) = some names ↔
        moduleParts names ≠ [] ∧ (∀ part ∈ moduleParts names, '.' ∉ part.toList) ∧
          (host₂.files.isFile (p.sourceAt (moduleParts names ++ ["__init__.py"])) = true →
            names = moduleParts names ++ ["__init__.py"])) := by
  obtain ⟨hwrites, hresults⟩ := comesFrom_of_instrumentSources hinstrument
  obtain ⟨entry, hentry, hwrite⟩ := launched_of_resolveEntry hmissing hresolve
  have hmem : entry ∈ results ∧ entry.hasEntryPoint = true :=
    List.mem_filter.mp (hentry ▸ List.mem_singleton_self entry)
  obtain ⟨path, hpath, hwritten, hguard⟩ := hresults entry hmem.1
  obtain ⟨dirs, stem, rfl, hproper, hempty, hdirectories⟩ :=
    exists_names_of_source h (isFile_sourceRoot_of_write hwrites hwrite) hpath
  rw [namesOf_source hproper hwritten] at hwrite
  have hover : host₁.files.Overwrites host₂.files := .of_write hwrite
  have hiff := moduleFile_moduleName_iff hempty
    (fun begun hbegun => (hwrites.trans hover).isDirectory.mpr (hdirectories begun hbegun))
    (hover.isFile (hguard hmem.2))
  refine ⟨entry, dirs ++ [stem ++ ".py"], hentry, hpath, hwritten, launches_of_write hmissing hwrite, ?_⟩
  rw [← hiff]
  refine and_iff_right_of_imp fun hfound hnil => ?_
  rw [hnil] at hfound
  cases hfound

/-- A host whose working copy has one source, directly below the root, that is nothing but a guard. -/
def guardedHost (name : String) : Host :=
  { mixedHost with
    files := {
      entries := [(["w"], .directory), (["w", "src"], .directory),
        (["w", "src", name], .file (Text.Utf8.encode "if __name__ == \"__main__\":\n    pass\n") false)]
      workingDirectory := [] } }

theorem sources_guarded (name : String) (hname : name ≠ collectorFile)
    (hsource : isSource mixed.config.instrumentedSuffix [name] = true) :
    mixed.sources (guardedHost name).files = [mixed.sourceAt [name]] := by
  have hroot : mixed.sourceRoot = ⟨.root, ["w", "src"]⟩ := by decide +kernel
  have hlocate : (guardedHost name).files.locate ⟨.root, ["w", "src"]⟩ = .ok ["w", "src"] := rfl
  have hfile : (guardedHost name).files.isFile ⟨.root, ["w", "src"]⟩ = false := rfl
  have hdirectory : (guardedHost name).files.find? ["w", "src"] = some .directory := rfl
  have hnil : isSource mixed.config.instrumentedSuffix [] = false := rfl
  have hnames : (guardedHost name).files.sourceNames ["w", "src"] mixed.config.instrumentedSuffix = [[name]] := by
    rw [sourceNames]
    change (List.filter _ [[], [name]]).mergeSort _ = _
    rw [List.filter_cons_of_neg (by simp [hnil]), List.filter_cons_of_pos hsource, List.filter_nil,
      List.mergeSort_singleton]
  rw [sources, Files.sources, hroot, hlocate, hfile]
  dsimp only
  rw [if_neg Bool.false_ne_true, if_pos hdirectory, hnames, List.map_singleton, sourceAt, hroot]
  simpa [Path.name] using hname

/-- What reads the host goes on in the host it has read. -/
theorem get_bind_eq {β : Type} (f : Host → Action β) (host : Host) : (get >>= f) host = f host host := rfl

/-- The source is instrumented, and a launcher is written for it. -/
theorem exists_launched {name : String} (check : List Instrumented → Files → Bool)
    (hsources : mixed.sources (guardedHost name).files = [mixed.sourceAt [name]])
    (hruns :
      let run := mixed.instrumentAll [mixed.sourceAt [name]] (guardedHost name)
      let results := run.1.toOption.getD []
      let resolved := mixed.resolveEntry results run.2
      (run.1.isOk && !run.2.files.exists? mixed.launcherPath && resolved.1.isOk &&
        (resolved.1.toOption.bind id).isNone && check results resolved.2.files) = true) :
    ∃ results host₁ host₂, mixed.instrumentSources (guardedHost name) = (.ok results, host₁) ∧
      host₁.files.exists? mixed.launcherPath = false ∧ mixed.resolveEntry results host₁ = (.ok none, host₂) ∧
      check results host₂.files = true := by
  have hall : mixed.instrumentSources (guardedHost name) =
      mixed.instrumentAll [mixed.sourceAt [name]] (guardedHost name) := by
    rw [instrumentSources, get_bind_eq, hsources]
  rw [hall]
  dsimp only at hruns
  generalize mixed.instrumentAll [mixed.sourceAt [name]] (guardedHost name) = run at hruns ⊢
  obtain ⟨result, host₁⟩ := run
  cases result with
  | error f => cases hruns
  | ok results =>
    dsimp only [Except.toOption, Option.getD] at hruns
    generalize hresolve : mixed.resolveEntry results host₁ = resolved at hruns
    obtain ⟨entry, host₂⟩ := resolved
    simp only [Bool.and_eq_true, Bool.not_eq_true'] at hruns
    obtain ⟨⟨⟨⟨-, hmissing⟩, hdone⟩, hnone⟩, hcheck⟩ := hruns
    cases entry with
    | error f => cases hdone
    | ok entry =>
      cases entry with
      | some entry => cases hnone
      | none => exact ⟨results, host₁, host₂, rfl, hmissing, hresolve, hcheck⟩

/-- A file at the root that is not called `__init__.py` is found by the name in the launcher. -/
theorem moduleFile_main : mixed.IsProperTree (guardedHost "main.py").files ∧
    ∃ results host₁ host₂, mixed.instrumentSources (guardedHost "main.py") = (.ok results, host₁) ∧
      host₁.files.exists? mixed.launcherPath = false ∧ mixed.resolveEntry results host₁ = (.ok none, host₂) ∧
      mixed.Launches host₂.files "main" ∧ mixed.moduleFile? host₂.files "main" = some ["main.py"] := by
  have hnames : ∀ e ∈ (guardedHost "main.py").files.entries, ∀ name ∈ e.1,
      name ∈ (Path.ofText "w/src/main.py").names := by
    decide +kernel
  have hproper : mixed.IsProperTree (guardedHost "main.py").files :=
    ⟨by decide +kernel, fun e he name hname => Path.ofText_isProper _ name (hnames e he name hname),
      Path.ofText_isProper _⟩
  have hsources := sources_guarded "main.py" (by decide) (by decide)
  obtain ⟨results, host₁, host₂, hinstrument, hmissing, hresolve, hfree⟩ := exists_launched
    (fun _ files => !files.isFile (mixed.sourceAt ["main", "__init__.py"])) hsources (by decide +kernel)
  refine ⟨hproper, results, host₁, host₂, hinstrument, hmissing, hresolve, ?_⟩
  obtain ⟨entry, names, -, hmem, -, hlaunches, hiff⟩ := moduleFile_launched hproper hinstrument hmissing hresolve
  obtain rfl : names = ["main.py"] := by
    rw [hsources, List.mem_singleton, sourceAt, sourceAt, Path.mk.injEq, List.append_cancel_left_eq] at hmem
    exact hmem.2
  refine ⟨hlaunches, (hiff.mpr ⟨by decide, by decide, fun hfile => ?_⟩).2⟩
  rw [Bool.not_eq_true'] at hfree
  exact absurd (hfree.symm.trans hfile) (by decide)

/-- An `__init__.py` at the root has a launcher for the empty name, which leads nowhere. -/
theorem moduleFile_init : ∃ results host₁ host₂,
    mixed.instrumentSources (guardedHost "__init__.py") = (.ok results, host₁) ∧
      host₁.files.exists? mixed.launcherPath = false ∧ mixed.resolveEntry results host₁ = (.ok none, host₂) ∧
      (results.filter (·.hasEntryPoint)).map (·.written) = ["/w/src/__init__.py"] ∧
      host₂.files.textAt mixed.launcherPath = .ok (launcherText "") ∧ mixed.moduleFile? host₂.files "" = none := by
  obtain ⟨results, host₁, host₂, hinstrument, hmissing, hresolve, hcheck⟩ := exists_launched
    (fun results files => (results.filter (·.hasEntryPoint)).map (·.written) = ["/w/src/__init__.py"] &&
      (files.textAt mixed.launcherPath).toOption = some (launcherText ""))
    (sources_guarded "__init__.py" (by decide) (by decide)) (by decide +kernel)
  rw [Bool.and_eq_true, decide_eq_true_eq, decide_eq_true_eq] at hcheck
  refine ⟨results, host₁, host₂, hinstrument, hmissing, hresolve, hcheck.1, ?_, rfl⟩
  cases htext : host₂.files.textAt mixed.launcherPath with
  | error f =>
    rw [htext] at hcheck
    cases hcheck.2
  | ok text =>
    rw [htext] at hcheck
    exact congrArg Except.ok (Option.some.inj hcheck.2)

end Package

end Stopwatch

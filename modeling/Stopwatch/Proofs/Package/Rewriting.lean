/-
  Sources rewritten in place.

  If no links stand among the sources of a working copy, each source stands where its path says, and
  so does the collector.  So what is written for one source is not read for another: each source that
  holds a module when the instrumenting starts is rewritten once, and nothing else changes but the file
  of the collector.  What has been rewritten is marked, so instrumenting once more changes nothing.
-/
import Stopwatch.Proofs.Instrument.Classes
import Stopwatch.Proofs.Package.Sources
import Stopwatch.Proofs.Run.Copies

namespace Stopwatch

open Action Files

/-! ## Modules of sources -/

/-- The module that a path leads to, if there is one. -/
def Files.module? (fs : Files) (path : Path) : Option Syntax.Module :=
  (fs.moduleAt path "").toOption

theorem Files.module?_eq_some {fs : Files} {path : Path} {m : Syntax.Module} :
    fs.module? path = some m ↔ fs.HasModule path m := by
  rw [module?, ← moduleAt_eq_ok]
  cases fs.moduleAt path "" <;> simp [Except.toOption]

theorem Files.module?_eq_none {fs : Files} {path : Path} (name : String) :
    fs.module? path = none ↔ ∃ f, fs.moduleAt path name = .error f := by
  rw [Option.eq_none_iff_forall_ne_some]
  cases hread : fs.moduleAt path name with
  | ok m => simpa using ⟨m, module?_eq_some.mpr (moduleAt_eq_ok.mp hread)⟩
  | error f =>
    refine iff_of_true (fun m hm => ?_) ⟨f, rfl⟩
    rw [module?_eq_some, ← moduleAt_eq_ok, hread] at hm
    cases hm

theorem Files.module?_congr {fs fs' : Files} {path : Path} (h : fs'.textAt path = fs.textAt path) :
    fs'.module? path = fs.module? path := by
  rw [module?, module?, moduleAt, moduleAt, h]

/-- Those of some paths that lead to a module. -/
def Files.holders (fs : Files) (paths : List Path) : List Path :=
  paths.filter fun path => (fs.module? path).isSome

theorem Files.mem_holders {fs : Files} {path : Path} {paths : List Path} :
    path ∈ fs.holders paths ↔ path ∈ paths ∧ ∃ m, fs.HasModule path m := by
  rw [holders, List.mem_filter, Option.isSome_iff_exists]
  exact and_congr_right fun _ => exists_congr fun m => module?_eq_some

/-- A module with measured functions that imports the collector, made from the module of a path. -/
structure Syntax.Module.Imports (m' : Syntax.Module) (path : Path) (m : Syntax.Module) : Prop where
  instrumented : m.instrument? ⟨recordedFileName path.text path.name, .importFrom Collector.moduleName⟩ = some m'
  marked : hasMarker m'.text = true
  imports : ∃ leading, (plainLine collectorImport).setLeading leading ∈ m'.body
  classes : m'.classes = m.classes

theorem exists_imports (path : Path) (m : Syntax.Module) : ∃ m' : Syntax.Module, m'.Imports path m := by
  have hsome := instrument_importFrom m (recordedFileName path.text path.name)
  refine ⟨_, hsome, hasMarker_importFrom hsome, ?_, classes_importFrom hsome⟩
  rcases mem_insertStatements (plainLine collectorImport)
    (wrapBody m.style (recordedFileName path.text path.name) "" m.firstLine m.body) with hmem | hmem
  · exact ⟨[], hmem⟩
  · exact ⟨_, hmem⟩

namespace Package

variable {p : Package} {root l : Location} {fs fs' fs'' : Files} {path : Path} {written : List Path}
  {text : String}

/-- The sources of a working copy that are rewritten: they can be read, are text and a program, and are
not marked. -/
def rewritable (p : Package) (fs : Files) : List Path :=
  fs.holders (p.sources fs)

/-! ## Where sources stand -/

/-- The path under some names below the directory of the sources. -/
def sourceAt (p : Package) (names : List String) : Path :=
  ⟨p.sourceRoot.anchor, p.sourceRoot.names ++ names⟩

/-- A path that may be written: that of the collector, or of a source. -/
def IsTarget (p : Package) (fs : Files) (path : Path) : Prop :=
  path = p.collectorPath ∨ path ∈ p.sources fs

/-- A working copy without links among the sources.  No pipe stands where something is read or written
either: it would never be read to its end. -/
structure IsSourceTree (p : Package) (root : Location) (fs : Files) : Prop where
  tree : fs.IsTree
  once : fs.IsListing
  located : fs.locate p.sourceRoot = .ok root
  no_link : ∀ names target, fs.find? (root ++ names) ≠ some (.link target)
  no_pipe : ∀ path, p.IsTarget fs path → fs.status? path ≠ some .pipe

/-- A source stands where its names say. -/
theorem IsSourceTree.exists_source (h : p.IsSourceTree root fs) (hpath : path ∈ p.sources fs) :
    ∃ names, path = p.sourceAt names ∧ fs.locate path = .ok (root ++ names) := by
  obtain ⟨hpath, -⟩ := List.mem_filter.mp hpath
  rcases mem_sources.mp hpath with ⟨-, rfl⟩ | ⟨-, l, names, hlocate, -, hnames, rfl⟩
  · refine ⟨[], ?_, ?_⟩
    · rw [sourceAt, List.append_nil]
    · rw [List.append_nil]
      exact h.located
  · obtain rfl : root = l := Except.ok.inj (h.located.symm.trans hlocate)
    refine ⟨names, rfl, locate_eq_ok_iff.mpr ?_⟩
    obtain ⟨hsource, e, he⟩ := mem_sourceNames.mp hnames
    obtain ⟨dirs, name, rfl, -⟩ := exists_name_of_isSource hsource
    have hup := h.tree.not_up_of_mem_sourceNames hnames
    rw [List.mem_append, List.mem_singleton, not_or] at hup
    have hdirectories (begun : List String) (hbegun : begun <+: dirs) : fs.find? (root ++ begun) = some .directory :=
      h.tree.directory_above he hbegun
    have hfront := (locate_eq_ok_iff.mp h.located).append_directories hup.1 hdirectories
    have hlink : ∀ target, fs.find? (root ++ dirs ++ [name]) ≠ some (.link target) := by
      rw [List.append_assoc]
      exact h.no_link (dirs ++ [name])
    have hlast : Leads fs true maxLinks (fs.start p.sourceRoot) (p.sourceRoot.names ++ dirs ++ [name])
        (root ++ dirs ++ [name]) :=
      hfront.concat (hdirectories dirs (List.prefix_refl _)) (Ne.symm hup.2) hlink
    rw [List.append_assoc, List.append_assoc] at hlast
    exact hlast

/-- The collector stands beside the sources, if its path leads anywhere. -/
theorem IsSourceTree.locate_collector (h : p.IsSourceTree root fs) (hlocate : fs.locate p.collectorPath = .ok l) :
    l = root ++ [collectorFile] := by
  have hleads : Leads fs true maxLinks (fs.start p.sourceRoot) (p.sourceRoot.names ++ [collectorFile]) l :=
    locate_eq_ok_iff.mp hlocate
  obtain ⟨links, mid, hfront, hlast⟩ := hleads.split (by simp)
  obtain rfl := hfront.unique (locate_eq_ok_iff.mp h.located)
  exact hlast.eq_append (by decide) fun front _ _ _ target => h.no_link front target

theorem IsSourceTree.exists_target (h : p.IsSourceTree root fs) (htarget : p.IsTarget fs path) :
    ∃ names, path = p.sourceAt names ∧ ∀ l, fs.locate path = .ok l → l = root ++ names := by
  rcases htarget with rfl | hpath
  · exact ⟨[collectorFile], rfl, fun _ => h.locate_collector⟩
  · obtain ⟨names, heq, hlocate⟩ := h.exists_source hpath
    exact ⟨names, heq, fun l hl => Except.ok.inj (hl.symm.trans hlocate)⟩

/-- Where something is read or written, there is a directory or a regular file, or nothing yet. -/
theorem IsSourceTree.regular (h : p.IsSourceTree root fs) (htarget : p.IsTarget fs path) (hlocate : fs.locate path = .ok l)
    (e : Entry) (he : fs.find? l = some e) : e = .directory ∨ ∃ bytes executable, e = .file bytes executable := by
  have hpipe := h.no_pipe path htarget
  rw [status?, hlocate] at hpipe
  obtain ⟨names, -, hat⟩ := h.exists_target htarget
  cases e with
  | file bytes executable => exact Or.inr ⟨bytes, executable, rfl⟩
  | directory => exact Or.inl rfl
  | link target => exact absurd (hat l hlocate ▸ he) (h.no_link names target)
  | pipe => exact absurd he hpipe

/-- A source that holds a module is a regular file. -/
theorem IsSourceTree.exists_file (h : p.IsSourceTree root fs) (hpath : path ∈ p.sources fs) {m : Syntax.Module}
    (hmodule : fs.HasModule path m) (hlocate : fs.locate path = .ok l) :
    ∃ bytes executable, fs.find? l = some (.file bytes executable) := by
  obtain ⟨source, htext, -, -⟩ := hmodule
  rw [textAt, Files.read, hlocate] at htext
  simp only [bind, Except.bind] at htext
  cases hfound : fs.find? l with
  | none =>
    rw [hfound] at htext
    cases htext
  | some e =>
    rcases h.regular (Or.inr hpath) hlocate e hfound with rfl | ⟨bytes, executable, rfl⟩
    · rw [hfound] at htext
      cases htext
    · exact ⟨bytes, executable, rfl⟩

/-- Different targets stand at different locations. -/
theorem IsSourceTree.target_inj {path' : Path} (h : p.IsSourceTree root fs) (htarget : p.IsTarget fs path)
    (htarget' : p.IsTarget fs path') (hl : fs.locate path = .ok l) (hl' : fs.locate path' = .ok l) : path = path' := by
  obtain ⟨names, hpath, hat⟩ := h.exists_target htarget
  obtain ⟨names', hpath', hat'⟩ := h.exists_target htarget'
  rw [hpath, hpath', List.append_cancel_left ((hat l hl).symm.trans (hat' l hl'))]

/-- The collector is no source. -/
theorem collectorPath_not_mem (p : Package) (fs : Files) : p.collectorPath ∉ p.sources fs := by
  intro hmem
  have hname := (List.mem_filter.mp hmem).2
  simp [collectorPath, Path.child, Path.name] at hname

/-! ## The files while sources are rewritten -/

/-- What is written to a path: the collector, or the module of a source with an import of it. -/
inductive TextOf (p : Package) (fs : Files) : Path → String → Prop
  | collector : TextOf p fs p.collectorPath Collector.moduleText
  | source {path : Path} {m m' : Syntax.Module} (hpath : path ∈ p.sources fs) (hmodule : fs.HasModule path m)
      (himports : m'.Imports path m) : TextOf p fs path m'.text

theorem TextOf.isTarget (h : p.TextOf fs path text) : p.IsTarget fs path := by
  cases h with
  | collector => exact Or.inl rfl
  | source hpath => exact Or.inr hpath

theorem TextOf.marked (h : p.TextOf fs path text) : hasMarker text = true := by
  cases h with
  | collector => exact hasMarker_moduleText
  | source _ _ himports => exact himports.marked

/-- The files when some paths have been written, each with its text. -/
structure IsRewritten (p : Package) (fs : Files) (written : List Path) (fs' : Files) : Prop where
  tree : fs'.IsTree
  once : fs'.IsListing
  ways : fs.SameWays fs'
  here : fs'.workingDirectory = fs.workingDirectory
  texts : ∀ path ∈ written, ∃ l text, fs.locate path = .ok l ∧ p.TextOf fs path text ∧
    fs'.find? l = some (Run.fileWith fs l (Text.Utf8.encode text))
  others : ∀ l, (∀ path ∈ written, fs.locate path ≠ .ok l) → fs'.find? l = fs.find? l

namespace IsRewritten

theorem start (h : p.IsSourceTree root fs) : p.IsRewritten fs [] fs where
  tree := h.tree
  once := h.once
  ways _ := rfl
  here := rfl
  texts := nofun
  others _ _ := rfl

theorem locate (hi : p.IsRewritten fs written fs') : fs'.locate path = .ok l ↔ fs.locate path = .ok l :=
  hi.ways.locate hi.here

theorem isTarget (hi : p.IsRewritten fs written fs') (hpath : path ∈ written) : p.IsTarget fs path := by
  obtain ⟨-, text, -, htext, -⟩ := hi.texts path hpath
  exact htext.isTarget

/-- Only the paths matter, not their order. -/
theorem congr {written' : List Path} (hi : p.IsRewritten fs written fs')
    (hmem : ∀ path, path ∈ written' ↔ path ∈ written) : p.IsRewritten fs written' fs' :=
  { hi with
    texts := fun path hpath => hi.texts path ((hmem path).mp hpath)
    others := fun l hl => hi.others l fun path hpath => hl path ((hmem path).mpr hpath) }

/-- What stands at a target that has not been written is what stood there at the start. -/
theorem find?_target (hi : p.IsRewritten fs written fs') (h : p.IsSourceTree root fs) (htarget : p.IsTarget fs path)
    (hnew : path ∉ written) (hlocate : fs.locate path = .ok l) : fs'.find? l = fs.find? l := by
  refine hi.others l fun other hother hl => hnew ?_
  rwa [h.target_inj htarget (hi.isTarget hother) hlocate hl]

/-- A source that has not been written is read as at the start. -/
theorem module?_eq (hi : p.IsRewritten fs written fs') (h : p.IsSourceTree root fs) (hpath : path ∈ p.sources fs)
    (hnew : path ∉ written) : fs'.module? path = fs.module? path := by
  obtain ⟨names, -, hlocate⟩ := h.exists_source hpath
  apply module?_congr
  refine textAt_congr ((hi.locate.mpr hlocate).trans hlocate.symm) fun l hl => ?_
  exact hi.find?_target h (Or.inr hpath) hnew hl

/-- A path is written with its text. -/
theorem write (hi : p.IsRewritten fs written fs') (h : p.IsSourceTree root fs) (htext : p.TextOf fs path text)
    (hnew : path ∉ written) (hwrite : (fs'.write path fun _ => Text.Utf8.encode text) = .ok fs'') :
    p.IsRewritten fs (path :: written) fs'' := by
  have hlocate' : ∃ l, fs'.locate path = .ok l := by
    rw [write_eq] at hwrite
    cases hlocate : fs'.locate path with
    | error fault =>
      rw [hlocate] at hwrite
      cases hwrite
    | ok l => exact ⟨l, rfl⟩
  obtain ⟨l, hlocate'⟩ := hlocate'
  have hlocate := hi.locate.mp hlocate'
  have hsame := hi.find?_target h htext.isTarget hnew hlocate
  have hregular : ∀ e, fs'.find? l = some e → e = .directory ∨ ∃ bytes executable, e = .file bytes executable := by
    rw [hsame]
    exact h.regular htext.isTarget hlocate
  have hfile : Run.fileWith fs' l (Text.Utf8.encode text) = Run.fileWith fs l (Text.Utf8.encode text) := by
    rw [Run.fileWith, Run.fileWith, hsame]
  rw [Run.write_copy hlocate' hregular, hfile] at hwrite
  split at hwrite
  · cases hwrite
  rename_i hdirectory
  obtain rfl := Except.ok.inj hwrite
  have hplace : fs'.IsPlace l := by
    intro e he
    rcases hregular e he with rfl | hfile
    · exact absurd he hdirectory
    · exact hfile
  have hself := find?_insert_self fs' hplace.ne_nil (Run.fileWith fs l (Text.Utf8.encode text))
  constructor
  · exact hi.tree.insert (hi.tree.put_file hlocate' hplace _ _)
  · exact hi.once.insert l _
  · exact fun l' => (hi.ways l').trans ((sameWays_insert hplace.way?_eq_none rfl) l')
  · exact hi.here
  · intro other hother
    rcases List.mem_cons.mp hother with rfl | hother
    · exact ⟨l, text, hlocate, htext, hself⟩
    · obtain ⟨l', text', hl', htext', hfound⟩ := hi.texts other hother
      refine ⟨l', text', hl', htext', ?_⟩
      rw [find?_insert_of_ne fs' ?_, hfound]
      rintro rfl
      exact hnew (h.target_inj htext.isTarget htext'.isTarget hlocate hl' ▸ hother)
  · intro l' hl'
    have hne : l' ≠ l := by
      rintro rfl
      exact hl' path List.mem_cons_self hlocate
    rw [find?_insert_of_ne fs' hne]
    exact hi.others l' fun other hother => hl' other (List.mem_cons_of_mem _ hother)

/-- What has been written is marked, so it holds no module any more. -/
theorem module?_written (hi : p.IsRewritten fs written fs') (hpath : path ∈ written) : fs'.module? path = none := by
  obtain ⟨l, text, hlocate, htext, hfound⟩ := hi.texts path hpath
  rw [Option.eq_none_iff_forall_ne_some]
  intro m hm
  exact not_hasModule_of_marked (hi.locate.mpr hlocate) hfound htext.marked m (module?_eq_some.mp hm)

end IsRewritten

/-! ## Instrumenting the sources -/

variable {host : Host} {done rest : List Path}

/-- The paths that have been written when some sources have been rewritten: the collector comes with
the first one. -/
def withCollector (p : Package) : List Path → List Path
  | [] => []
  | done => p.collectorPath :: done

theorem mem_withCollector : path ∈ p.withCollector done ↔ done ≠ [] ∧ (path = p.collectorPath ∨ path ∈ done) := by
  cases done <;> simp [withCollector]

theorem not_mem_withCollector (hpath : path ∈ p.sources fs) (hnew : path ∉ done) : path ∉ p.withCollector done := by
  rw [mem_withCollector]
  rintro ⟨-, rfl | hmem⟩
  · exact p.collectorPath_not_mem fs hpath
  · exact hnew hmem

/-- How far the instrumenting of some sources has come. -/
structure Underway (p : Package) (fs : Files) (done : List Path) (host : Host) : Prop where
  rewritten : p.IsRewritten fs (p.withCollector done) host.files
  placed : host.pipeline.collectorPlaced = !done.isEmpty

/-- What is reported makes no difference. -/
theorem Underway.report (hi : p.Underway fs done host) (r : Report) : p.Underway fs done (Action.report r host).2 := by
  change p.Underway fs done (if host.listening then { host with reports := host.reports ++ [r] } else host)
  split
  · exact ⟨hi.rewritten, hi.placed⟩
  · exact hi

theorem leaves_writeText {S : Unit → Host → Prop}
    (hwrite : ∀ files, (host.files.write path fun _ => Text.Utf8.encode text) = .ok files → S () { host with files }) :
    Leaves S (fun _ _ => True) (writeText path text) host := by
  rw [Leaves, writeText, ends_changeFiles]
  cases hresult : host.files.write path fun _ => Text.Utf8.encode text with
  | ok files => exact .ok (hwrite files hresult)
  | error fault => exact .error trivial

/-- The collector is there afterwards, whether it has been written now or before. -/
theorem Underway.placeCollector (hi : p.Underway fs done host) (h : p.IsSourceTree root fs) :
    Leaves (fun _ host => p.IsRewritten fs (p.collectorPath :: done) host.files ∧ host.pipeline.collectorPlaced = true)
      (fun _ _ => True) p.placeCollector host := by
  rw [Package.placeCollector]
  refine .get_bind ?_
  rw [hi.placed]
  have hrewritten := hi.rewritten
  cases done with
  | nil =>
    refine Leaves.bind (S := fun _ host => p.IsRewritten fs [p.collectorPath] host.files)
      (leaves_writeText fun files hwrite => ?_) fun _ host hi => ?_
    · exact hrewritten.write h .collector List.not_mem_nil hwrite
    · exact .ok ⟨hi, rfl⟩
  | cons first done => exact .pure ⟨hrewritten, hi.placed⟩

/-- A source that holds a module is rewritten. -/
theorem Underway.instrumentModule (hi : p.Underway fs done host) (h : p.IsSourceTree root fs)
    (hpath : path ∈ p.sources fs) (hnew : path ∉ done) {m : Syntax.Module} (hmodule : fs.HasModule path m) :
    Leaves (fun result host => result.written = path.text ∧ p.Underway fs (done ++ [path]) host) (fun _ _ => True)
      (p.instrumentModule path m) host := by
  rw [Package.instrumentModule, Leaves, ends_bind, ends_analyze]
  cases m.analyze with
  | error f => exact .error trivial
  | ok analysis =>
    refine (hi.placeCollector h).bind fun _ host hplaced => ?_
    obtain ⟨hi, hplaced⟩ := hplaced
    obtain ⟨m', himports⟩ := exists_imports path m
    have hother : path ∉ p.collectorPath :: done := by
      rw [List.mem_cons, not_or]
      exact ⟨fun heq => p.collectorPath_not_mem fs (heq ▸ hpath), hnew⟩
    have hwritten : Leaves (fun _ host => p.Underway fs (done ++ [path]) host) (fun _ _ => True)
        (writeText path m'.text) host := by
      refine leaves_writeText fun files hwrite => ?_
      constructor
      · refine (hi.write h (.source hpath hmodule himports) hother hwrite).congr fun other => ?_
        rw [mem_withCollector, List.mem_append, List.mem_singleton, List.mem_cons, List.mem_cons]
        refine (and_iff_right (List.append_ne_nil_of_right_ne_nil done (List.cons_ne_nil path []))).trans ?_
        exact or_assoc.symm.trans or_comm
      · rw [hplaced]
        cases done <;> rfl
    rw [Action.instrumentModule, himports.instrumented]
    dsimp only
    rw [pure_bind]
    refine hwritten.bind fun _ host hi => ?_
    exact .pure ⟨rfl, hi⟩

/-- A source is rewritten if it holds a module, and is left as it is otherwise. -/
theorem Underway.instrument? (hi : p.Underway fs done host) (h : p.IsSourceTree root fs)
    (hpath : path ∈ p.sources fs) (hnew : path ∉ done) :
    Leaves (fun result host => result.toList.map (·.written) = (fs.holders [path]).map Path.text ∧
        p.Underway fs (done ++ fs.holders [path]) host) (fun _ _ => True) (p.instrument? path) host := by
  have hsame := hi.rewritten.module?_eq h hpath (not_mem_withCollector hpath hnew)
  rw [Package.instrument?]
  dsimp only
  rw [Leaves, ends_bind, ends_attempt, ends_readModule]
  cases hread : host.files.moduleAt path (p.originOf path).1 with
  | ok m =>
    have hmodule : fs.module? path = some m := hsame ▸ module?_eq_some.mpr (moduleAt_eq_ok.mp hread)
    have hholders : fs.holders [path] = [path] := by
      simp [holders, hmodule]
    rw [hholders]
    refine (hi.instrumentModule h hpath hnew (module?_eq_some.mp hmodule)).bind fun result host hresult => ?_
    exact .pure ⟨congrArg (fun text => [text]) hresult.1, hresult.2⟩
  | error f =>
    have hholders : fs.holders [path] = [] := by
      have hnone : fs.module? path = none := by
        rw [← hsame, module?_eq_none (p.originOf path).1]
        exact ⟨f, hread⟩
      simp [holders, hnone]
    rw [hholders, List.append_nil]
    exact .ok ⟨rfl, hi.report (.warn ("Failed to instrument " ++ (p.originOf path).1 ++ ": " ++ f.message))⟩

/-- Some sources are instrumented, one after the other. -/
theorem Underway.instrumentAll (hi : p.Underway fs done host) (h : p.IsSourceTree root fs) (hrest : rest ⊆ p.sources fs)
    (honce : rest.Nodup) (hnew : ∀ path ∈ rest, path ∉ done) :
    Leaves (fun results host => results.map (·.written) = (fs.holders rest).map Path.text ∧
        p.Underway fs (done ++ fs.holders rest) host) (fun _ _ => True) (p.instrumentAll rest) host := by
  induction rest generalizing done host with
  | nil =>
    rw [holders, List.filter_nil, List.append_nil]
    exact .pure ⟨rfl, hi⟩
  | cons path rest ih =>
    have hsplit : fs.holders (path :: rest) = fs.holders [path] ++ fs.holders rest := by
      rw [holders, holders, holders, ← List.filter_append, List.singleton_append]
    rw [List.nodup_cons] at honce
    rw [Package.instrumentAll, hsplit]
    refine (hi.instrument? h (hrest List.mem_cons_self) (hnew path List.mem_cons_self)).bind
      fun first host hone => ?_
    obtain ⟨hfirst, hi⟩ := hone
    have hnew' : ∀ other ∈ rest, other ∉ done ++ fs.holders [path] := by
      intro other hother hmem
      rcases List.mem_append.mp hmem with hmem | hmem
      · exact hnew other (List.mem_cons_of_mem path hother) hmem
      · obtain rfl := List.mem_singleton.mp (mem_holders.mp hmem).1
        exact honce.1 hother
    refine (ih hi (fun other hother => hrest (List.mem_cons_of_mem path hother)) honce.2 hnew').bind
      fun more host hrest => ?_
    obtain ⟨hmore, hi⟩ := hrest
    refine .pure ⟨?_, ?_⟩
    · rw [List.map_append, List.map_append, hfirst, hmore]
    · rw [← List.append_assoc]
      exact hi

theorem leaves_instrumentSources (h : p.IsSourceTree root host.files) (hfresh : host.pipeline.collectorPlaced = false) :
    Leaves (fun results host' => p.sources host.files ≠ [] ∧
        results.map (·.written) = (p.rewritable host.files).map Path.text ∧
        p.Underway host.files (p.rewritable host.files) host') (fun _ _ => True) p.instrumentSources host := by
  rw [instrumentSources]
  refine .get_bind ?_
  have honce : (p.sources host.files).Nodup := (nodup_sources h.once _ _).filter _
  have hstart : p.Underway host.files [] host := ⟨.start h, hfresh⟩
  have hall := hstart.instrumentAll h (List.Subset.refl _) honce fun _ _ => List.not_mem_nil
  rw [rewritable]
  cases hsources : p.sources host.files with
  | nil => exact .error trivial
  | cons first rest =>
    rw [hsources] at hall
    refine hall.mono (fun results host' hresults => ⟨List.cons_ne_nil first rest, hresults⟩) fun _ _ => id

/-! ## Instrumenting once more -/

/-- A source that holds no module is left as it is. -/
theorem ends_instrument?_none (hnone : host.files.module? path = none) :
    Ends (p.instrument? path) host fun result host' => result = .ok none ∧ host'.files = host.files := by
  obtain ⟨f, hread⟩ := (module?_eq_none (p.originOf path).1).mp hnone
  rw [Package.instrument?]
  dsimp only
  rw [ends_bind, ends_attempt, ends_readModule, hread]
  dsimp only
  refine ends_report_bind fun host' hview => ?_
  exact ⟨rfl, congrArg Prod.fst hview⟩

theorem ends_instrumentAll_none (hnone : ∀ path ∈ rest, host.files.module? path = none) :
    Ends (p.instrumentAll rest) host fun result host' => result = .ok [] ∧ host'.files = host.files := by
  induction rest generalizing host with
  | nil => exact ⟨rfl, rfl⟩
  | cons path rest ih =>
    rw [Package.instrumentAll, ends_bind]
    refine Ends.mono (ends_instrument?_none (hnone path List.mem_cons_self)) ?_
    rintro _ host' ⟨rfl, hfiles⟩
    dsimp only
    rw [ends_bind]
    refine Ends.mono (ih fun other hother => hfiles ▸ hnone other (List.mem_cons_of_mem path hother)) ?_
    rintro _ host'' ⟨rfl, hfiles'⟩
    exact ⟨rfl, hfiles'.trans hfiles⟩

/-- What the sources are depends on where entries stand, and on what stands at their root. -/
theorem mem_sources_iff (htree : fs.IsTree) (hlocated : fs.locate p.sourceRoot = .ok root) :
    path ∈ p.sources fs ↔ path.name ≠ collectorFile ∧
      (fs.isFile p.sourceRoot = true ∧ path = p.sourceAt [] ∨
        fs.isFile p.sourceRoot = false ∧ fs.find? root = some .directory ∧
          ∃ names, isSource p.config.instrumentedSuffix names = true ∧ fs.find? (root ++ names) ≠ none ∧
            path = p.sourceAt names) := by
  rw [sources, List.mem_filter, mem_sources, decide_eq_true_eq, and_comm]
  refine and_congr_right fun _ => or_congr ?_ (and_congr_right fun _ => ?_)
  · rw [sourceAt, List.append_nil]
  · constructor
    · rintro ⟨l, names, hlocate, hdirectory, hnames, rfl⟩
      obtain rfl := Except.ok.inj (hlocated.symm.trans hlocate)
      obtain ⟨hsource, e, he⟩ := mem_sourceNames.mp hnames
      exact ⟨hdirectory, names, hsource, by simp [htree.found _ he], rfl⟩
    · rintro ⟨hdirectory, names, hsource, hfound, rfl⟩
      refine ⟨root, names, hlocated, hdirectory, mem_sourceNames.mpr ⟨hsource, ?_⟩, rfl⟩
      have hne : names ≠ [] := by
        rintro rfl
        cases hsource
      exact (exists_mem_entries_iff htree (List.append_ne_nil_of_right_ne_nil root hne)).mpr hfound

section Again

variable (hi : p.IsRewritten fs (p.withCollector (p.rewritable fs)) fs') (h : p.IsSourceTree root fs)
include hi h

/-- Beside the file of the collector, a regular file has been written where one stood, or nothing has
been written at all. -/
theorem IsRewritten.same_or_file (hother : l ≠ root ++ [collectorFile]) :
    fs'.find? l = fs.find? l ∨ (∃ bytes executable, fs.find? l = some (.file bytes executable)) ∧
      ∃ bytes executable, fs'.find? l = some (.file bytes executable) := by
  by_cases hwritten : ∃ path ∈ p.withCollector (p.rewritable fs), fs.locate path = .ok l
  · obtain ⟨path, hpath, hlocate⟩ := hwritten
    obtain ⟨l', text, hl, htext, hfound⟩ := hi.texts path hpath
    obtain rfl := Except.ok.inj (hlocate.symm.trans hl)
    cases htext with
    | collector => exact absurd (h.locate_collector hlocate) hother
    | source hsource hmodule => exact Or.inr ⟨h.exists_file hsource hmodule hlocate, _, _, hfound⟩
  · push Not at hwritten
    exact Or.inl (hi.others _ hwritten)

/-- The sources are still the same. -/
theorem IsRewritten.mem_sources_iff : path ∈ p.sources fs' ↔ path ∈ p.sources fs := by
  have hpresent {l : Location} (hother : l ≠ root ++ [collectorFile]) : fs'.find? l ≠ none ↔ fs.find? l ≠ none := by
    rcases hi.same_or_file h hother with heq | ⟨⟨bytes, executable, hold⟩, bytes', executable', hnew⟩
    · rw [heq]
    · simp [hold, hnew]
  have hroot : root ≠ root ++ [collectorFile] := by simp
  have hlocated := hi.locate.mpr h.located
  have hfile : fs'.isFile p.sourceRoot = fs.isFile p.sourceRoot := by
    rw [isFile, isFile, status?, status?, hlocated, h.located]
    dsimp only
    rcases hi.same_or_file h hroot with heq | ⟨⟨bytes, executable, hold⟩, bytes', executable', hnew⟩
    · rw [heq]
    · rw [hold, hnew]
  have hdirectory : fs'.find? root = some .directory ↔ fs.find? root = some .directory :=
    (hi.ways.find?_eq rfl).symm
  rw [Package.mem_sources_iff hi.tree hlocated, Package.mem_sources_iff h.tree h.located, hfile, hdirectory]
  refine and_congr_right fun hname => or_congr_right <| and_congr_right fun _ => and_congr_right fun _ =>
    exists_congr fun names => and_congr_right fun _ => and_congr_left ?_
  rintro rfl
  refine hpresent fun heq => hname ?_
  rw [List.append_cancel_left heq, sourceAt, Path.name, List.getLast?_concat]
  rfl

/-- No source holds a module any more. -/
theorem IsRewritten.module?_none (hpath : path ∈ p.sources fs) : fs'.module? path = none := by
  by_cases hmem : path ∈ p.rewritable fs
  · exact hi.module?_written (mem_withCollector.mpr ⟨List.ne_nil_of_mem hmem, Or.inr hmem⟩)
  · rw [hi.module?_eq h hpath (not_mem_withCollector hpath hmem), ← Option.not_isSome_iff_eq_none]
    exact fun hsome => hmem (List.mem_filter.mpr ⟨hpath, hsome⟩)

/-- Instrumenting once more rewrites nothing. -/
theorem IsRewritten.ends_again (hsources : p.sources fs ≠ []) {again : Host} (hfiles : again.files = fs') :
    Ends p.instrumentSources again fun result host => result = .ok [] ∧ host.files = again.files := by
  have hsame {path : Path} : path ∈ p.sources again.files ↔ path ∈ p.sources fs := hfiles ▸ hi.mem_sources_iff h
  rw [instrumentSources, ends_bind, ends_get]
  dsimp only
  split
  · rename_i hnil
    obtain ⟨path, hpath⟩ := List.exists_mem_of_ne_nil _ hsources
    rw [← hsame, hnil] at hpath
    cases hpath
  · exact ends_instrumentAll_none fun path hpath => hfiles ▸ hi.module?_none h (hsame.mp hpath)

end Again

/-- What instrumenting the sources of a working copy has done, if it ends well.  The sources that are
rewritten are those that hold a module and are not called as the collector is, in order and each once.
Each is marked, imports the collector, and defines the classes that it defined before; if there are any,
the collector stands beside them.  Nothing else has changed, and nothing will if the sources are
instrumented once more. -/
theorem rewritten_of_instrumentSources {results : List Instrumented} (h : p.IsSourceTree root host.files)
    (hfresh : host.pipeline.collectorPlaced = false) (hresults : (p.instrumentSources host).1 = .ok results) :
    results.map (·.written) = (p.rewritable host.files).map Path.text ∧
      (p.rewritable host.files).Pairwise (fun a b => a.le b = true ∧ a ≠ b) ∧
      (∀ path ∈ p.rewritable host.files, ∃ l, ∃ m m' : Syntax.Module, host.files.locate path = .ok l ∧ host.files.HasModule path m ∧
        m'.Imports path m ∧ (p.instrumentSources host).2.files.find? l =
          some (Run.fileWith host.files l (Text.Utf8.encode m'.text))) ∧
      (results ≠ [] → ∃ l, host.files.locate p.collectorPath = .ok l ∧ (p.instrumentSources host).2.files.find? l =
        some (Run.fileWith host.files l (Text.Utf8.encode Collector.moduleText))) ∧
      (∀ l, (∀ path ∈ p.withCollector (p.rewritable host.files), host.files.locate path ≠ .ok l) →
        (p.instrumentSources host).2.files.find? l = host.files.find? l) ∧
      ∀ again, again.files = (p.instrumentSources host).2.files →
        (p.instrumentSources again).1 = .ok [] ∧ (p.instrumentSources again).2.files = again.files := by
  obtain ⟨hsources, hwritten, ⟨hi, -⟩⟩ := (leaves_instrumentSources h hfresh).of_ok hresults
  have hnone : p.rewritable host.files = [] → results = [] := by
    intro hnil
    rw [hnil] at hwritten
    exact List.map_eq_nil_iff.mp hwritten
  refine ⟨hwritten, ?_, fun path hpath => ?_, fun hne => ?_, hi.others, fun again hfiles => hi.ends_again h hsources hfiles⟩
  · have hle := (pairwise_sources host.files p.sourceRoot p.config.instrumentedSuffix).and
      (nodup_sources h.once p.sourceRoot p.config.instrumentedSuffix)
    exact (hle.filter _).filter _
  · obtain ⟨hsource, -⟩ := List.mem_filter.mp hpath
    obtain ⟨l, text, hlocate, htext, hfound⟩ :=
      hi.texts path (mem_withCollector.mpr ⟨List.ne_nil_of_mem hpath, Or.inr hpath⟩)
    cases htext with
    | collector => exact absurd hsource (p.collectorPath_not_mem host.files)
    | source _ hmodule himports => exact ⟨l, _, _, hlocate, hmodule, himports, hfound⟩
  · obtain ⟨l, text, hlocate, htext, hfound⟩ :=
      hi.texts p.collectorPath (mem_withCollector.mpr ⟨mt hnone hne, Or.inl rfl⟩)
    generalize hpath : p.collectorPath = path at htext
    cases htext with
    | collector => exact ⟨l, hlocate, hfound⟩
    | source hsource => exact absurd hsource (hpath ▸ p.collectorPath_not_mem host.files)

/-- A working copy with a program in two files, a file that is marked, and one that is no program. -/
def mixedFiles : Files where
  entries :=
    [(["w"], .directory), (["w", "src"], .directory),
     (["w", "src", "a.py"], .file (Text.Utf8.encode "async def f():\n    return 1\n") true),
     (["w", "src", "b.py"], .file (Text.Utf8.encode "_async_profiler_metrics = None\n") false),
     (["w", "src", "c.py"], .file (Text.Utf8.encode "def\n") false), (["w", "src", "sub"], .directory),
     (["w", "src", "sub", "d.py"], .file (Text.Utf8.encode "x = 1\n") false)]
  workingDirectory := []

/-- The package of this working copy. -/
def mixed : Package :=
  ⟨Path.ofText "/pkg", Config.usual (Path.ofText "/home") (Path.ofText "/tmp") "python3", Path.ofText "/w"⟩

/-- A host with this working copy. -/
def mixedHost : Host where
  files := mixedFiles
  clock := ⟨[]⟩
  named := 0
  upcoming := []
  spawned := []
  searchPath := none
  listening := true
  reports := []
  pipeline := ⟨Stages.ofNames Package.stageNames, [], false⟩
  now := ⟨2025, 1, 1, 12, 0, 0, 0, none⟩

theorem isSourceTree_mixed : mixed.IsSourceTree ["w", "src"] mixedFiles where
  tree := by decide +kernel
  once := by decide +kernel
  located := by decide +kernel
  no_link names target hlink := by
    have hall : ∀ e ∈ mixedFiles.entries, ∀ target, e.2 ≠ .link target := by simp [mixedFiles]
    exact hall _ (mem_of_find (List.cons_ne_nil _ _) hlink) target rfl
  no_pipe path _ hpipe := by
    have hall : ∀ e ∈ mixedFiles.entries, e.2 ≠ .pipe := by simp [mixedFiles]
    rw [status?] at hpipe
    split at hpipe
    · rename_i l _
      have hne : l ≠ [] := by
        rintro rfl
        cases hpipe
      exact hall _ (mem_of_find hne hpipe) rfl
    · cases hpipe

theorem sources_mixed : mixed.sources mixedFiles =
    ["/w/src/a.py", "/w/src/b.py", "/w/src/c.py", "/w/src/sub/d.py"].map Path.ofText := by
  have hroot : mixed.sourceRoot = ⟨.root, ["w", "src"]⟩ := by decide +kernel
  have hfile : mixedFiles.isFile mixed.sourceRoot = false := by decide +kernel
  have hdirectory : mixedFiles.find? ["w", "src"] = some .directory := by decide +kernel
  have hnames : mixedFiles.sourceNames ["w", "src"] mixed.config.instrumentedSuffix =
      [["a.py"], ["b.py"], ["c.py"], ["sub", "d.py"]] := by
    rw [sourceNames, List.mergeSort_of_pairwise (by decide +kernel)]
    decide +kernel
  rw [sources, Files.sources, if_neg (by simp [hfile]), isSourceTree_mixed.located]
  dsimp only
  rw [if_pos hdirectory, hnames, hroot]
  decide +kernel

/-- The two files of the program are rewritten, and nothing is rewritten after that. -/
theorem rewritten_of_mixed : ∃ results, (mixed.instrumentSources mixedHost).1 = .ok results ∧
    results.map (·.written) = ["/w/src/a.py", "/w/src/sub/d.py"] ∧
    (∃ l, mixedFiles.locate mixed.collectorPath = .ok l ∧ (mixed.instrumentSources mixedHost).2.files.find? l =
      some (Run.fileWith mixedFiles l (Text.Utf8.encode Collector.moduleText))) ∧
    (mixed.instrumentSources (mixed.instrumentSources mixedHost).2).1 = .ok [] := by
  have hreturns : (mixed.instrumentSources mixedHost).1.isOk = true := by
    change ((match mixed.sources mixedFiles with
      | [] => raise (.noSourceFiles mixed.config.sourceDirectory)
      | paths => mixed.instrumentAll paths) mixedHost).1.isOk = true
    rw [sources_mixed]
    decide +kernel
  cases hresults : (mixed.instrumentSources mixedHost).1 with
  | error f =>
    rw [hresults] at hreturns
    cases hreturns
  | ok results =>
    obtain ⟨hwritten, -, -, hcollector, -, hagain⟩ := rewritten_of_instrumentSources isSourceTree_mixed rfl hresults
    have htexts : (mixed.rewritable mixedFiles).map Path.text = ["/w/src/a.py", "/w/src/sub/d.py"] := by
      rw [rewritable, sources_mixed]
      decide +kernel
    have hnames := hwritten.trans htexts
    refine ⟨results, rfl, hnames, hcollector fun hnil => ?_, (hagain _ rfl).1⟩
    rw [hnil] at hnames
    cases hnames

end Package

end Stopwatch

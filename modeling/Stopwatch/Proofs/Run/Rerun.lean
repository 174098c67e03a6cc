/-
  Running twice.

  What a run leaves is a tree like the one that it found: the same sources, with their copies
  beside them.  A second run therefore finds out the same about each source and writes the same
  copies, which changes nothing.
-/
import Stopwatch.Proofs.Run.Sparing

namespace Stopwatch

open Action Files

namespace Run

variable {r : Run} {root dir : Location} {fs₀ fs₁ fs : Files} {path : Path} {name text : String} {l : Location}
  {done : List Path} {host h : Host} {day : Timestamp} {F : Failure → Prop}

/-! ## What a run leaves -/

/-- The files that are left when some sources have got their copies, and copies have been run. -/
structure IsLeft (r : Run) (root : Location) (fs₀ : Files) (done : List Path) (fs₁ : Files) : Prop where
  isTree : fs₁.IsTree
  once : fs₁.IsListing
  grounds : fs₀.Grounds fs₁
  copied : ∀ path ∈ done, ∀ text l, r.Copies root fs₀ path text l →
    fs₁.find? l = some (fileWith fs₀ l (Text.Utf8.encode text))
  rest : ∀ l, r.Holds root fs₀ l → fs₁.find? l = fs₀.find? l ∨
    ∃ path text, r.Copies root fs₀ path text l ∧ fs₁.find? l = some (fileWith fs₀ l (Text.Utf8.encode text))

theorem IsCopied.isLeft (hi : r.IsCopied root fs₀ done fs) : r.IsLeft root fs₀ done fs where
  isTree := hi.tree
  once := hi.once
  grounds :=
    { here := hi.here
      directories := fun _ hl => (hi.ways.find?_eq rfl).mp hl
      links := fun _ _ hl _ => (hi.ways.find?_eq rfl).mp hl }
  copied := hi.copied
  rest := hi.rest

/-- Running copies leaves the tree alone. -/
theorem IsCopied.isLeft_of_isSpared (hi : r.IsCopied root fs₀ done fs) (hplain : r.IsPlain root fs₀)
    (hsuffix : r.config.instrumentedSuffix ≠ "") (hs : r.IsSpared (r.Holds root fs₀) day fs fs₁) :
    r.IsLeft root fs₀ done fs₁ where
  isTree := hs.isTree
  once := hs.once
  grounds :=
    { here := hs.grounds.here.trans hi.here
      directories := fun l hl => hs.grounds.directories l ((hi.ways.find?_eq rfl).mp hl)
      links := by
        rintro l target hl ⟨links, d, hleads, hd⟩
        refine hs.grounds.links l target ((hi.ways.find?_eq rfl).mp hl) ⟨links, d, ?_, ?_⟩
        · exact hleads.of_sameWays hi.ways
        · exact (hi.ways.find?_eq rfl).mp hd }
  copied path hpath text l hc := by
    rw [hs.same l (hc.holds hplain hsuffix)]
    exact hi.copied path hpath text l hc
  rest l hl := by
    rw [hs.same l hl]
    exact hi.rest l hl

section Left

variable (hplain : r.IsPlain root fs₀) (hsuffix : r.config.instrumentedSuffix ≠ "")
  (hleft : r.IsLeft root fs₀ done fs₁)

include hplain hsuffix hleft

omit hplain in
/-- No copy stands where the input does. -/
theorem IsLeft.find?_root : fs₁.find? root = fs₀.find? root := by
  rcases hleft.rest root (Or.inl (List.prefix_refl root)) with hsame | ⟨path, text, ⟨-, dir, name, hat, hl⟩, -⟩
  · exact hsame
  · cases hat with
    | file hpath hroot hfile =>
      rw [hroot] at hl
      have hname := List.singleton_inj.mp (List.append_inj' hl rfl).2
      exact absurd hname.symm (copyNameOf_ne_self hsuffix name)
    | below dirs hfile hroot hnames hdir =>
      have hlength := congrArg List.length hl
      rw [hdir] at hlength
      simp only [List.length_append, List.length_singleton] at hlength
      omega

/-- Sources are left alone. -/
theorem IsLeft.find?_source (hat : r.SourceAt root fs₀ path dir name) :
    fs₁.find? (dir ++ [name]) = fs₀.find? (dir ++ [name]) := by
  rcases hleft.rest _ hat.holds with hsame | ⟨path', text, ⟨-, dir', name', hat', hl⟩, -⟩
  · exact hsame
  · exact absurd hl.symm (hat'.copy_ne hplain hsuffix hat)

/-- The input leads where it led, if there is one. -/
theorem IsLeft.located (hexists : fs₀.find? root ≠ none) :
    fs₁.locateLink r.input = .ok root ∧ fs₁.locate r.input = .ok root := by
  obtain ⟨e, he⟩ := Option.ne_none_iff_exists'.mp hexists
  rcases hplain.regular root (Or.inl (List.prefix_refl root)) e he with rfl | ⟨bytes, executable, rfl⟩
  · exact ⟨hleft.grounds.locateLink hplain.own he, hleft.grounds.locate hplain.located he⟩
  · have hfile : fs₀.isFile r.input = true := by
      rw [isFile, status?, hplain.located]
      dsimp only
      rw [he]
    obtain ⟨front, name, mid, hnames, hup, hroot, hdirectory, hfront⟩ := hplain.names_of_file hfile
    have hthere := hleft.grounds.leads hfront hdirectory
    rw [← start_congr hleft.grounds.here] at hthere
    have hmid := hleft.grounds.directories mid hdirectory
    rw [locateLink_eq_ok_iff, locate_eq_ok_iff, hnames, hroot]
    refine ⟨hthere.concat_own hmid hup, hthere.concat hmid hup fun target hlink => ?_⟩
    rw [← hroot, hleft.find?_root hsuffix, he] at hlink
    cases hlink

/-- The input is a file, or a directory, as before. -/
theorem IsLeft.status?_input (hexists : fs₀.find? root ≠ none) : fs₁.status? r.input = fs₀.status? r.input := by
  rw [status?, status?, (hleft.located hplain hsuffix hexists).2, hplain.located]
  exact hleft.find?_root hsuffix

/-- There are entries at the same source names. -/
theorem IsLeft.sourceNames_eq (hdirectory : fs₀.find? root = some .directory) :
    fs₁.sourceNames root r.config.instrumentedSuffix = fs₀.sourceNames root r.config.instrumentedSuffix := by
  refine sourceNames_congr hplain.tree hleft.isTree hplain.once hleft.once fun names hsource => ?_
  rcases hleft.rest (root ++ names) (Or.inl (List.prefix_append _ _)) with hsame | ⟨path, text, ⟨-, dir, name, hat, hl⟩, -⟩
  · rw [hsame]
  · -- the name of a copy is not that of a source
    exfalso
    cases hat with
    | file hpath hroot hfile =>
      rw [isFile, status?, hplain.located] at hfile
      dsimp only at hfile
      rw [hdirectory] at hfile
      cases hfile
    | below dirs hfile hroot hnames hdir =>
      rw [hdir, List.append_assoc] at hl
      rw [List.append_cancel_left hl] at hsource
      have hextension := (isSource_iff.mp (mem_sourceNames.mp hnames).1).1
      have hcopy := isSource_copyName hsuffix hextension (hplain.hidden_of_mem hnames) dirs
      rw [copyNameOf, hcopy] at hsource
      cases hsource

/-- The same sources are found. -/
theorem IsLeft.paths_eq (hexists : fs₀.find? root ≠ none) : r.paths fs₁ = r.paths fs₀ := by
  have hstatus := hleft.status?_input hplain hsuffix hexists
  rw [paths, paths, sources, sources, isFile, isFile, hstatus, (hleft.located hplain hsuffix hexists).2, hplain.located]
  dsimp only
  rw [hleft.find?_root hsuffix]
  by_cases hdirectory : fs₀.find? root = some .directory
  · rw [hleft.sourceNames_eq hplain hsuffix hdirectory]
  · rw [if_neg hdirectory, if_neg hdirectory]

/-- The tree of the run is the same. -/
theorem IsLeft.holds_eq (hexists : fs₀.find? root ≠ none) : r.Holds root fs₁ = r.Holds root fs₀ := by
  have hcopy {path : Path} (hpath : path ∈ r.paths fs₀) {l : Location} :
      fs₁.locateLink (r.copyPath path) = .ok l ↔ fs₀.locateLink (r.copyPath path) = .ok l := by
    obtain ⟨dir, name, hat⟩ := hplain.exists_sourceAt hpath
    have hstands := hat.stands hplain hsuffix
    have hthere : fs₁.locateLink (r.copyPath path) = .ok (dir ++ [r.copyNameOf name]) := by
      have hhere := hstands.copy_own
      rw [hstands.copy_eq] at hhere ⊢
      exact hleft.grounds.locateLink_child hstands.copy_ne hhere
    rw [hstands.copy_own, hthere]
  funext l
  rw [Holds, Holds, hleft.paths_eq hplain hsuffix hexists]
  refine propext (or_congr_right ?_)
  exact exists_congr fun path => and_congr_right fun hpath => hcopy hpath

/-- What is left is a tree like the one that was found. -/
theorem IsLeft.isPlain (hexists : fs₀.find? root ≠ none) : r.IsPlain root fs₁ where
  tree := hleft.isTree
  once := hleft.once
  proper := hplain.proper
  own := (hleft.located hplain hsuffix hexists).1
  located := (hleft.located hplain hsuffix hexists).2
  regular l hl e he := by
    rw [hleft.holds_eq hplain hsuffix hexists] at hl
    rcases hleft.rest l hl with hsame | ⟨path, text, -, hfound⟩
    · exact hplain.regular l hl e (hsame ▸ he)
    · rw [hfound] at he
      exact Or.inr ⟨_, _, (Option.some.inj he).symm⟩
  hidden dirs hdirs := by
    obtain ⟨-, e, he⟩ := mem_sourceNames.mp hdirs
    by_cases hdirectory : fs₀.find? root = some .directory
    · rw [hleft.sourceNames_eq hplain hsuffix hdirectory] at hdirs
      exact hplain.hidden dirs hdirs
    · -- below a file there is nothing
      exfalso
      have hbelow := hleft.isTree.directory_of_prefix (hleft.isTree.found _ he) (List.prefix_append root _)
        fun heq => by simp at heq
      rw [hleft.find?_root hsuffix] at hbelow
      exact hdirectory hbelow

/-- A source is where it was. -/
theorem IsLeft.sourceAt_iff (hexists : fs₀.find? root ≠ none) :
    r.SourceAt root fs₁ path dir name ↔ r.SourceAt root fs₀ path dir name := by
  have hfile : fs₁.isFile r.input = fs₀.isFile r.input := by
    rw [isFile, isFile, hleft.status?_input hplain hsuffix hexists]
  have hroot := hleft.find?_root hsuffix
  constructor
  · intro hat
    cases hat with
    | file hpath hdir hisFile => exact .file hpath hdir (hfile ▸ hisFile)
    | below dirs hisFile hdirectory hnames hdir hpath =>
      rw [hroot] at hdirectory
      rw [hleft.sourceNames_eq hplain hsuffix hdirectory] at hnames
      exact .below dirs (hfile ▸ hisFile) hdirectory hnames hdir hpath
  · intro hat
    cases hat with
    | file hpath hdir hisFile => exact .file hpath hdir (hfile.symm ▸ hisFile)
    | below dirs hisFile hdirectory hnames hdir hpath =>
      rw [← hleft.sourceNames_eq hplain hsuffix hdirectory] at hnames
      exact .below dirs (hfile.symm ▸ hisFile) (hroot.trans hdirectory) hnames hdir hpath

/-- The same is found out about a source. -/
theorem IsLeft.verdict_eq (hexists : fs₀.find? root ≠ none) (hpath : path ∈ r.paths fs₀) :
    r.verdict fs₁ path = r.verdict fs₀ path := by
  obtain ⟨dir, name, hat⟩ := hplain.exists_sourceAt hpath
  have hat' := (hleft.sourceAt_iff hplain hsuffix hexists).mpr hat
  have hhere := (hat.stands hplain hsuffix).located
  have hthere := (hat'.stands (hleft.isPlain hplain hsuffix hexists) hsuffix).located
  apply verdict_congr
  refine textAt_congr (hthere.trans hhere.symm) fun l hl => ?_
  obtain rfl := Except.ok.inj (hhere.symm.trans hl)
  exact hleft.find?_source hplain hsuffix hat

theorem IsLeft.copies (hexists : fs₀.find? root ≠ none) (hc : r.Copies root fs₁ path text l) :
    r.Copies root fs₀ path text l := by
  obtain ⟨dir, name, hat, hl⟩ := hc.at_
  have hat' := (hleft.sourceAt_iff hplain hsuffix hexists).mp hat
  refine ⟨?_, dir, name, hat', hl⟩
  rw [← hleft.verdict_eq hplain hsuffix hexists (hat'.mem_paths hplain)]
  exact hc.judged

/-! ## Once more -/

/-- A second run leaves the tree as it is, at every moment. -/
theorem IsLeft.same_of_isCopied (hexists : fs₀.find? root ≠ none) (hdone : ∀ path ∈ r.paths fs₀, path ∈ done)
    {done' : List Path} (hi : r.IsCopied root fs₁ done' fs) (hl : r.Holds root fs₀ l) : fs.find? l = fs₁.find? l := by
  have hl' : r.Holds root fs₁ l := by
    rw [hleft.holds_eq hplain hsuffix hexists]
    exact hl
  rcases hi.rest l hl' with hsame | ⟨path, text, hc, hfound⟩
  · exact hsame
  · -- what is written is what stands there already
    have hc' := hleft.copies hplain hsuffix hexists hc
    obtain ⟨dir, name, hat, -⟩ := hc'.at_
    have hthere := hleft.copied path (hdone path (hat.mem_paths hplain)) text l hc'
    rw [hfound, hthere, fileWith_of_found hthere]

/-- What could be instrumented can be instrumented again. -/
theorem IsLeft.fits (hexists : fs₀.find? root ≠ none) (hdone : ∀ path ∈ r.paths fs₀, path ∈ done)
    (hpath : path ∈ r.paths fs₀) (hfits : r.Fits fs₀ path) : r.Fits fs₁ path := by
  obtain ⟨v, hv, -⟩ := hfits.judged
  have hverdict := hleft.verdict_eq hplain hsuffix hexists hpath
  refine ⟨hfits.name, v, hverdict.trans hv, fun hsome => ?_⟩
  obtain ⟨⟨result, text⟩, rfl⟩ := Option.ne_none_iff_exists'.mp hsome
  obtain ⟨dir, name, hat⟩ := hplain.exists_sourceAt hpath
  have hat' := (hleft.sourceAt_iff hplain hsuffix hexists).mpr hat
  have hlocate := (hat'.stands (hleft.isPlain hplain hsuffix hexists) hsuffix).copy
  have hthere := hleft.copied path (hdone path hpath) text _ ⟨⟨result, hv⟩, dir, name, hat, rfl⟩
  refine ⟨_, hlocate, ?_⟩
  rw [hthere]
  exact fun heq => nomatch heq

end Left

/-! ## How sources are shown -/

/-- Paths are shown relative to the input, or to its directory. -/
theorem IsPlain.shown_eq (hplain : r.IsPlain root fs) (hexists : fs.find? root ≠ none) (p : Path) :
    r.shown fs p =
      ((p.relativeTo? (if fs.find? root = some .directory then r.input else r.input.parent)).getD p).text := by
  obtain ⟨e, he⟩ := Option.ne_none_iff_exists'.mp hexists
  have hstatus : fs.status? r.input = some e := by
    rw [status?, hplain.located]
    exact he
  rcases hplain.regular root (Or.inl (List.prefix_refl root)) e he with rfl | ⟨bytes, executable, rfl⟩
  · have hfile : fs.isFile r.input = false := by rw [isFile, hstatus]
    have hdirectory : fs.isDirectory r.input = true := by rw [isDirectory, hstatus]; rfl
    rw [Run.shown, if_pos hdirectory, Files.shown, hfile, he]
    rfl
  · have hfile : fs.isFile r.input = true := by rw [isFile, hstatus]
    have hdirectory : fs.isDirectory r.input = false := by rw [isDirectory, hstatus]; rfl
    obtain ⟨front, name, mid, hnames, -, -, hmid, hfront⟩ := hplain.names_of_file hfile
    have hparent : fs.isFile r.input.parent = false := by
      have hlocate : fs.locate r.input.parent = .ok mid := by
        rw [locate_eq_ok_iff, Path.parent, hnames, List.dropLast_concat]
        exact hfront
      rw [isFile, status?, hlocate]
      dsimp only
      rw [hmid]
    rw [Run.shown, hdirectory, he]
    simp only [Bool.false_eq_true, if_false, Files.shown, hparent, Option.some.injEq, reduceCtorEq]

theorem IsLeft.shown_eq (hplain : r.IsPlain root fs₀) (hsuffix : r.config.instrumentedSuffix ≠ "")
    (hleft : r.IsLeft root fs₀ done fs₁) (hexists : fs₀.find? root ≠ none) : r.shown fs₁ = r.shown fs₀ := by
  have hroot := hleft.find?_root hsuffix
  have hexists' : fs₁.find? root ≠ none := by rwa [hroot]
  funext p
  rw [(hleft.isPlain hplain hsuffix hexists).shown_eq hexists', hplain.shown_eq hexists, hroot]

/-! ## Whole runs -/

/-- Writing copies does not change what stands beside the tree. -/
theorem IsCopied.isBeside {tree : Location → Prop} (hi : r.IsCopied root fs₀ done fs)
    (hbeside : r.IsBeside tree day fs₀) : r.IsBeside tree day fs where
  log l hl := hbeside.log l (hi.locate.mp hl)
  work := by
    obtain ⟨w, hwork, hw, hnames⟩ := hbeside.work
    refine ⟨w, hi.locate.mpr hwork, (hi.ways.find?_eq rfl).mp hw, fun n => ⟨(hnames n).1, fun target hlink => ?_⟩⟩
    exact (hnames n).2 target ((hi.ways.find?_eq rfl).mpr hlink)

/-- Before copies are run the tree is as it is. -/
theorem IsCopied.isSpared (hi : r.IsCopied root fs₀ done fs) (hlog : r.LogsOutside (r.Holds root fs₀) day fs₀) :
    r.IsSpared (r.Holds root fs₀) day fs fs where
  isTree := hi.tree
  once := hi.once
  grounds := Grounds.refl fs
  same _ _ := rfl
  log l hl := hlog l (hi.locate.mp hl)

/-- As long as no child has been started, nothing need be provided. -/
theorem provided_of_during {tree : Location → Prop} {K : Files → Prop} (hi : During host K h) : Provided tree host K h := by
  obtain ⟨hview, hfiles⟩ := hi
  simp only [view, Prod.mk.injEq] at hview
  obtain ⟨hnow, hupcoming, hdeeds⟩ := hview
  refine ⟨⟨hnow, hupcoming ▸ List.suffix_rfl⟩, [], ?_, fun d hd => absurd hd List.not_mem_nil, fun _ => hfiles⟩
  rw [hdeeds, List.append_nil]

/-- What has become of the files: copies of some sources have been written, and otherwise the tree
has been spared. -/
def IsOver (r : Run) (root : Location) (host : Host) (done : List Path) (h : Host) : Prop :=
  ∃ fs, r.IsCopied root host.files done fs ∧
    Provided (r.Holds root host.files) host (r.IsSpared (r.Holds root host.files) host.now fs) h

theorem quiet_isOver : Quiet (r.IsOver root host done) := by
  rintro h h' hview ⟨fs, hcopied, hprovided⟩
  exact ⟨fs, hcopied, quiet_provided _ host _ h h' hview hprovided⟩

/-- The summary of a run on some files. -/
def summaryOf (r : Run) (fs : Files) : Summary :=
  Summary.ofInstrumented ((r.paths fs).filterMap (r.instrumentedIn? fs)) fun p => r.shown fs (Path.ofText p)

/-- What is left is summed up in the same way. -/
theorem IsLeft.summaryOf_eq (hplain : r.IsPlain root fs₀) (hsuffix : r.config.instrumentedSuffix ≠ "")
    (hleft : r.IsLeft root fs₀ done fs₁) (hexists : fs₀.find? root ≠ none) : r.summaryOf fs₁ = r.summaryOf fs₀ := by
  have hresults : (r.paths fs₀).filterMap (r.instrumentedIn? fs₁) = (r.paths fs₀).filterMap (r.instrumentedIn? fs₀) := by
    refine List.filterMap_congr fun path hpath => ?_
    rw [instrumentedIn?, instrumentedIn?, hleft.verdict_eq hplain hsuffix hexists hpath]
  rw [summaryOf, summaryOf, hleft.paths_eq hplain hsuffix hexists, hleft.shown_eq hplain hsuffix hexists, hresults]

/-- An input that was accepted is accepted again. -/
theorem IsLeft.inputProblem?_eq (hplain : r.IsPlain root fs₀) (hsuffix : r.config.instrumentedSuffix ≠ "")
    (hleft : r.IsLeft root fs₀ done fs₁) (hexists : fs₀.find? root ≠ none) :
    r.inputProblem? fs₁ = r.inputProblem? fs₀ := by
  rw [inputProblem?, inputProblem?, Files.exists?, Files.exists?, hleft.status?_input hplain hsuffix hexists]

/-- Where copies have been written, they can be run. -/
theorem leaves_measureAll (hbeside : r.IsBeside (r.Holds root host.files) host.now host.files)
    (hunread : (∀ c ∈ host.upcoming, c.output ≠ none) ∨ ∀ f, F f) (hunlogged : ∀ f, r.IsUnlogged host.now f → F f)
    (hi : During host (r.IsCopied root host.files done) h) (results : List Instrumented)
    (hlog : results ≠ [] → r.HasLog (r.Holds root host.files) host.now h.files) :
    Leaves (fun _ => r.IsOver root host done) (fun f h => r.IsOver root host done h ∧ F f)
      (r.measureAll results) h := by
  have hspared := hi.2.isSpared hbeside.log
  cases results with
  | nil => exact Leaves.pure ⟨h.files, hi.2, provided_of_during ⟨hi.1, hspared⟩⟩
  | cons result rest =>
    have hmeasures := measures_provided (hi.2.isBeside hbeside) hunread hunlogged
    have hstart : Provided (r.Holds root host.files) host (fun fs =>
        r.IsSpared (r.Holds root host.files) host.now h.files fs ∧ r.HasLog (r.Holds root host.files) host.now fs) h :=
      provided_of_during ⟨hi.1, hspared, hlog (List.cons_ne_nil _ _)⟩
    refine (hmeasures.measureAll hstart _).mono (fun _ h' hover => ⟨h.files, hi.2, ?_⟩) fun f h' hf => ?_
    · exact hover.mono fun _ => And.left
    · exact ⟨⟨h.files, hi.2, hf.1⟩, hf.2⟩

section Files

variable (hplain : r.IsPlain root host.files) (hsuffix : r.config.instrumentedSuffix ≠ "")
  (hexists : host.files.find? root ≠ none) (hbeside : r.IsBeside (r.Holds root host.files) host.now host.files)
  (hunread : (∀ c ∈ host.upcoming, c.output ≠ none) ∨ ∀ f, F f) (hunlogged : ∀ f, r.IsUnlogged host.now f → F f)

include hplain hsuffix hexists hbeside hunread hunlogged

/-- Sources are instrumented, what is found out is summed up, and copies are run. -/
theorem leaves_instrumentAndMeasure (hi : During host (r.IsCopied root host.files []) h) :
    Leaves
      (fun results h => r.IsOver root host (r.paths host.files).reverse h ∧
        (∀ path ∈ r.paths host.files, r.Fits host.files path) ∧ results.summary = r.summaryOf host.files)
      (fun f h => r.IsOver root host [] h ∧ ((¬∀ path ∈ r.paths host.files, r.Fits host.files path) ∨ F f))
      (do
        let instrumented ← r.instrumentAll (r.paths host.files)
        let files := (← get).files
        let summary := Summary.ofInstrumented instrumented fun p => r.shown files (Path.ofText p)
        Action.report (.summary summary)
        let entries := instrumented.filter (·.hasEntryPoint)
        if !instrumented.isEmpty && entries.isEmpty then
          Action.report (.info
            "No executable files found (no `__main__` guard). Instrumented files have been created.")
        r.measureAll entries
        results summary) h := by
  have hreport (report : Report) {K : Host → Prop} {E : Failure → Host → Prop} (hK : Quiet K) {h : Host} (hi : K h) :
      Leaves (fun _ => K) E (Action.report report) h := .ok (hK h _ (view_report report) hi)
  refine Leaves.bind ((leaves_instrumentAll hplain hsuffix hbeside.log (List.Subset.refl _) hi).mono
    (fun _ _ => id) fun f h' hf => ?_) ?_
  · refine ⟨⟨h'.files, hf.1.2, provided_of_during ⟨hf.1.1, hf.1.2.isSpared hbeside.log⟩⟩, ?_⟩
    exact hf.2.imp_right (hunlogged f)
  rintro instrumented h₁ ⟨hcopied, hfits, hresults, hlog⟩
  rw [List.append_nil] at hcopied
  refine Leaves.get_bind ?_
  -- sources are shown as at the start
  have hshown : r.shown h₁.files = r.shown host.files := hcopied.2.isLeft.shown_eq hplain hsuffix hexists
  have hsummary : (Summary.ofInstrumented instrumented fun p => r.shown h₁.files (Path.ofText p)) =
      r.summaryOf host.files := by rw [hshown, hresults, summaryOf]
  have hentries (hne : instrumented.filter (·.hasEntryPoint) ≠ []) :
      r.HasLog (r.Holds root host.files) host.now h₁.files := by
    apply hlog
    left
    rintro hnil
    rw [hresults, hnil] at hne
    exact hne rfl
  have hlast {h : Host} (hi : During host (fun fs => fs = h₁.files) h) :
      Leaves
        (fun results h => r.IsOver root host (r.paths host.files).reverse h ∧
          (∀ path ∈ r.paths host.files, r.Fits host.files path) ∧ results.summary = r.summaryOf host.files)
        (fun f h => r.IsOver root host [] h ∧ ((¬∀ path ∈ r.paths host.files, r.Fits host.files path) ∨ F f))
        (do
          r.measureAll (instrumented.filter (·.hasEntryPoint))
          results (r.summaryOf host.files)) h := by
    have hthere : During host (r.IsCopied root host.files (r.paths host.files).reverse) h :=
      hi.mono fun fs hfs => hfs ▸ hcopied.2
    have hmeasure := leaves_measureAll hbeside hunread hunlogged hthere (instrumented.filter (·.hasEntryPoint))
      fun hne => hi.2 ▸ hentries hne
    refine Leaves.bind (hmeasure.mono (fun _ _ => id) fun f h hf => ?_) fun _ h hover => ?_
    · obtain ⟨⟨fs, hfs, hprovided⟩, hf⟩ := hf
      exact ⟨⟨fs, hfs.mono (List.nil_subset _), hprovided⟩, Or.inr hf⟩
    · exact Leaves.get_bind (Leaves.pure ⟨hover, hfits, rfl⟩)
  dsimp only
  rw [hsummary]
  have hquiet := quiet_during host fun fs => fs = h₁.files
  refine (hreport _ hquiet ⟨hcopied.1, rfl⟩).bind fun _ h hi => ?_
  split
  · exact (hreport _ hquiet hi).bind fun _ h hi => hlast hi
  · exact hlast hi

/-- A run on files: every source fits, and what is found out about the sources is summed up. -/
theorem leaves_singleFiles (hi : view h = view host) :
    Leaves
      (fun results h => r.IsOver root host (r.paths host.files).reverse h ∧
        (∀ path ∈ r.paths host.files, r.Fits host.files path) ∧ results.summary = r.summaryOf host.files)
      (fun f h => r.IsOver root host [] h ∧ ((¬∀ path ∈ r.paths host.files, r.Fits host.files path) ∨ F f))
      r.singleFiles h := by
  rw [Run.singleFiles]
  refine ends_forget_bind hi fun h hi => ?_
  have hfiles : h.files = host.files := congrArg Prod.fst hi
  have hstart : During host (r.IsCopied root host.files []) h := by
    refine ⟨congrArg Prod.snd hi, ?_⟩
    rw [hfiles]
    exact IsCopied.start hplain
  have hmain {h : Host} (hi : During host (r.IsCopied root host.files []) h) :=
    leaves_instrumentAndMeasure hplain hsuffix hexists hbeside hunread hunlogged hi
  refine Leaves.get_bind ?_
  rw [hfiles]
  dsimp only
  split
  · refine Leaves.bind (S := fun _ => During host (r.IsCopied root host.files [])) ?_ fun _ h hi => hmain hi
    exact .ok (quiet_during host _ h _ (view_report _) hstart)
  · exact hmain hstart

end Files

/-- A run that does not take its input for a package. -/
def IsOnFiles (r : Run) (host : Host) : Prop :=
  (host.files.isDirectory r.input &&
    (Package.ofNumber r.input r.config (host.named + 1)).isPackage host.files) = false

/-- A run on files whose input is accepted: it is its work on the files, and telling statistics. -/
theorem ends_run_iff {Q : Except Failure (Option Results) → Host → Prop} (hmode : r.IsOnFiles host)
    (haccepted : r.inputProblem? host.files = none) :
    Ends r.run host Q ↔ Ends (do
        let results ← r.singleFiles
        tellStatistics results
        return some results)
      { host with named := host.named + 1, pipeline := ⟨Stages.ofNames Package.stageNames, [], false⟩ } Q := by
  rw [Run.run, ends_bind, ends_validate, haccepted]
  dsimp only
  rw [ends_bind, ends_create]
  dsimp only
  rw [ends_bind, dispatch, ends_bind, ends_get]
  dsimp only
  rw [hmode, if_neg Bool.false_ne_true, ends_bind, ends_bind]
  refine ends_congr fun result h => ?_
  cases result <;> rfl

/-- Whatever is measured, the results are not changed by telling statistics. -/
theorem ends_run_of_files {Q : Except Failure (Option Results) → Host → Prop}
    {Q' : Except Failure Results → Host → Prop} (hmode : r.IsOnFiles host)
    (haccepted : r.inputProblem? host.files = none)
    (hrun : Ends r.singleFiles
      { host with named := host.named + 1, pipeline := ⟨Stages.ofNames Package.stageNames, [], false⟩ } Q')
    (hok : ∀ results h reports, Q' (.ok results) h → Q (.ok (some results)) { h with reports })
    (herror : ∀ f h, Q' (.error f) h → Q (.error f) h) : Ends r.run host Q := by
  refine (ends_run_iff hmode haccepted).mpr (Ends.bind hrun (fun results h hs => ?_) herror)
  rw [tellStatistics]
  split
  · exact hok results h h.reports hs
  · exact IgnoresReports.ends_report_bind fun reports => hok results h reports hs

/-- A run that is not one of a package is one on files, unless the input is refused. -/
theorem leaves_run_of_files {S : Option Results → Host → Prop} {E : Failure → Host → Prop}
    (hmode : r.IsOnFiles host)
    (hS : ∀ results, Quiet (S results)) (hrefused : ∀ problem, r.inputProblem? host.files = some problem →
      E (.problem problem) host)
    (hrun : ∀ h, view h = view host → r.inputProblem? host.files = none →
      Leaves (fun results => S (some results)) E r.singleFiles h) : Leaves S E r.run host := by
  cases hproblem : r.inputProblem? host.files with
  | some problem =>
    rw [Run.run, Leaves, ends_bind, ends_validate, hproblem]
    exact .error (hrefused problem hproblem)
  | none =>
    refine ends_run_of_files hmode hproblem (hrun _ rfl hproblem) (fun results h reports hs => ?_) fun f h hf => ?_
    · cases hs with
      | ok hs => exact .ok (hS _ h _ rfl hs)
    · cases hf with
      | error he => exact .error he

/-- An input that is accepted exists, and there is a suffix. -/
theorem of_accepted (h : r.inputProblem? fs = none) : fs.exists? r.input = true ∧ r.config.instrumentedSuffix ≠ "" := by
  rw [inputProblem?] at h
  split at h
  · cases h
  · rename_i hexists
    refine ⟨by simpa using hexists, fun hempty => ?_⟩
    have hcontains : Text.contains r.input.name "" = true := by
      rw [Text.contains, Text.occursIn]
      change (Text.cut? [] r.input.name.toList).isSome = true
      cases r.input.name.toList <;> rfl
    rw [hempty, hcontains] at h
    cases h

/-- A run on files refuses its input, stops at a source that does not fit or at another failure, or
returns what has been found out about the sources. -/
theorem leaves_run (hmode : r.IsOnFiles host) (hplain : r.IsPlain root host.files)
    (hbeside : r.IsBeside (r.Holds root host.files) host.now host.files)
    (hunread : (∀ c ∈ host.upcoming, c.output ≠ none) ∨ ∀ f, F f) (hunlogged : ∀ f, r.IsUnlogged host.now f → F f) :
    Leaves
      (fun found h => ∃ results, found = some results ∧ r.inputProblem? host.files = none ∧
        r.IsOver root host (r.paths host.files).reverse h ∧ (∀ path ∈ r.paths host.files, r.Fits host.files path) ∧
        results.summary = r.summaryOf host.files)
      (fun f h => r.IsOver root host [] h ∧ (r.inputProblem? host.files ≠ none ∨
        (¬∀ path ∈ r.paths host.files, r.Fits host.files path) ∨ F f))
      r.run host := by
  refine leaves_run_of_files hmode ?_ (fun problem hproblem => ?_) fun h hview haccepted => ?_
  · rintro found h h' hview ⟨results, hfound, haccepted, hover, hrest⟩
    exact ⟨results, hfound, haccepted, quiet_isOver h h' hview hover, hrest⟩
  · have hstart : During host (r.IsCopied root host.files []) host := ⟨rfl, IsCopied.start hplain⟩
    refine ⟨⟨host.files, hstart.2, provided_of_during ⟨rfl, hstart.2.isSpared hbeside.log⟩⟩, Or.inl ?_⟩
    rw [hproblem]
    exact Option.some_ne_none problem
  · obtain ⟨hexists, hsuffix⟩ := of_accepted haccepted
    have hroot : host.files.find? root ≠ none := by
      rw [Files.exists?, status?, hplain.located] at hexists
      exact Option.isSome_iff_ne_none.mp hexists
    refine (leaves_singleFiles hplain hsuffix hroot hbeside hunread hunlogged hview).mono ?_ ?_
    · rintro results h ⟨hover, hfits, hsummary⟩
      exact ⟨results, rfl, haccepted, hover, hfits, hsummary⟩
    · rintro f h ⟨hover, hf⟩
      exact ⟨hover, Or.inr hf⟩

/-- The children of a run spare a tree. -/
def IsSparing (r : Run) (tree : Location → Prop) (host : Host) : Prop :=
  ∀ d ∈ (deeds (r.run host).2).drop (deeds host).length, d.Spares tree

/-- What is provided that the children of a run spare a tree is the case if they do. -/
theorem IsSparing.of_provided {tree : Location → Prop} {K : Files → Prop} (hspares : r.IsSparing tree host)
    (hprovided : Provided tree host K (r.run host).2) : K (r.run host).2.files := by
  obtain ⟨-, more, hdeeds, -, hkept⟩ := hprovided
  apply hkept
  intro d hd
  apply hspares
  rw [hdeeds, List.drop_left]
  exact hd

/-- A child that writes nothing, and whose output announces nothing. -/
def IsModest (c : Child) : Prop :=
  WritesNothing c ∧ ∀ output, c.printed.map (withStatus c.status) = .ok output → announcedPath? output = none

theorem isModest_idle : IsModest Child.idle := by
  refine ⟨writesNothing_idle, fun output houtput => ?_⟩
  obtain rfl : "" = output := Except.ok.inj houtput
  rfl

/-- Children that write nothing and announce nothing spare the tree. -/
theorem isSparing_of_isModest (hmode : r.IsOnFiles host) (hplain : r.IsPlain root host.files)
    (hbeside : r.IsBeside (r.Holds root host.files) host.now host.files)
    (hmodest : ∀ c ∈ host.upcoming, IsModest c) (tree : Location → Prop) : r.IsSparing tree host := by
  have hrun := leaves_run (F := fun _ => True) hmode hplain hbeside (Or.inr fun _ => trivial) fun _ _ => trivial
  have hover : ∃ done, r.IsOver root host done (r.run host).2 := by
    rcases hrun.cases with ⟨found, -, results, -, -, hover, -⟩ | ⟨f, -, hover, -⟩
    · exact ⟨_, hover⟩
    · exact ⟨_, hover⟩
  obtain ⟨done, fs, -, -, more, hdeeds, hseen, -⟩ := hover
  intro d hd
  rw [hdeeds, List.drop_left] at hd
  obtain ⟨hchild, hsame⟩ := hseen d hd
  have hquiet : IsModest d.child := by
    rcases hchild with hidle | hcoming
    · rw [hidle]
      exact isModest_idle
    · exact hmodest _ hcoming
  refine ⟨fun l _ => by rw [hsame hquiet.1], fun output path houtput hpath => ?_⟩
  rw [hquiet.2 output houtput] at hpath
  cases hpath

section Twice

variable {results : Results} (hmode : r.IsOnFiles host) (hplain : r.IsPlain root host.files)
  (hbeside : r.IsBeside (r.Holds root host.files) host.now host.files)
  (hspares : r.IsSparing (r.Holds root host.files) host) (hreturns : (r.run host).1 = .ok (some results))

include hmode hplain hbeside hspares hreturns

/-- What a run has left that has returned. -/
theorem isLeft_run :
    r.inputProblem? host.files = none ∧ host.files.find? root ≠ none ∧
      r.IsLeft root host.files (r.paths host.files).reverse (r.run host).2.files ∧
      (∀ path ∈ r.paths host.files, r.Fits host.files path) ∧ results.summary = r.summaryOf host.files := by
  obtain ⟨results', heq, haccepted, ⟨fs, hcopied, hprovided⟩, hfits, hsummary⟩ :=
    (leaves_run (F := fun _ => True) hmode hplain hbeside (Or.inr fun _ => trivial) fun _ _ => trivial).of_ok hreturns
  obtain rfl := Option.some.inj heq
  obtain ⟨hexists, hsuffix⟩ := of_accepted haccepted
  have hroot : host.files.find? root ≠ none := by
    rw [Files.exists?, status?, hplain.located] at hexists
    exact Option.isSome_iff_ne_none.mp hexists
  have hleft := hcopied.isLeft_of_isSpared hplain hsuffix (hspares.of_provided hprovided)
  exact ⟨haccepted, hroot, hleft, hfits, hsummary⟩

/-- A run on files that returns leaves a tree on which a second one finds the same sources, none of
which is a copy, leaves every file as it is, and sums up the same, unless an event of it cannot be
logged. -/
theorem rerun {again : Host} (hfiles : again.files = (r.run host).2.files) (hmode' : r.IsOnFiles again)
    (hbeside' : r.IsBeside (r.Holds root host.files) again.now again.files)
    (hspares' : r.IsSparing (r.Holds root host.files) again) (hchildren' : ∀ c ∈ again.upcoming, c.output ≠ none) :
    r.paths again.files = r.paths host.files ∧
      (∀ path ∈ r.paths host.files, r.copyPath path ∉ r.paths host.files ∧
        ∀ l, host.files.locate path = .ok l → again.files.find? l = host.files.find? l) ∧
      (∀ l, r.Holds root host.files l → (r.run again).2.files.find? l = again.files.find? l) ∧
      ((∃ results', (r.run again).1 = .ok (some results') ∧ results'.summary = results.summary) ∨
        ∃ fault, (r.run again).1 = .error (.system (.refused fault (r.logPath again.now).text))) := by
  obtain ⟨haccepted, hroot, hleft, hfits, hsummary⟩ := isLeft_run hmode hplain hbeside hspares hreturns
  obtain ⟨-, hsuffix⟩ := of_accepted haccepted
  rw [← hfiles] at hleft
  have hdone (path : Path) (hpath : path ∈ r.paths host.files) : path ∈ (r.paths host.files).reverse :=
    List.mem_reverse.mpr hpath
  have hpaths := hleft.paths_eq hplain hsuffix hroot
  have htree := hleft.holds_eq hplain hsuffix hroot
  have hplain' := hleft.isPlain hplain hsuffix hroot
  have hrun := leaves_run (F := r.IsUnlogged again.now) hmode' hplain' (htree.symm ▸ hbeside')
    (Or.inl hchildren') fun _ => id
  rw [← htree] at hspares'
  -- however the second run ends, it has written only what stood there already
  have hsame {done : List Path} (hover : r.IsOver root again done (r.run again).2) (l : Location)
      (hl : r.Holds root host.files l) : (r.run again).2.files.find? l = again.files.find? l := by
    obtain ⟨fs', hcopied', hprovided'⟩ := hover
    rw [(hspares'.of_provided hprovided').same l (htree.symm ▸ hl)]
    exact hleft.same_of_isCopied hplain hsuffix hroot hdone hcopied' hl
  refine ⟨hpaths, fun path hpath => ⟨hplain.copyPath_not_mem hsuffix hpath, fun l hl => ?_⟩, ?_⟩
  · obtain ⟨dir, name, hat⟩ := hplain.exists_sourceAt hpath
    obtain rfl := Except.ok.inj ((hat.stands hplain hsuffix).located.symm.trans hl)
    exact hleft.find?_source hplain hsuffix hat
  · rcases hrun.cases with ⟨found, hfound, results', rfl, -, hover, -, hsummary'⟩ | ⟨f, hf, hover, hreason⟩
    · refine ⟨hsame hover, Or.inl ⟨results', hfound, ?_⟩⟩
      rw [hsummary, hsummary']
      exact hleft.summaryOf_eq hplain hsuffix hroot
    · refine ⟨hsame hover, Or.inr ?_⟩
      rcases hreason with hrefused | hbad | ⟨fault, rfl⟩
      · exact absurd ((hleft.inputProblem?_eq hplain hsuffix hroot).trans haccepted) hrefused
      · refine absurd (fun path hpath => ?_) hbad
        rw [hpaths] at hpath
        exact hleft.fits hplain hsuffix hroot hdone hpath (hfits path hpath)
      · exact ⟨fault, hf⟩

end Twice

/-! ## A small tree -/

/-- A program and a file of records in a directory of their own.  For the second day there is a
directory where the events would be written. -/
def treeFiles : Files where
  entries :=
    [(["tmp"], .directory), (["home"], .directory), (["home", "logs"], .directory),
     (["home", "logs", "async-latency-2025-01-02.jsonl"], .directory), (["tree"], .directory),
     (["tree", "main.py"], .file (Text.Utf8.encode "if __name__ == \"__main__\":\n    pass\n") false),
     (["tree", "data.json"], .file (Text.Utf8.encode "[]") false)]
  workingDirectory := []

/-- A host with the small tree. -/
def treeHost (upcoming : List Child) : Host :=
  { smallHost with files := treeFiles, upcoming }

/-- A run of the small tree. -/
def treeRun : Run :=
  { smallRun with input := Path.ofText "/tree" }

/-- The host on which the small tree is run a second time. -/
def treeAgain (upcoming : List Child) : Host :=
  { (treeRun.run (treeHost [])).2 with upcoming }

theorem files_with_upcoming (h : Host) (upcoming : List Child) : { h with upcoming }.files = h.files :=
  rfl

-- not by `rfl`, which would go through the run to compare the two hosts field by field
theorem files_treeAgain (upcoming : List Child) : (treeAgain upcoming).files = (treeRun.run (treeHost [])).2.files :=
  files_with_upcoming _ upcoming

theorem paths_treeFiles : treeRun.paths treeFiles = [Path.ofText "/tree/main.py"] := by
  decide +kernel

theorem not_holds_tree {first : String} {rest : List String} (hfirst : first ≠ "tree") :
    ¬treeRun.Holds ["tree"] treeFiles (first :: rest) := by
  rintro (⟨_, heq⟩ | ⟨path, hpath, hcopy⟩)
  · exact hfirst (List.cons.inj heq).1.symm
  · rw [paths_treeFiles, List.mem_singleton] at hpath
    have hwhere : treeFiles.locateLink (treeRun.copyPath (Path.ofText "/tree/main.py")) =
        .ok ["tree", "main_instrumented.py"] := by decide +kernel
    rw [hpath, hwhere] at hcopy
    exact hfirst (List.cons.inj (Except.ok.inj hcopy)).1.symm

theorem isPlain_tree : treeRun.IsPlain ["tree"] treeFiles where
  tree := by decide +kernel
  once := by decide +kernel
  proper := Path.ofText_isProper _
  own := by decide +kernel
  located := by decide +kernel
  regular l hl e he := by
    have hne : l ≠ [] := by
      rintro rfl
      rcases hl with hroot | ⟨path, hpath, hcopy⟩
      · exact absurd hroot (by decide)
      · rw [paths_treeFiles, List.mem_singleton] at hpath
        rw [hpath] at hcopy
        exact absurd hcopy (by decide +kernel)
    have hall : ∀ e ∈ treeFiles.entries, e.2 = .directory ∨ ∃ bytes executable, e.2 = .file bytes executable := by
      simp [treeFiles]
    exact hall _ (mem_of_find hne he)
  hidden _ _ := by decide

/-- Logs and binaries are kept beside the small tree as long as its surroundings are plain. -/
theorem isBeside_tree {fs : Files} {day : Timestamp}
    (hlog : fs.locate (treeRun.logPath day) = .ok ["home", "logs", "async-latency-2025-01-01.jsonl"])
    (hwork : fs.locate treeRun.config.workRoot = .ok ["tmp"]) (hdirectory : fs.find? ["tmp"] = some .directory)
    (hlinks : fs.entries.all (fun e => match e.2 with
      | .link _ => false
      | _ => true) = true) : treeRun.IsBeside (treeRun.Holds ["tree"] treeFiles) day fs where
  log l hl := by
    obtain rfl := Except.ok.inj (hlog.symm.trans hl)
    exact not_holds_tree (by decide)
  work := by
    refine ⟨["tmp"], hwork, hdirectory, fun n => ⟨not_holds_tree (by decide), fun target hfound => ?_⟩⟩
    have hentry := List.all_eq_true.mp hlinks _ (mem_of_find (List.cons_ne_nil _ _) hfound)
    cases hentry

theorem isOnFiles_tree (upcoming : List Child) : treeRun.IsOnFiles (treeHost upcoming) := by
  rw [IsOnFiles]
  change (treeFiles.isDirectory treeRun.input && (Package.ofNumber treeRun.input treeRun.config 1).isPackage treeFiles) = false
  decide +kernel

theorem isBeside_treeHost : treeRun.IsBeside (treeRun.Holds ["tree"] treeFiles) smallHost.now treeFiles :=
  isBeside_tree (by decide +kernel) (by decide +kernel) (by decide +kernel) (by decide +kernel)

/-- The first run of the small tree returns results; its surroundings are plain afterwards, and the
file of records is still there. -/
theorem plain_again :
    ((treeRun.run (treeHost [])).1.toOption.bind id).isSome = true ∧
      treeRun.IsOnFiles (treeAgain []) ∧
      (treeAgain []).files.locate (treeRun.logPath (treeAgain []).now) =
        .ok ["home", "logs", "async-latency-2025-01-01.jsonl"] ∧
      (treeAgain []).files.locate treeRun.config.workRoot = .ok ["tmp"] ∧
      (treeAgain []).files.find? ["tmp"] = some .directory ∧
      (treeAgain []).files.entries.all (fun e => match e.2 with
        | .link _ => false
        | _ => true) = true ∧
      (treeAgain []).files.find? ["tree", "data.json"] = some (.file (Text.Utf8.encode "[]") false) := by
  rw [IsOnFiles]
  -- the run is evaluated here once for all that is said about it
  decide +kernel

theorem isOnFiles_again : treeRun.IsOnFiles (treeAgain []) :=
  plain_again.2.1

theorem isBeside_again :
    treeRun.IsBeside (treeRun.Holds ["tree"] treeFiles) (treeAgain []).now (treeAgain []).files := by
  obtain ⟨-, -, hlog, hwork, hdirectory, hlinks, -⟩ := plain_again
  exact isBeside_tree hlog hwork hdirectory hlinks

theorem isSparing_treeHost : treeRun.IsSparing (treeRun.Holds ["tree"] treeFiles) (treeHost []) :=
  isSparing_of_isModest (isOnFiles_tree []) isPlain_tree isBeside_treeHost nofun _

theorem returns_tree : ∃ results, (treeRun.run (treeHost [])).1 = .ok (some results) := by
  have hreturns := plain_again.1
  rcases hrun : (treeRun.run (treeHost [])).1 with f | _ | results
  · rw [hrun] at hreturns
    cases hreturns
  · rw [hrun] at hreturns
    cases hreturns
  · exact ⟨results, rfl⟩

theorem isSparing_again : treeRun.IsSparing (treeRun.Holds ["tree"] treeFiles) (treeAgain []) := by
  obtain ⟨results, hresults⟩ := returns_tree
  obtain ⟨haccepted, hroot, hleft, -⟩ :=
    isLeft_run (isOnFiles_tree []) isPlain_tree isBeside_treeHost isSparing_treeHost hresults
  obtain ⟨-, hsuffix⟩ := of_accepted haccepted
  rw [← files_treeAgain []] at hleft
  have htree := hleft.holds_eq isPlain_tree hsuffix hroot
  exact isSparing_of_isModest isOnFiles_again (hleft.isPlain isPlain_tree hsuffix hroot)
    (htree.symm ▸ isBeside_again) nofun _

/-- The program of the small tree is run twice. -/
theorem rerun_tree : ∃ results, (treeRun.run (treeHost [])).1 = .ok (some results) ∧
    treeRun.paths (treeAgain []).files = treeRun.paths treeFiles ∧
    ((∃ results', (treeRun.run (treeAgain [])).1 = .ok (some results') ∧ results'.summary = results.summary) ∨
      ∃ fault, (treeRun.run (treeAgain [])).1 =
        .error (.system (.refused fault (treeRun.logPath (treeAgain []).now).text))) := by
  obtain ⟨results, hresults⟩ := returns_tree
  have hrerun := rerun (isOnFiles_tree []) isPlain_tree isBeside_treeHost isSparing_treeHost hresults
    (files_treeAgain []) isOnFiles_again isBeside_again isSparing_again nofun
  exact ⟨results, hresults, hrerun.1, hrerun.2.2.2⟩

/-- A child that announces the file of records of the small tree. -/
def announcer : Child :=
  { Child.idle with output := some [.bytes (Text.Utf8.encode "__ASYNC_PROFILER_METRICS__:/tree/data.json\n")] }

/-- A second run takes away a file of the tree that a child has announced, although no child has
written anything, and it raises a failure on a day whose events cannot be written. -/
theorem rerun_takes_announced :
    treeRun.IsPlain ["tree"] treeFiles ∧
      treeRun.IsBeside (treeRun.Holds ["tree"] treeFiles) (treeAgain []).now (treeAgain []).files ∧
      ((treeRun.run (treeHost [])).1.toOption.bind id).isSome = true ∧
      (treeAgain []).files.find? ["tree", "data.json"] = some (.file (Text.Utf8.encode "[]") false) ∧
      (∀ c ∈ [Child.idle, announcer], WritesNothing c) ∧
      (treeRun.run (treeAgain [.idle, announcer])).2.files.find? ["tree", "data.json"] = none ∧
      (treeRun.run { treeAgain [] with now := ⟨2025, 1, 2, 12, 0, 0, 0, none⟩ }).1.toOption.isSome = false := by
  obtain ⟨hreturns, -, -, -, -, -, hdata⟩ := plain_again
  have hsecond : (treeRun.run (treeAgain [.idle, announcer])).2.files.find? ["tree", "data.json"] = none ∧
      (treeRun.run { treeAgain [] with now := ⟨2025, 1, 2, 12, 0, 0, 0, none⟩ }).1.toOption.isSome = false := by
    decide +kernel
  refine ⟨isPlain_tree, isBeside_again, hreturns, hdata, ?_, hsecond⟩
  simp [WritesNothing, announcer, Child.idle]

end Run

end Stopwatch

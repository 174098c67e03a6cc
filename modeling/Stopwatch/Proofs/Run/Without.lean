/-
  Runs without a source.

  A source that is skipped makes no difference to a run on files: the run on the same files without it
  comes to the same results, and leaves the same files but for the log of events.  The two runs are
  compared step by step.  They write the same copies, and the same children are to come; what a child
  does it does on both sides, unless it has to do with the source or with the log.
-/
import Stopwatch.Proofs.Files.Discovered
import Stopwatch.Proofs.Files.Remains
import Stopwatch.Proofs.Run.Gathered
import Stopwatch.Proofs.Run.Twins

namespace Stopwatch

open Action Files

/-! ## Sources among which one is lacking -/

namespace Files

variable {fs : Files} {root path : Path} {l own : Location} {suffix : String} {names : List String}

/-- A location where a file may stand is cleared. -/
theorem lacking_erase {places : List Location} (hplaces : ∀ l ∈ places, fs.IsPlace l) (hown : own ∈ places) :
    fs.Lacking places (fs.erase own) where
  here := rfl
  same l hl := by
    refine find?_erase_of_ne fs ?_
    rintro rfl
    exact hl hown
  place := hplaces
  place_lacking l hl e he := hplaces l hl e (fs.find?_of_erase he)
  fewer l hl := by
    rw [find?_erase]
    split
    · rfl
    · exact hl

/-- The source names below a location, when the entry of one of them has been removed. -/
theorem sourceNames_erase (honce : fs.IsListing) :
    (fs.erase (l ++ names)).sourceNames l suffix = (fs.sourceNames l suffix).filter (· ≠ names) := by
  have hmem (others : List String) : others ∈ (fs.erase (l ++ names)).sourceNames l suffix ↔
      others ∈ (fs.sourceNames l suffix).filter (· ≠ names) := by
    rw [List.mem_filter, mem_sourceNames, mem_sourceNames, Files.erase]
    simp only [List.mem_filter, decide_eq_true_eq, exists_and_right, and_assoc, ne_eq, List.append_cancel_left_eq]
  exact List.Perm.eq_of_pairwise (fun a b _ _ => Path.partsLe_antisymm a b) (pairwise_sourceNames _ l suffix)
    ((pairwise_sourceNames fs l suffix).filter _)
    ((List.perm_ext_iff_of_nodup (nodup_sourceNames (honce.erase _) l suffix)
      ((nodup_sourceNames honce l suffix).filter _)).mpr hmem)

/-- What stands below a directory is where its path leads, unless the last name is that of a link. -/
theorem IsTree.locateLink_below (h : fs.IsTree) (hroot : fs.locate root = .ok l) {dirs : List String} {name : String}
    {e : Entry} (he : fs.find? (l ++ (dirs ++ [name])) = some e) :
    fs.locateLink ⟨root.anchor, root.names ++ (dirs ++ [name])⟩ = .ok (l ++ (dirs ++ [name])) := by
  have hup := h.not_up he
  simp only [List.mem_append, List.mem_singleton, not_or] at hup
  have habove (begun : List String) (hbegun : begun <+: dirs) : fs.find? (l ++ begun) = some .directory :=
    h.directory_above (mem_of_find (by simp) he) hbegun
  rw [locate_eq_ok_iff] at hroot
  have hdirs := hroot.append_directories hup.2.1 habove
  rw [locateLink_eq_ok_iff, ← List.append_assoc, ← List.append_assoc]
  exact hdirs.concat_own (habove dirs (List.prefix_refl _)) (Ne.symm hup.2.2)

/-- The sources under a directory, when one of them has been removed. -/
theorem sources_erase (h : fs.IsTree) (honce : fs.IsListing) (hroot : fs.locate root = .ok l)
    (hdirectory : fs.find? l = some .directory) (hroot' : (fs.erase own).locate root = .ok l)
    (hdirectory' : (fs.erase own).find? l = some .directory) (hpath : path ∈ fs.sources root suffix)
    (hown : fs.locateLink path = .ok own) : (fs.erase own).sources root suffix = (fs.sources root suffix).filter (· ≠ path) := by
  obtain ⟨dirs, name, e, rfl, he, -⟩ := (mem_sources_below h hroot hdirectory).mp hpath
  obtain rfl := Except.ok.inj ((h.locateLink_below hroot he).symm.trans hown)
  have hsources {fs : Files} (hroot : fs.locate root = .ok l) (hdirectory : fs.find? l = some .directory) :
      fs.sources root suffix = (fs.sourceNames l suffix).map fun names => ⟨root.anchor, root.names ++ names⟩ := by
    rw [sources, isFile_of_directory hroot hdirectory, if_neg Bool.false_ne_true, hroot]
    dsimp only
    rw [if_pos hdirectory]
  rw [hsources hroot hdirectory, hsources hroot' hdirectory', sourceNames_erase honce, List.filter_map]
  congr 2
  funext names
  simp

/-- Two paths that lead to the same bytes have the same text. -/
theorem textAt_of_read {fs' : Files} {path' : Path} {text : String} (hread : fs'.read path' = fs.read path)
    (htext : fs.textAt path = .ok text) : fs'.textAt path' = .ok text := by
  rw [textAt] at htext ⊢
  rw [hread]
  cases hbytes : fs.read path with
  | error fault =>
    rw [hbytes] at htext
    cases htext
  | ok bytes =>
    rw [hbytes] at htext
    exact htext

theorem read_of_locate (hlocate : fs.locate path = .ok l) : fs.read path = match fs.find? l with
    | some (.file bytes _) => .ok bytes
    | some .directory => .error .isDirectory
    | some _ => .ok []
    | none => .error .missing := by
  rw [read, hlocate]
  rfl

end Files

/-- A host whose files lack the one at a location. -/
abbrev Host.without (host : Host) (l : Location) : Host :=
  { host with files := host.files.erase l }

namespace Run

variable {r : Run} {host g g' : Host} {path p : Path} {l d : Location} {n : Nat}

/-- What is asked of a source that is skipped, and of the host it is on: the input is a directory, the log
can be written, no source is written as the log or as a copy, and the source itself is a file that is no
module. -/
structure Skips (r : Run) (host : Host) (path : Path) (l d : Location) : Prop where
  mode : r.IsOnFiles host
  accepted : r.inputProblem? host.files = none
  input : host.files.isDirectory r.input = true
  tree : host.files.IsTree
  once : host.files.IsListing
  apart : r.StartsApart host
  beside : r.IsBeside (fun _ => False) host.now host.files
  log : host.files.locateLink (r.logPath host.now) = .ok d
  log_place : host.files.IsPlace d
  source : path ∈ r.paths host.files
  name : '/' ∉ (r.copyPath path).name.toList
  own : host.files.locateLink path = .ok l
  file : ∃ bytes executable, host.files.find? l = some (.file bytes executable)
  skipped : ∀ m, ¬host.files.HasModule path m

namespace Skips

variable (h : r.Skips host path l d)

include h

theorem locate : host.files.locate path = .ok l := by
  refine locate_eq_ok_iff.mpr ((locateLink_eq_ok_iff.mp h.own).of_own fun target hlink => ?_)
  obtain ⟨_, _, hfile⟩ := h.file
  rw [hfile] at hlink
  cases hlink

theorem isPlace : ∀ q ∈ [l, d], host.files.IsPlace q := by
  intro q hq
  simp only [List.mem_cons, List.not_mem_nil, or_false] at hq
  rcases hq with rfl | rfl
  · intro e he
    obtain ⟨bytes, executable, hfile⟩ := h.file
    exact ⟨bytes, executable, Option.some.inj (he.symm.trans hfile)⟩
  · exact h.log_place

theorem locate_log : host.files.locate (r.logPath host.now) = .ok d :=
  Run.locate_log h.log (.refl _) h.log_place

/-- The source is not the log. -/
theorem log_ne : d ≠ l := by
  rintro rfl
  exact h.apart.log path h.source d h.locate h.locate_log

theorem lacking : host.files.Lacking [l, d] (host.files.erase l) :=
  lacking_erase h.isPlace List.mem_cons_self

theorem paths_without : r.paths (host.files.erase l) = (r.paths host.files).filter (· ≠ path) := by
  obtain ⟨root, hroot, hdirectory⟩ := isDirectory_iff.mp h.input
  exact sources_erase h.tree h.once hroot hdirectory (h.lacking.alike.locate.mpr hroot)
    (h.lacking.alike.directory.mpr hdirectory) h.source h.own

end Skips

/-! ## Instrumenting on both sides -/

/-- What becomes of a source, and the files that are left. -/
def judge (r : Run) (fs : Files) (path : Path) : Except Failure (Option Instrumented) × Files :=
  if '/' ∈ (r.copyPath path).name.toList then (.error (.value (.badName (r.copyPath path).name)), fs)
  else
    match r.verdict fs path with
    | .error f => (.error f, fs)
    | .ok none => (.ok none, fs)
    | .ok (some (result, text)) =>
      match fs.write (r.copyPath path) fun _ => Text.Utf8.encode text with
      | .ok files => (.ok (some result), files)
      | .error fault => (.error (.system (.refused fault (r.copyPath path).text)), fs)

theorem ends_instrument?_judge {Q : Except Failure (Option Instrumented) → Host → Prop} (hQ : IgnoresReports Q)
    (h : Q (r.judge host.files path).1 { host with files := (r.judge host.files path).2 }) :
    Ends (r.instrument? path) host Q := by
  rw [judge] at h
  by_cases hslash : '/' ∈ (r.copyPath path).name.toList
  · rw [if_pos hslash] at h
    rw [instrument?, checkName, if_pos (by simpa using hslash)]
    exact h
  rw [if_neg hslash] at h
  refine ends_instrument? hQ (fun hslash' => absurd hslash' hslash) (fun f hf => ?_) (fun _ hnone => ?_)
    fun result text _ hsome => ?_
  · rw [hf] at h
    exact h
  · rw [hnone] at h
    exact h
  · rw [hsome] at h
    dsimp only at h
    split
    · rename_i files hwrite
      rw [hwrite] at h
      exact h
    · rename_i fault hwrite
      rw [hwrite] at h
      exact h

/-- What is known while sources are instrumented on both sides: the sources are as they were, but for the one
that is lacking. -/
structure Abreast (r : Run) (host : Host) (l d : Location) (n : Nat) (g g' : Host) : Prop where
  twins : r.SteadyTwins host [l, d] n g g'
  apart : IsApart (r.paths host.files) host.files g.files
  gone : g'.files.find? l = none

/-- Only what is not looked at has changed. -/
theorem Abreast.of_same {k k' : Host} (ha : r.Abreast host l d n g g') (hfiles : k.files = g.files)
    (hfiles' : k'.files = g'.files) (hstock : stock k = stock g) (hstock' : stock k' = stock g')
    (hdeeds : deeds k' = deeds g') : r.Abreast host l d n k k' := by
  obtain ⟨⟨⟨⟨hlacking, htwins⟩, hn⟩, hsteady, hnow⟩, hapart, hgone⟩ := ha
  have hday : k.now = g.now := congrArg (fun s => s.2.2.2.2) hstock
  refine ⟨⟨⟨⟨?_, ?_⟩, ?_⟩, ?_, hday.trans hnow⟩, ?_, ?_⟩
  · rw [hfiles, hfiles']
    exact hlacking
  · rw [hstock, hstock', htwins]
  · rw [hdeeds]
    exact hn
  · rw [hfiles]
    exact hsteady
  · rw [hfiles]
    exact hapart
  · rw [hfiles']
    exact hgone

/-- A path is written on both sides that no source leads to. -/
theorem Abreast.write (ha : r.Abreast host l d n g g') {target : Path}
    (htarget : ∀ path ∈ r.paths host.files, ∀ l, host.files.locate path = .ok l → host.files.locate target ≠ .ok l)
    (hl : host.files.locate target ≠ .ok l) {change change' : List UInt8 → List UInt8} {files files' : Files}
    (hwrite : g.files.write target change = .ok files) (hwrite' : g'.files.write target change' = .ok files')
    (hfiles : files.Lacking [l, d] files') : r.Abreast host l d n { g with files } { g' with files := files' } where
  twins := ha.twins.write hwrite hfiles
  apart := ha.apart.write htarget hwrite
  gone := by
    rcases write_inv hwrite' with rfl | ⟨q, bytes, executable, hlocate, -, rfl⟩
    · exact ha.gone
    · have hne : l ≠ q := by
        rintro rfl
        exact hl (ha.apart.locate.mp (ha.twins.1.1.1.alike.locate.mp hlocate))
      dsimp only
      rw [find?_insert_of_ne _ hne]
      exact ha.gone

section Instrument

variable (h : r.Skips host path l d)

include h

theorem Skips.copy_ne (hp : p ∈ r.paths host.files) : host.files.locate (r.copyPath p) ≠ .ok l :=
  h.apart.copies path h.source p hp l h.locate

omit h in
/-- What cannot be read is skipped. -/
theorem verdict_of_read {fs : Files} {fault : SystemFault} (hread : fs.read p = .error fault) :
    r.verdict fs p = .ok none := by
  rw [verdict, moduleAt, textAt, hread]

/-- What has the bytes of the source is skipped. -/
theorem Skips.verdict_eq {fs : Files} (hread : host.files.read path = fs.read p) : r.verdict fs p = .ok none := by
  rw [verdict]
  cases hmodule : fs.moduleAt p "" with
  | error f => rfl
  | ok m =>
    obtain ⟨source, hsource, hrest⟩ := moduleAt_eq_ok.mp hmodule
    exact absurd ⟨source, textAt_of_read hread hsource, hrest⟩ (h.skipped m)

/-- The same becomes of a source on both sides; a link to the source that is lacking is skipped. -/
theorem Skips.verdict_alike (ha : r.Abreast host l d n g g') (hp : p ∈ r.paths host.files) :
    r.verdict g'.files p = r.verdict g.files p := by
  have hlacking := ha.twins.1.1.1
  cases hlocate : g.files.locate p with
  | error fault =>
    obtain ⟨fault', hlocate'⟩ := hlacking.exists_locate_error hlocate
    have hread {fs : Files} {fault : SystemFault} (hlocate : fs.locate p = .error fault) : fs.read p = .error fault := by
      rw [Files.read, hlocate]
      rfl
    rw [verdict_of_read (hread hlocate), verdict_of_read (hread hlocate')]
  | ok q =>
    have hlocate' := hlacking.alike.locate.mpr hlocate
    have hstart := ha.apart.locate.mp hlocate
    by_cases hq : q = l
    · subst hq
      have hmissing : g'.files.read p = .error .missing := by
        rw [read_of_locate hlocate', ha.gone]
      rw [verdict_of_read hmissing, h.verdict_eq]
      rw [read_of_locate hlocate, read_of_locate h.locate, ha.apart.same path h.source q h.locate]
    · have hlog : q ≠ d := by
        rintro rfl
        exact h.apart.log p hp q hstart h.locate_log
      refine verdict_congr (textAt_congr (hlocate'.trans hlocate.symm) fun q' hq' => ?_)
      obtain rfl := Except.ok.inj (hlocate.symm.trans hq')
      exact hlacking.same q (by simp [hq, hlog])

/-- Both sides judge a source, and write its copy. -/
theorem Skips.mirrors_instrument? (hp : p ∈ r.paths host.files) :
    Mirrors (fun _ => False) (r.Abreast host l d n) (r.Abreast host l d n)
      (fun x y g g' => x = y ∧ r.Abreast host l d n g g') (r.instrument? p) (r.instrument? p) where
  lasts _ := False.elim
  ends g g' ha := by
    have hreports {g g' : Host} (reports reports' : List Report) (ha : r.Abreast host l d n g g') :
        r.Abreast host l d n { g with reports } { g' with reports := reports' } :=
      ha.of_same rfl rfl rfl rfl rfl
    refine ends_instrument?_judge (fun result k reports hk => Ends.mono hk fun result' k' hm => ?_) ?_
    · exact hm.imp_right fun hm => hm.imp (fun _ _ hs => ⟨hs.1, hreports reports k'.reports hs.2⟩) (hreports reports k'.reports)
    refine ends_instrument?_judge (fun result k' reports hm => ?_) ?_
    · exact hm.imp_right fun hm => hm.imp (fun _ _ hs => ⟨hs.1, hreports _ reports hs.2⟩) (hreports _ reports)
    refine Or.inr ?_
    rw [judge, judge, h.verdict_alike ha hp]
    by_cases hslash : '/' ∈ (r.copyPath p).name.toList
    · rw [if_pos hslash, if_pos hslash]
      exact .error (Or.inl rfl) ha
    rw [if_neg hslash, if_neg hslash]
    rcases r.verdict g.files p with f | _ | ⟨result, text⟩
    · exact .error (Or.inl rfl) ha
    · exact .ok ⟨rfl, ha⟩
    · dsimp only
      have hboth : Lacking.Both [l, d] (g.files.write (r.copyPath p) fun _ => Text.Utf8.encode text)
          (g'.files.write (r.copyPath p) fun _ => Text.Utf8.encode text) := ha.twins.1.1.1.write fun _ _ _ => rfl
      generalize hfirst : (g.files.write (r.copyPath p) fun _ => Text.Utf8.encode text) = first at hboth ⊢
      generalize hsecond : (g'.files.write (r.copyPath p) fun _ => Text.Utf8.encode text) = second at hboth ⊢
      cases hboth with
      | made hfiles =>
        have hother (path : Path) (hpath : path ∈ r.paths host.files) := h.apart.copies path hpath p hp
        exact .ok ⟨rfl, ha.write hother (h.copy_ne hp) hfirst hsecond hfiles⟩
      | refused fault fault' => exact .error (Or.inr ⟨rfl, rfl⟩) ha

theorem Skips.log_away : host.files.locate (r.logPath host.now) ≠ .ok l := by
  rw [h.locate_log]
  exact fun heq => h.log_ne (Except.ok.inj heq)

theorem Skips.mirrors_instrumentLogged (hp : p ∈ r.paths host.files) :
    Mirrors (fun _ => False) (r.Abreast host l d n) (r.Abreast host l d n)
      (fun x y g g' => x = y ∧ r.Abreast host l d n g g') (r.instrumentLogged p) (r.instrumentLogged p) := by
  refine RunLog.mirrors_timed (fun _ _ _ _ => id) (fun g g' clock clock' ha => ha.of_same rfl rfl rfl rfl rfl)
    (fun g g' clock clock' logged logged' ha => ha.of_same rfl rfl rfl rfl rfl) (fun g g' text text' ha => ?_)
    (h.mirrors_instrument? hp)
  have hd : d ∈ [l, d] := List.mem_cons_of_mem _ List.mem_cons_self
  exact ends_append_both h.log hd ha.twins ha (fun hwrite hwrite' hfiles => ha.write h.apart.log h.log_away hwrite hwrite' hfiles)
    text text'

/-- The source that is lacking on the second side is skipped on the first one. -/
theorem Skips.ends_skipped (ha : r.Abreast host l d n g g') :
    Ends (r.instrumentLogged path) g fun result k => result = .ok none ∧ r.Abreast host l d n k g' := by
  refine RunLog.ends_timed_work (Q := fun result k => result = .ok none ∧ r.Abreast host l d n k g') ?_ ?_ ?_
  · exact fun result k logged hk => ⟨hk.1, hk.2.of_same rfl rfl rfl rfl rfl⟩
  · rintro result k clock text ⟨rfl, ha⟩
    have hpath : r.log.file k.now.dayText = r.logPath host.now := by rw [ha.twins.2.2, logPath]
    have hlacking := ha.twins.1.1.1
    have hd : d ∈ [l, d] := List.mem_cons_of_mem _ List.mem_cons_self
    obtain ⟨files, hwrite, hfiles⟩ := hlacking.write_left
      (Run.locate_log h.log ha.twins.2.1.grounds (hlacking.place d hd)) hd fun bytes => bytes ++ Text.Utf8.encode text
    rw [hpath, appendText, ends_changeFiles, hwrite]
    have hwritten := ha.twins.write hwrite hfiles
    exact ⟨rfl, ⟨⟨⟨hwritten.1.1.1, hwritten.1.1.2⟩, hwritten.1.2⟩, hwritten.2⟩, ha.apart.write h.apart.log hwrite, ha.gone⟩
  · have hread : host.files.read path = g.files.read path := by
      rw [read_of_locate h.locate, read_of_locate (ha.apart.locate.mpr h.locate), ha.apart.same path h.source l h.locate]
    refine ends_instrument?_judge (fun result k reports hk => ⟨hk.1, hk.2.of_same rfl rfl rfl rfl rfl⟩) ?_
    dsimp only
    rw [judge, if_neg h.name, h.verdict_eq hread]
    exact ⟨rfl, ha.of_same rfl rfl rfl rfl rfl⟩

/-- Sources are instrumented on both sides, one after the other. -/
theorem Skips.mirrors_instrumentAll {some_ : List Path} (hsome : some_ ⊆ r.paths host.files) :
    Mirrors (fun _ => False) (r.Abreast host l d n) (r.Abreast host l d n)
      (fun x y g g' => x = y ∧ r.Abreast host l d n g g') (r.instrumentAll some_)
      (r.instrumentAll (some_.filter (· ≠ path))) := by
  induction some_ with
  | nil => exact .pure fun _ _ ha => ⟨rfl, ha⟩
  | cons p rest ih =>
    obtain ⟨hp, hrest⟩ := List.cons_subset.mp hsome
    by_cases hpath : p = path
    · subst hpath
      rw [List.filter_cons_of_neg (by simp), Run.instrumentAll]
      refine ⟨fun _ => False.elim, fun g g' ha => ?_⟩
      rw [ends_bind]
      refine Ends.mono (h.ends_skipped ha) ?_
      rintro _ k ⟨rfl, ha⟩
      dsimp only
      rw [ends_bind]
      refine Ends.mono ((ih hrest).ends k g' ha) fun more k hmore => ?_
      cases more with
      | ok more => exact hmore
      | error f => exact hmore
    · rw [List.filter_cons_of_pos (by simpa using hpath), Run.instrumentAll, Run.instrumentAll]
      refine (h.mirrors_instrumentLogged hp).bind_same fun first => (ih hrest).bind_same fun more => ?_
      exact .pure fun _ _ ha => ⟨rfl, ha⟩

end Instrument

/-! ## Whole runs on both sides -/

section Whole

variable (h : r.Skips host path l d)

include h

/-- Copies are run on both sides, and the same is gathered. -/
theorem Skips.mirrors_results (entries : List Instrumented) (summary : Summary) :
    MirrorsSteady r host [l, d] n (fun x y g g' => x = y ∧ r.SteadyTwins host [l, d] n g g')
      (do
        r.measureAll entries
        results summary)
      (do
        r.measureAll entries
        results summary) := by
  have hd : d ∈ [l, d] := List.mem_cons_of_mem _ List.mem_cons_self
  refine (mirrors_measureAll h.beside h.log hd entries).bind fun _ _ => ⟨fun _ hb => hb, fun g g' ht => ?_⟩
  obtain ⟨-, -, -, hgathered, hnow⟩ : g'.named = g.named ∧ g'.upcoming = g.upcoming ∧ g'.searchPath = g.searchPath ∧
      g'.gathered = g.gathered ∧ g'.now = g.now := by
    simpa only [stock, Prod.mk.injEq] using ht.1.1.2
  rw [results, ends_bind, ends_get]
  dsimp only
  rw [ends_pure, ends_bind, ends_get]
  dsimp only
  rw [ends_pure, hgathered, hnow]
  exact Or.inr (.ok ⟨rfl, ht⟩)

theorem Skips.abreast (named : Nat) (pipeline : Pipeline) (reports reports' : List Report) :
    r.Abreast host l d (deeds host).length { host with named, pipeline, gathered := [], reports }
      { host with files := host.files.erase l, named, pipeline, gathered := [], reports := reports' } where
  twins := ⟨⟨⟨h.lacking, rfl⟩, le_rfl⟩, ⟨h.tree, h.once, .refl _, fun _ => False.elim, fun _ _ => id⟩, rfl⟩
  apart := ⟨fun _ => rfl, rfl, fun _ _ _ _ => rfl⟩
  gone := find?_erase_self _ (h.isPlace l List.mem_cons_self).ne_nil

/-- Copies are told alike, for the input is a directory on both sides. -/
theorem Skips.shown_alike (ht : r.SteadyTwins host [l, d] n g g') (p : Path) : r.shown g'.files p = r.shown g.files p := by
  obtain ⟨root, hroot, hdirectory⟩ := isDirectory_iff.mp h.input
  have hthere := ht.2.1.grounds.locate hroot hdirectory
  have hfound := ht.2.1.grounds.directories root hdirectory
  have halike := ht.1.1.1.alike
  have hshown {fs : Files} (hroot : fs.locate r.input = .ok root) (hfound : fs.find? root = some .directory) :
      r.shown fs p = ((p.relativeTo? r.input).getD p).text := by
    rw [Run.shown, isDirectory_iff.mpr ⟨root, hroot, hfound⟩, if_pos rfl, Files.shown, isFile_of_directory hroot hfound,
      if_neg Bool.false_ne_true]
  rw [hshown hthere hfound, hshown (halike.locate.mpr hthere) (halike.directory.mpr hfound)]

/-- Both sides instrument their sources and run the copies. -/
theorem Skips.ends_singleFiles (named : Nat) (pipeline : Pipeline) :
    Ends r.singleFiles { host with named, pipeline } fun x k =>
      Ends r.singleFiles { host with files := host.files.erase l, named, pipeline } fun y k' =>
        Strayed [l, d] (deeds host).length k' ∨
          SameEnding (r.SteadyTwins host [l, d] (deeds host).length) x k y k' := by
  have hreports {x y : Except Failure (List Instrumented)} {k k' : Host} (reports reports' : List Report)
      (hm : SameEnding (r.Abreast host l d (deeds host).length) x k y k') :
      SameEnding (r.Abreast host l d (deeds host).length) x { k with reports } y { k' with reports := reports' } :=
    hm.change fun hr => hr.of_same rfl rfl rfl rfl rfl
  refine Run.ends_singleFiles_of (P := fun x k => ∀ reports', Ends (r.instrumentAll (r.paths (host.files.erase l)))
      { host with files := host.files.erase l, named, pipeline, gathered := [], reports := reports' }
      (SameEnding (r.Abreast host l d (deeds host).length) x k)) ?_ ?_ ?_ ?_
  · exact fun x k reports hk reports' => Ends.mono (hk reports') fun y k' hm => hreports reports k'.reports hm
  · intro reports reports'
    rw [h.paths_without]
    have hm := (h.mirrors_instrumentAll (List.Subset.refl (r.paths host.files))).ends _ _
      (h.abreast named pipeline reports reports')
    exact hm.resolve_left id
  · intro f k hk
    refine Run.ends_singleFiles_of (P := SameEnding (r.Abreast host l d (deeds host).length) (.error f) k)
      (fun y k' reports hm => hreports k.reports reports hm) hk (fun f' k' hm => ?_) fun found files k' hm => ?_
    · cases hm with
      | error hf ha => exact Or.inr (.error hf ha.twins)
    · cases hm
  · intro found files k hk hfiles
    -- the second side instruments its sources before the first one runs the copies
    refine ends_swap.mpr (Run.ends_singleFiles_of (P := SameEnding (r.Abreast host l d (deeds host).length) (.ok found) k)
      (fun y k' reports hm => hreports k.reports reports hm) hk (fun f' k' hm => ?_) fun found' files' k' hm hfiles' => ?_)
    · cases hm
    · cases hm with
      | ok hs =>
        obtain ⟨rfl, ha⟩ := hs
        have hsummary : (fun p => r.shown files' (Path.ofText p)) = fun p => r.shown files (Path.ofText p) := by
          rw [hfiles, hfiles']
          exact funext fun p => h.shown_alike ha.twins _
        rw [hsummary]
        exact (h.mirrors_results _ _).ends k k' ha.twins

/-- Without the source the input is accepted as well, and is no package either. -/
theorem Skips.without_accepted :
    r.inputProblem? (host.files.erase l) = none ∧ r.IsOnFiles (host.without l) := by
  have hdirectory : (host.files.erase l).isDirectory r.input = true :=
    (h.lacking.alike.isDirectory r.input).trans h.input
  have hexists {fs : Files} (hdirectory : fs.isDirectory r.input = true) : fs.exists? r.input = true := by
    obtain ⟨root, hroot, hfound⟩ := isDirectory_iff.mp hdirectory
    exact exists_iff.mpr ⟨root, _, hroot, hfound⟩
  constructor
  · have haccepted := h.accepted
    rw [inputProblem?, hexists h.input] at haccepted
    rw [inputProblem?, hexists hdirectory]
    exact haccepted
  · have hmode := h.mode
    rw [IsOnFiles, h.input, Bool.true_and] at hmode
    rw [IsOnFiles]
    dsimp only
    rw [hdirectory, Bool.true_and, ← Bool.not_eq_true] at *
    intro hfile
    obtain ⟨q, bytes, executable, hlocate, hfound⟩ := isFile_iff.mp hfile
    exact hmode (isFile_iff.mpr ⟨q, bytes, executable, h.lacking.alike.locate.mp hlocate, host.files.find?_of_erase hfound⟩)

/-- The two runs come to the same, unless a child strays. -/
theorem Skips.ends_run : Ends r.run host fun x k =>
    Ends r.run (host.without l) fun y k' =>
      Strayed [l, d] (deeds host).length k' ∨
        SameEnding (r.SteadyTwins host [l, d] (deeds host).length) x k y k' := by
  obtain ⟨haccepted, hmode⟩ := h.without_accepted
  have hfiles := h.ends_singleFiles (host.named + 1) ⟨Stages.ofNames Package.stageNames, [], false⟩
  refine ends_run_of_files h.mode h.accepted hfiles (fun found k reports hk => ?_) fun f k hk => ?_
  · refine ends_run_of_files hmode haccepted hk (fun found' k' reports' hm => hm.imp_right fun hm => ?_)
      fun f' k' hm => hm.imp_right fun hm => ?_
    · cases hm with
      | ok hs => exact .ok ⟨congrArg some hs.1, hs.2.1, hs.2.2⟩
    · cases hm
  · refine ends_run_of_files hmode haccepted hk (fun found' k' reports' hm => hm.imp_right fun hm => ?_)
      fun f' k' hm => hm.imp_right fun hm => ?_
    · cases hm
    · cases hm with
      | error hf ht => exact .error hf ht

end Whole

/-- The small tree with one more source, which is the first one. -/
def crowdedFiles (text : String) : Files :=
  ⟨(["tree", "bad.py"], .file (Text.Utf8.encode text) false) :: treeFiles.entries, []⟩

def crowdedHost (text : String) (upcoming : List Child) : Host :=
  { treeHost upcoming with files := crowdedFiles text }

/-- A program that cannot be parsed. -/
def unparsable : String :=
  "def (:\n"

/-- A program that compares a malformed string at its top level. -/
def malformed : String :=
  "if x == \"\\x\":\n    pass\n"

theorem paths_crowded {text : String} (htext : text = unparsable ∨ text = malformed) :
    treeRun.paths (crowdedFiles text) = [Path.ofText "/tree/bad.py", Path.ofText "/tree/main.py"] := by
  have hlocate : (crowdedFiles text).locate treeRun.input = .ok ["tree"] := by
    rcases htext with rfl | rfl <;> decide +kernel
  have hnames : (crowdedFiles text).sourceNames ["tree"] treeRun.config.instrumentedSuffix = [["bad.py"], ["main.py"]] := by
    rcases htext with rfl | rfl
    all_goals
      rw [Files.sourceNames, List.mergeSort_of_pairwise (by decide +kernel)]
      decide +kernel
  have hdirectory : (crowdedFiles text).find? ["tree"] = some .directory := by
    rcases htext with rfl | rfl <;> decide +kernel
  rw [paths, Files.sources, isFile_of_directory hlocate hdirectory, hlocate]
  dsimp only
  rw [if_neg Bool.false_ne_true, if_pos hdirectory, hnames]
  rfl

theorem skips_crowded (upcoming : List Child) (hchildren : ∀ c ∈ upcoming, c.output ≠ none) :
    treeRun.Skips (crowdedHost unparsable upcoming) (Path.ofText "/tree/bad.py") ["tree", "bad.py"]
      ["home", "logs", "async-latency-2025-01-01.jsonl"] where
  mode := by
    rw [IsOnFiles]
    change ((crowdedFiles unparsable).isDirectory treeRun.input &&
      (Package.ofNumber treeRun.input treeRun.config 1).isPackage (crowdedFiles unparsable)) = false
    decide +kernel
  accepted := by
    change treeRun.inputProblem? (crowdedFiles unparsable) = none
    decide +kernel
  input := by
    change (crowdedFiles unparsable).isDirectory treeRun.input = true
    decide +kernel
  tree := by
    change (crowdedFiles unparsable).IsTree
    decide +kernel
  once := by
    change (crowdedFiles unparsable).IsListing
    decide +kernel
  apart := by
    have hpaths := paths_crowded (.inl rfl)
    have haway : ∀ path ∈ [Path.ofText "/tree/bad.py", Path.ofText "/tree/main.py"],
        ((crowdedFiles unparsable).locate (treeRun.logPath smallHost.now)).toOption ≠
          ((crowdedFiles unparsable).locate path).toOption ∧
        ∀ other ∈ [Path.ofText "/tree/bad.py", Path.ofText "/tree/main.py"],
          ((crowdedFiles unparsable).locate (treeRun.copyPath other)).toOption ≠
            ((crowdedFiles unparsable).locate path).toOption := by decide +kernel
    constructor
    · intro path hpath l hl hlog
      rw [← hpaths] at haway
      exact (haway path hpath).1 (congrArg Except.toOption (hlog.trans hl.symm))
    · intro path hpath other hother l hl hcopy
      rw [← hpaths] at haway
      exact (haway path hpath).2 other hother (congrArg Except.toOption (hcopy.trans hl.symm))
    · exact hchildren
  beside :=
    { log := fun _ _ => id
      work := by
        refine ⟨["tmp"], ?_, ?_, fun n => ⟨id, fun target hfound => ?_⟩⟩
        · change (crowdedFiles unparsable).locate treeRun.config.workRoot = _
          decide +kernel
        · change (crowdedFiles unparsable).find? ["tmp"] = _
          decide +kernel
        · have hlinks : ∀ e ∈ (crowdedFiles unparsable).entries, ∀ target, e.2 ≠ .link target := by
            simp [crowdedFiles, treeFiles]
          exact hlinks _ (mem_of_find (List.cons_ne_nil _ _) hfound) target rfl }
  log := by
    change (crowdedFiles unparsable).locateLink (treeRun.logPath smallHost.now) = _
    decide +kernel
  log_place e he := by
    have hnone : (crowdedFiles unparsable).find? ["home", "logs", "async-latency-2025-01-01.jsonl"] = none := by
      decide +kernel
    cases hnone.symm.trans he
  source := by
    change _ ∈ treeRun.paths (crowdedFiles unparsable)
    rw [paths_crowded (.inl rfl)]
    exact List.mem_cons_self
  name := by decide +kernel
  own := by
    change (crowdedFiles unparsable).locateLink _ = _
    decide +kernel
  file := ⟨_, _, rfl⟩
  skipped m hm := by
    have hnone : ((crowdedFiles unparsable).moduleAt (Path.ofText "/tree/bad.py") "").toOption.isSome = false := by
      decide +kernel
    have hsome : (crowdedFiles unparsable).moduleAt (Path.ofText "/tree/bad.py") "" = .ok m := moduleAt_eq_ok.mpr hm
    rw [hsome] at hnone
    cases hnone

/-- A failure that says that a string is malformed. -/
def isMalformed : Failure → Bool
  | .malformedString _ => true
  | _ => false

/-- A run has stopped at a malformed string, and the other source of the small tree has no copy. -/
def IsStopped {α : Type} (result : Except Failure α) (h : Host) : Prop :=
  (match result with
    | .error f => isMalformed f
    | .ok _ => false) = true ∧
  h.files.isFile (treeRun.copyPath (Path.ofText "/tree/main.py")) = false

end Run

end Stopwatch

/-
  Copies of sources.

  Before anything is run, every source is either skipped or gets its copy.  What becomes of a
  source depends on its text alone, so it does not matter how many copies have been written
  before, and writing the copies a second time changes nothing.
-/
import Stopwatch.Proofs.Run.PlainTree

namespace Stopwatch

open Action Files

namespace Run

variable {r : Run} {root dir : Location} {fs₀ fs fs' : Files} {path : Path} {name : String} {host h : Host}
  {result : Instrumented} {text : String}

/-! ## What becomes of a source -/

/-- The text of the copy of a module. -/
def copyText (m : Syntax.Module) (path : Path) : String :=
  ((m.instrument? ⟨recordedFileName path.text path.name, .definition⟩).map (·.text)).getD ""

/-- What is found out about a source, and the text of its copy; nothing if it is skipped. -/
def verdict (r : Run) (fs : Files) (path : Path) : Except Failure (Option (Instrumented × String)) :=
  match fs.moduleAt path "" with
  | .error _ => .ok none
  | .ok m =>
    match m.analyze with
    | .error e => .error (.malformedString e)
    | .ok analysis =>
      .ok (some (⟨path.text, (r.copyPath path).text, analysis.functions, analysis.hasEntryPoint⟩, copyText m path))

/-- What a source is called when it is refused makes no difference. -/
theorem verdict_of_moduleAt (name : String) :
    r.verdict fs path = match fs.moduleAt path name with
      | .error _ => .ok none
      | .ok m =>
        match m.analyze with
        | .error e => .error (.malformedString e)
        | .ok analysis =>
          .ok (some (⟨path.text, (r.copyPath path).text, analysis.functions, analysis.hasEntryPoint⟩,
            copyText m path)) := by
  rw [verdict, moduleAt, moduleAt]
  cases fs.textAt path with
  | error f => rfl
  | ok source =>
    dsimp only
    cases hasMarker source with
    | true => rfl
    | false => rfl

/-- Only the text of a source is looked at. -/
theorem verdict_congr (htext : fs'.textAt path = fs.textAt path) : r.verdict fs' path = r.verdict fs path := by
  rw [verdict, verdict, moduleAt, moduleAt, htext]

/-- What is found out about a source, if it is not skipped. -/
def instrumentedIn? (r : Run) (fs : Files) (path : Path) : Option Instrumented :=
  match r.verdict fs path with
  | .ok (some (result, _)) => some result
  | _ => none

/-- What is reported makes no difference. -/
def IgnoresReports {α : Type} (Q : Except Failure α → Host → Prop) : Prop :=
  ∀ result h reports, Q result h → Q result { h with reports }

theorem IgnoresReports.ends_report_bind {α : Type} {Q : Except Failure α → Host → Prop} {a : Action α}
    {report : Report} (h : ∀ reports, Ends a { host with reports } Q) : Ends (do Action.report report; a) host Q := by
  rw [ends_bind]
  change Ends a (if host.listening then { host with reports := host.reports ++ [report] } else host) Q
  split
  · exact h _
  · exact h host.reports

theorem IgnoresReports.ends_report {Q : Except Failure Unit → Host → Prop} (hQ : IgnoresReports Q) (report : Report)
    (h : Q (.ok ()) host) : Ends (Action.report report) host Q := by
  change Q (.ok ()) (if host.listening then { host with reports := host.reports ++ [report] } else host)
  split
  · exact hQ _ _ _ h
  · exact h

/-- Writing the copy of a module: a warning about a copy that is there already makes no
difference. -/
theorem ends_writeCopy {Q : Except Failure Instrumented → Host → Prop} (hQ : IgnoresReports Q) {m : Syntax.Module}
    {analysis : Analysis} (hanalyze : m.analyze = .ok analysis)
    (hwrite : match h.files.write (r.copyPath path) fun _ => Text.Utf8.encode (copyText m path) with
      | .ok files =>
        Q (.ok ⟨path.text, (r.copyPath path).text, analysis.functions, analysis.hasEntryPoint⟩) { h with files }
      | .error fault => Q (.error (.system (.refused fault (r.copyPath path).text))) h) :
    Ends (writeCopy path (r.copyPath path) m) h Q := by
  obtain ⟨m', hm'⟩ := exists_instrument_definition m (recordedFileName path.text path.name)
  have htext : Action.instrumentModule m path .definition = pure (copyText m path) := by
    rw [Action.instrumentModule, copyText, hm']
    rfl
  have hlast (reports : List Report) : Ends (do
      Action.writeText (r.copyPath path) (copyText m path)
      return (⟨path.text, (r.copyPath path).text, analysis.functions, analysis.hasEntryPoint⟩ : Instrumented))
      { h with reports } Q := by
    rw [ends_bind, writeText, ends_changeFiles]
    dsimp only
    revert hwrite
    cases h.files.write (r.copyPath path) fun _ => Text.Utf8.encode (copyText m path) with
    | ok files => exact fun hwrite => hQ _ _ reports hwrite
    | error fault => exact fun hwrite => hQ _ _ reports hwrite
  rw [writeCopy, ends_bind, ends_analyze, hanalyze]
  simp only [Except.mapError, htext, pure_bind]
  rw [ends_bind, Action.exists?, ends_observe]
  dsimp only
  split
  · exact IgnoresReports.ends_report_bind hlast
  · exact hlast h.reports

/-- Instrumenting a source: its name is checked, its text is judged, and its copy is written. -/
theorem ends_instrument? {Q : Except Failure (Option Instrumented) → Host → Prop} (hQ : IgnoresReports Q)
    (hname : '/' ∈ (r.copyPath path).name.toList → Q (.error (.value (.badName (r.copyPath path).name))) h)
    (hfailed : ∀ f, r.verdict h.files path = .error f → Q (.error f) h)
    (hskipped : '/' ∉ (r.copyPath path).name.toList → r.verdict h.files path = .ok none → Q (.ok none) h)
    (hjudged : ∀ result text, '/' ∉ (r.copyPath path).name.toList → r.verdict h.files path = .ok (some (result, text)) →
      match h.files.write (r.copyPath path) fun _ => Text.Utf8.encode text with
      | .ok files => Q (.ok (some result)) { h with files }
      | .error fault => Q (.error (.system (.refused fault (r.copyPath path).text))) h) :
    Ends (r.instrument? path) h Q := by
  by_cases hslash : '/' ∈ (r.copyPath path).name.toList
  · have hcheck : checkName (r.copyPath path) = fail (.value (.badName (r.copyPath path).name)) := by
      rw [checkName, if_pos (by simpa using hslash)]
    rw [instrument?, hcheck]
    exact hname hslash
  have hcheck : checkName (r.copyPath path) = pure () := by
    rw [checkName, if_neg (by simpa using hslash)]
  rw [verdict_of_moduleAt (r.shown h.files path)] at hfailed hskipped hjudged
  rw [instrument?, hcheck, pure_bind, ends_bind, ends_get]
  dsimp only
  rw [ends_bind, ends_attempt, ends_readModule]
  cases hmodule : h.files.moduleAt path (r.shown h.files path) with
  | error f =>
    rw [hmodule] at hskipped
    exact IgnoresReports.ends_report_bind fun reports => hQ _ _ reports (hskipped hslash rfl)
  | ok m =>
    rw [hmodule] at hfailed hjudged
    dsimp only at hfailed hjudged ⊢
    rw [ends_bind]
    cases hanalyze : m.analyze with
    | error e =>
      rw [hanalyze] at hfailed
      rw [writeCopy, ends_bind, ends_analyze, hanalyze]
      exact hfailed _ rfl
    | ok analysis =>
      rw [hanalyze] at hjudged
      refine ends_writeCopy (fun result h reports hq => ?_) hanalyze ?_
      · cases result with
        | ok x => exact hQ _ h reports hq
        | error f => exact hQ _ h reports hq
      · have hwritten := hjudged _ _ hslash rfl
        revert hwritten
        cases h.files.write (r.copyPath path) fun _ => Text.Utf8.encode (copyText m path) with
        | ok files => exact id
        | error fault => exact id

/-! ## The files while copies are written -/

/-- What stands at a location after bytes have been written there. -/
def fileWith (fs : Files) (l : Location) (bytes : List UInt8) : Entry :=
  .file bytes (match fs.find? l with
    | some (.file _ executable) => executable
    | _ => false)

/-- A second write leaves what the first one left. -/
theorem fileWith_of_found {l : Location} {bytes : List UInt8} (hfound : fs'.find? l = some (fileWith fs l bytes)) :
    fileWith fs' l bytes = fileWith fs l bytes := by
  rw [fileWith, hfound]
  rfl

/-- The path of a copy can be written: no directory stands there. -/
theorem write_copy {l : Location} {bytes : List UInt8} (hlocate : fs.locate path = .ok l)
    (hregular : ∀ e, fs.find? l = some e → e = .directory ∨ ∃ bytes executable, e = .file bytes executable) :
    (fs.write path fun _ => bytes) =
      if fs.find? l = some .directory then .error .isDirectory else .ok (fs.insert l (fileWith fs l bytes)) := by
  rw [write_eq, hlocate, fileWith]
  dsimp only
  cases hfound : fs.find? l with
  | none => rfl
  | some e =>
    rcases hregular e hfound with rfl | ⟨old, executable, rfl⟩
    · rfl
    · rfl

/-- A source gets a copy, with a given text at a given location. -/
structure Copies (r : Run) (root : Location) (fs : Files) (path : Path) (text : String) (l : Location) : Prop where
  judged : ∃ result, r.verdict fs path = .ok (some (result, text))
  at_ : ∃ dir name, r.SourceAt root fs path dir name ∧ l = dir ++ [r.copyNameOf name]

theorem Copies.holds (hc : r.Copies root fs path text l) (h : r.IsPlain root fs)
    (hsuffix : r.config.instrumentedSuffix ≠ "") : r.Holds root fs l := by
  obtain ⟨dir, name, hat, rfl⟩ := hc.at_
  exact Or.inr ⟨path, hat.mem_paths h, (hat.stands h hsuffix).copy_own⟩

/-- Only one text is written to a location. -/
theorem Copies.text_unique {path' : Path} {text' : String} (hc : r.Copies root fs path text l)
    (hc' : r.Copies root fs path' text' l) : text = text' := by
  obtain ⟨dir, name, hat, hl⟩ := hc.at_
  obtain ⟨dir', name', hat', hl'⟩ := hc'.at_
  obtain rfl := hat.copy_inj hat' (hl.symm.trans hl')
  obtain ⟨result, hverdict⟩ := hc.judged
  obtain ⟨result', hverdict'⟩ := hc'.judged
  rw [hverdict] at hverdict'
  cases hverdict'
  rfl

/-- The files when some sources have got their copies. -/
structure IsCopied (r : Run) (root : Location) (fs₀ : Files) (done : List Path) (fs : Files) : Prop where
  tree : fs.IsTree
  once : fs.IsListing
  ways : fs₀.SameWays fs
  here : fs.workingDirectory = fs₀.workingDirectory
  copied : ∀ path ∈ done, ∀ text l, r.Copies root fs₀ path text l →
    fs.find? l = some (fileWith fs₀ l (Text.Utf8.encode text))
  rest : ∀ l, r.Holds root fs₀ l → fs.find? l = fs₀.find? l ∨
    ∃ path text, r.Copies root fs₀ path text l ∧ fs.find? l = some (fileWith fs₀ l (Text.Utf8.encode text))

namespace IsCopied

variable {done : List Path}

theorem start (h : r.IsPlain root fs₀) : r.IsCopied root fs₀ [] fs₀ where
  tree := h.tree
  once := h.once
  ways _ := rfl
  here := rfl
  copied := nofun
  rest _ _ := Or.inl rfl

theorem locate (hi : r.IsCopied root fs₀ done fs) {p : Path} {l : Location} :
    fs.locate p = .ok l ↔ fs₀.locate p = .ok l :=
  hi.ways.locate hi.here

/-- Sources are not written. -/
theorem find?_source (hi : r.IsCopied root fs₀ done fs) (h : r.IsPlain root fs₀)
    (hsuffix : r.config.instrumentedSuffix ≠ "") (hat : r.SourceAt root fs₀ path dir name) :
    fs.find? (dir ++ [name]) = fs₀.find? (dir ++ [name]) := by
  rcases hi.rest _ hat.holds with hsame | ⟨path', text, ⟨-, dir', name', hat', hl⟩, -⟩
  · exact hsame
  · exact absurd hl.symm (hat'.copy_ne h hsuffix hat)

/-- A source is judged as at the start. -/
theorem verdict_eq (hi : r.IsCopied root fs₀ done fs) (h : r.IsPlain root fs₀)
    (hsuffix : r.config.instrumentedSuffix ≠ "") (hat : r.SourceAt root fs₀ path dir name) :
    r.verdict fs path = r.verdict fs₀ path := by
  have hhere := (hat.stands h hsuffix).located
  apply verdict_congr
  refine textAt_congr ((hi.locate.mpr hhere).trans hhere.symm) fun l hl => ?_
  obtain rfl := Except.ok.inj (hhere.symm.trans hl)
  exact hi.find?_source h hsuffix hat

/-- A file is put at a place outside the tree. -/
theorem insert_outside (hi : r.IsCopied root fs₀ done fs) {p : Path} {l : Location} (hlocate : fs.locate p = .ok l)
    (hplace : fs.IsPlace l) (hl : ¬r.Holds root fs₀ l) (h : r.IsPlain root fs₀)
    (hsuffix : r.config.instrumentedSuffix ≠ "") (bytes : List UInt8) (executable : Bool) :
    r.IsCopied root fs₀ done (fs.insert l (.file bytes executable)) := by
  have hways : fs.SameWays (fs.insert l (.file bytes executable)) := sameWays_insert hplace.way?_eq_none rfl
  have hkept (l' : Location) (hl' : r.Holds root fs₀ l') :
      (fs.insert l (.file bytes executable)).find? l' = fs.find? l' := by
    apply find?_insert_of_ne
    rintro rfl
    exact hl hl'
  constructor
  · exact hi.tree.insert (hi.tree.put_file hlocate hplace bytes executable)
  · exact hi.once.insert l _
  · exact fun l' => (hi.ways l').trans (hways l')
  · exact hi.here
  · intro path hpath text l' hc
    rw [hkept l' (hc.holds h hsuffix)]
    exact hi.copied path hpath text l' hc
  · intro l' hl'
    rw [hkept l' hl']
    exact hi.rest l' hl'

/-- A copy is put where it belongs. -/
theorem insert_copy (hi : r.IsCopied root fs₀ done fs) {p : Path} {l : Location} (hlocate : fs.locate p = .ok l)
    (hdirectory : fs.find? l ≠ some .directory) (hc : r.Copies root fs₀ path text l) (h : r.IsPlain root fs₀)
    (hsuffix : r.config.instrumentedSuffix ≠ "") :
    r.IsCopied root fs₀ (path :: done) (fs.insert l (fileWith fs l (Text.Utf8.encode text))) := by
  have hregular : fs.IsPlace l ∧ fileWith fs l (Text.Utf8.encode text) = fileWith fs₀ l (Text.Utf8.encode text) := by
    rcases hi.rest l (hc.holds h hsuffix) with hsame | ⟨path', text', hc', hfound⟩
    · refine ⟨fun e he => ?_, by rw [fileWith, fileWith, hsame]⟩
      rcases h.regular l (hc.holds h hsuffix) e (hsame ▸ he) with rfl | hfile
      · exact absurd he hdirectory
      · exact hfile
    · obtain rfl := hc.text_unique hc'
      refine ⟨fun e he => ?_, fileWith_of_found hfound⟩
      rw [hfound] at he
      exact ⟨_, _, (Option.some.inj he).symm⟩
  obtain ⟨hplace, hsame⟩ := hregular
  rw [hsame]
  have hways : fs.SameWays (fs.insert l (fileWith fs₀ l (Text.Utf8.encode text))) :=
    sameWays_insert hplace.way?_eq_none rfl
  have hself := find?_insert_self fs hplace.ne_nil (fileWith fs₀ l (Text.Utf8.encode text))
  constructor
  · exact hi.tree.insert (hi.tree.put_file hlocate hplace _ _)
  · exact hi.once.insert l _
  · exact fun l' => (hi.ways l').trans (hways l')
  · exact hi.here
  · intro path' hpath' text' l' hc'
    by_cases heq : l' = l
    · subst heq
      rw [hself, hc.text_unique hc']
    · rw [find?_insert_of_ne fs heq]
      rcases List.mem_cons.mp hpath' with rfl | hpath'
      · obtain ⟨dir, name, hat, hl⟩ := hc.at_
        obtain ⟨dir', name', hat', hl'⟩ := hc'.at_
        have hhere := (hat.stands h hsuffix).copy
        have hthere := (hat'.stands h hsuffix).copy
        exact absurd (hl'.trans ((Except.ok.inj (hthere.symm.trans hhere)).trans hl.symm)) heq
      · exact hi.copied path' hpath' text' l' hc'
  · intro l' hl'
    by_cases heq : l' = l
    · subst heq
      exact Or.inr ⟨path, text, hc, hself⟩
    · rw [find?_insert_of_ne fs heq]
      exact hi.rest l' hl'

end IsCopied

/-! ## The log of events -/

/-- The file that events of a day are written to. -/
def logPath (r : Run) (day : Timestamp) : Path :=
  r.log.file day.dayText

/-- Events are written outside the tree, if they can be written. -/
def LogsOutside (r : Run) (tree : Location → Prop) (day : Timestamp) (fs : Files) : Prop :=
  ∀ l, fs.locate (r.logPath day) = .ok l → ¬tree l

/-- Events have been written, to a file outside the tree. -/
def HasLog (r : Run) (tree : Location → Prop) (day : Timestamp) (fs : Files) : Prop :=
  ∃ l e, fs.locate (r.logPath day) = .ok l ∧ ¬tree l ∧ fs.find? l = some e ∧ e.isWay = false

/-- Where an event has been written, there is a log. -/
theorem LogsOutside.hasLog {tree : Location → Prop} {day : Timestamp} (h : r.LogsOutside tree day fs)
    (htree : fs.IsTree) {change : List UInt8 → List UInt8} (hwrite : fs.write (r.logPath day) change = .ok fs') :
    r.HasLog tree day fs' := by
  cases hlocate : fs.locate (r.logPath day) with
  | error fault =>
    rw [write_eq, hlocate] at hwrite
    cases hwrite
  | ok l =>
    have hl := h l hlocate
    have hnew (hplace : fs.IsPlace l) (bytes : List UInt8) (executable : Bool) :
        r.HasLog tree day (fs.insert l (.file bytes executable)) :=
      ⟨l, _, locate_insert hlocate hplace bytes executable, hl, find?_insert_self fs hplace.ne_nil _, rfl⟩
    rcases write_inv hwrite with rfl | ⟨l', bytes, executable, hlocate', hplace, rfl⟩
    · -- what takes bytes without a change is no directory, and no walk ends at a link
      rw [write_eq, hlocate] at hwrite
      dsimp only at hwrite
      cases hfound : fs'.find? l with
      | none =>
        rw [hfound] at hwrite
        dsimp only at hwrite
        rw [← Except.ok.inj hwrite]
        exact hnew (fun e he => nomatch hfound.symm.trans he) _ _
      | some e =>
        refine ⟨l, e, hlocate, hl, hfound, ?_⟩
        cases e with
        | file bytes executable => rfl
        | pipe => rfl
        | directory =>
          rw [hfound] at hwrite
          cases hwrite
        | link target =>
          exact absurd hfound (htree.not_link (locate_eq_ok_iff.mp hlocate) (htree.directory_start _) target)
    · obtain rfl := Except.ok.inj (hlocate.symm.trans hlocate')
      exact hnew hplace bytes executable

/-! ## Instrumenting -/

/-- What is asked of a source so that it is instrumented or skipped. -/
structure Fits (r : Run) (fs : Files) (path : Path) : Prop where
  name : '/' ∉ (r.copyPath path).name.toList
  judged : ∃ v, r.verdict fs path = .ok v ∧ (v ≠ none → fs.Takes (r.copyPath path))

/-- A refusal to log an event. -/
def IsUnlogged (r : Run) (day : Timestamp) (f : Failure) : Prop :=
  ∃ fault, f = .system (.refused fault (r.logPath day).text)

theorem IsCopied.mono {done done' : List Path} (hi : r.IsCopied root fs₀ done fs) (hdone : done' ⊆ done) :
    r.IsCopied root fs₀ done' fs :=
  { hi with copied := fun path hpath => hi.copied path (hdone hpath) }

/-- A source without a copy is done at once. -/
theorem IsCopied.skip {done : List Path} (hi : r.IsCopied root fs₀ done fs)
    (hnone : ∀ text l, ¬r.Copies root fs₀ path text l) : r.IsCopied root fs₀ (path :: done) fs := by
  refine { hi with copied := fun path' hpath' text l hc => ?_ }
  rcases List.mem_cons.mp hpath' with rfl | hpath'
  · exact absurd hc (hnone text l)
  · exact hi.copied path' hpath' text l hc

/-- Whether a path can be written depends on directories and links only. -/
theorem IsCopied.takes {done : List Path} (hi : r.IsCopied root fs₀ done fs) (p : Path) :
    fs.Takes p ↔ fs₀.Takes p :=
  exists_congr fun _ => and_congr hi.locate (not_congr (hi.ways.find?_eq rfl).symm)

section Instrument

variable (hplain : r.IsPlain root fs₀) (hsuffix : r.config.instrumentedSuffix ≠ "")

include hplain hsuffix

/-- A source that fits is skipped or gets its copy; another one stops the run. -/
theorem leaves_instrument? {done : List Path} (hpath : path ∈ r.paths fs₀)
    (hi : During host (r.IsCopied root fs₀ done) h) :
    Leaves
      (fun first h => During host (r.IsCopied root fs₀ (path :: done)) h ∧ r.Fits fs₀ path ∧
        first = r.instrumentedIn? fs₀ path)
      (fun _ h => During host (r.IsCopied root fs₀ []) h ∧ ¬r.Fits fs₀ path) (r.instrument? path) h := by
  obtain ⟨dir, name, hat⟩ := hplain.exists_sourceAt hpath
  have hstands := hat.stands hplain hsuffix
  have hverdict := hi.2.verdict_eq hplain hsuffix hat
  have hfailed (hbad : ¬r.Fits fs₀ path) : During host (r.IsCopied root fs₀ []) h ∧ ¬r.Fits fs₀ path :=
    ⟨hi.mono fun _ hfs => hfs.mono (List.nil_subset _), hbad⟩
  refine ends_instrument? ?_ ?_ ?_ ?_ ?_
  · intro result h reports hq
    cases hq with
    | ok hs => exact .ok ⟨quiet_during host _ h _ rfl hs.1, hs.2⟩
    | error he => exact .error ⟨quiet_during host _ h _ rfl he.1, he.2⟩
  · exact fun hslash => .error (hfailed fun hfits => hfits.name hslash)
  · intro f hf
    refine .error (hfailed fun hfits => ?_)
    obtain ⟨v, hv, -⟩ := hfits.judged
    rw [hverdict, hv] at hf
    cases hf
  · intro hslash hnone
    rw [hverdict] at hnone
    refine .ok ⟨hi.mono fun _ hfs => hfs.skip fun text l hc => ?_, ⟨hslash, none, hnone, fun h => absurd rfl h⟩, ?_⟩
    · obtain ⟨result, hsome⟩ := hc.judged
      rw [hnone] at hsome
      cases hsome
    · rw [instrumentedIn?, hnone]
  · intro result text hslash hsome
    rw [hverdict] at hsome
    have hc : r.Copies root fs₀ path text (dir ++ [r.copyNameOf name]) := ⟨⟨result, hsome⟩, dir, name, hat, rfl⟩
    have hlocate := hi.2.locate.mpr hstands.copy
    have hregular (e : Entry) (he : h.files.find? (dir ++ [r.copyNameOf name]) = some e) :
        e = .directory ∨ ∃ bytes executable, e = .file bytes executable := by
      have hl := hc.holds hplain hsuffix
      rcases hi.2.rest _ hl with hsame | ⟨path', text', -, hfound⟩
      · exact hplain.regular _ hl e (hsame ▸ he)
      · rw [hfound] at he
        exact Or.inr ⟨_, _, (Option.some.inj he).symm⟩
    rw [write_copy hlocate hregular]
    split
    · rename_i files hfiles
      split at hfiles
      · cases hfiles
      · rename_i hdirectory
        cases hfiles
        refine .ok ⟨hi.change (hi.2.insert_copy hlocate hdirectory hc hplain hsuffix), ⟨hslash, _, hsome, fun _ => ?_⟩, ?_⟩
        · exact (hi.2.takes _).mp ⟨_, hlocate, hdirectory⟩
        · rw [instrumentedIn?, hsome]
    · rename_i fault hfault
      split at hfault
      · rename_i hdirectory
        refine .error (hfailed fun hfits => ?_)
        obtain ⟨v, hv, htakes⟩ := hfits.judged
        rw [hsome] at hv
        have hv' : v ≠ none := by
          rw [← Except.ok.inj hv]
          exact Option.some_ne_none _
        obtain ⟨l, hl, hother⟩ := (hi.2.takes _).mpr (htakes hv')
        obtain rfl := Except.ok.inj (hlocate.symm.trans hl)
        exact hother hdirectory
      · cases hfault

variable (hlog : r.LogsOutside (r.Holds root fs₀) host.now fs₀)

include hlog

/-- An event of a source is written outside the tree. -/
theorem leaves_instrumentLogged {done : List Path} (hpath : path ∈ r.paths fs₀)
    (hi : During host (r.IsCopied root fs₀ done) h) :
    Leaves
      (fun first h => During host (r.IsCopied root fs₀ (path :: done)) h ∧ r.Fits fs₀ path ∧
        first = r.instrumentedIn? fs₀ path ∧ r.HasLog (r.Holds root fs₀) host.now h.files)
      (fun f h => During host (r.IsCopied root fs₀ []) h ∧ (¬r.Fits fs₀ path ∨ r.IsUnlogged host.now f))
      (r.instrumentLogged path) h := by
  have houtside {done : List Path} {fs : Files} (hfs : r.IsCopied root fs₀ done fs) :
      r.LogsOutside (r.Holds root fs₀) host.now fs := fun l hl => hlog l (hfs.locate.mp hl)
  have hadd {done : List Path} {h : Host} (hi : During host (r.IsCopied root fs₀ done) h)
      {change : List UInt8 → List UInt8} {files : Files} (hwrite : h.files.write (r.logPath host.now) change = .ok files) :
      During host (r.IsCopied root fs₀ done) { h with files } ∧ r.HasLog (r.Holds root fs₀) host.now files := by
    refine ⟨?_, (houtside hi.2).hasLog hi.2.tree hwrite⟩
    rcases write_inv hwrite with rfl | ⟨l, bytes, executable, hlocate, hplace, rfl⟩
    · exact hi
    · exact hi.change (hi.2.insert_outside hlocate hplace (houtside hi.2 l hlocate) hplain hsuffix _ _)
  refine RunLog.ends_timed
    (Q := OneOf
      (fun first h => During host (r.IsCopied root fs₀ (path :: done)) h ∧ r.Fits fs₀ path ∧
        first = r.instrumentedIn? fs₀ path)
      (fun _ h => During host (r.IsCopied root fs₀ []) h ∧ ¬r.Fits fs₀ path)) ?_ ?_ ?_ ?_
  · intro result h h' hview hq
    cases hq with
    | ok hs => exact .ok ⟨quiet_during host _ h h' hview hs.1, hs.2⟩
    | error he => exact .error ⟨quiet_during host _ h h' hview he.1, he.2⟩
  · intro result h logged hq
    cases hq with
    | ok hs => exact .ok ⟨quiet_during host _ h _ rfl hs.1, hs.2⟩
    | error he => exact .error ⟨quiet_during host _ h _ rfl he.1, he.2⟩
  · intro result h text hq
    have hnow {done : List Path} {h : Host} (hi : During host (r.IsCopied root fs₀ done) h) : h.now = host.now :=
      congrArg Prod.fst hi.1
    rw [appendText, ends_changeFiles]
    cases hq with
    | ok hs =>
      have hsame : r.log.file h.now.dayText = r.logPath host.now := by rw [hnow hs.1, logPath]
      rw [hsame]
      split
      · rename_i files hfiles
        obtain ⟨hcopied, hhas⟩ := hadd hs.1 hfiles
        exact .ok ⟨hcopied, hs.2.1, hs.2.2, hhas⟩
      · exact .error ⟨hs.1.mono fun _ hfs => hfs.mono (List.nil_subset _), Or.inr ⟨_, rfl⟩⟩
    | error he =>
      have hsame : r.log.file h.now.dayText = r.logPath host.now := by rw [hnow he.1, logPath]
      rw [hsame]
      split
      · rename_i files hfiles
        exact .error ⟨(hadd he.1 hfiles).1, Or.inl he.2⟩
      · exact .error ⟨he.1, Or.inr ⟨_, rfl⟩⟩
  · intro h' hview
    exact leaves_instrument? hplain hsuffix hpath (quiet_during host _ h h' hview hi)

/-- Instrumenting some sources: each of them fits, and is skipped or has its copy. -/
theorem leaves_instrumentAll {some_ : List Path} {done : List Path} (hsome : some_ ⊆ r.paths fs₀)
    (hi : During host (r.IsCopied root fs₀ done) h) :
    Leaves
      (fun results h' => During host (r.IsCopied root fs₀ (some_.reverse ++ done)) h' ∧
        (∀ path ∈ some_, r.Fits fs₀ path) ∧ results = some_.filterMap (r.instrumentedIn? fs₀) ∧
        (some_ ≠ [] ∨ r.HasLog (r.Holds root fs₀) host.now h.files →
          r.HasLog (r.Holds root fs₀) host.now h'.files))
      (fun f h => During host (r.IsCopied root fs₀ []) h ∧
        ((¬∀ path ∈ some_, r.Fits fs₀ path) ∨ r.IsUnlogged host.now f))
      (r.instrumentAll some_) h := by
  induction some_ generalizing h done with
  | nil => exact Leaves.pure ⟨hi, nofun, rfl, fun hor => hor.resolve_left fun hne => hne rfl⟩
  | cons path rest ih =>
    obtain ⟨hpath, hrest⟩ := List.cons_subset.mp hsome
    rw [Run.instrumentAll]
    refine Leaves.bind ((leaves_instrumentLogged hplain hsuffix hlog hpath hi).mono (fun _ _ => id) ?_) ?_
    · rintro f h ⟨hi, hbad⟩
      exact ⟨hi, hbad.imp_left fun hbad hall => hbad (hall path List.mem_cons_self)⟩
    · rintro first h₁ ⟨hi, hfits, hfirst, hhas⟩
      refine Leaves.bind ((ih hrest hi).mono (fun _ _ => id) ?_) ?_
      · rintro f h ⟨hi, hbad⟩
        refine ⟨hi, hbad.imp_left fun hbad hall => hbad fun other hother => ?_⟩
        exact hall other (List.mem_cons_of_mem _ hother)
      · rintro more h₂ ⟨hi, hmore, hresults, hkept⟩
        refine Leaves.pure ⟨?_, ?_, ?_, fun _ => hkept (Or.inr hhas)⟩
        · rw [List.reverse_cons, List.append_assoc]
          exact hi
        · intro other hother
          rcases List.mem_cons.mp hother with rfl | hother
          · exact hfits
          · exact hmore other hother
        · rw [hfirst, hresults, List.filterMap_cons]
          cases r.instrumentedIn? fs₀ path <;> rfl

end Instrument

end Run

end Stopwatch

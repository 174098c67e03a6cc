/-
  Copies that are run on twins.

  Instrumented copies are run on twins one after the other, and what they measure is gathered.  As long
  as no child strays both sides gather the same and stay twins: the log of events stays where it is, for
  what is removed meanwhile is neither a directory nor a link that leads to one.
-/
import Stopwatch.Proofs.Process.Twins
import Stopwatch.Proofs.Run.Sparing

namespace Stopwatch

open Action Files

variable {α β : Type} {places : List Location} {n : Nat} {B : Host → Prop} {P R : Host → Host → Prop}

/-! ## Logged work -/

/-- An event is written: its line is added, and it is noted what has been found and left. -/
theorem RunLog.ends_write {log : RunLog} {type : String} {data : EventFields} {duration : Option Int} {h : Host}
    {Q : Except Failure Unit → Host → Prop} :
    Ends (log.write type data duration) h Q ↔
      Ends (appendText (log.file h.now.dayText)
          (Json.render Json.eventStyle (log.document type data duration h.now) ++ "\n")) h fun result k =>
        match result with
        | .ok _ => Q (.ok ()) { k with logged := k.logged ++ [⟨type, data, duration, h.now, h.files, k.files⟩] }
        | .error e => Q (.error e) k := by
  rw [RunLog.write, ends_bind, ends_observe]
  dsimp only
  rw [ends_bind, ends_observe]
  dsimp only
  rw [ends_bind]
  refine ends_congr fun result k => ?_
  cases result <;> rfl

/-- An event is written on both sides; what it says may differ. -/
theorem RunLog.mirrors_write {log : RunLog} {type type' : String} {data data' : EventFields}
    {duration duration' : Option Int} (hB : ∀ h files logged, B h → B { h with files, logged })
    (hR : ∀ g g' logged logged', R g g' → R { g with logged } { g' with logged := logged' })
    (happend : ∀ g g' text text', R g g' → Ends (appendText (log.file g.now.dayText) text) g fun result k =>
      Ends (appendText (log.file g'.now.dayText) text') g' fun result' k' =>
        Mirrored R (fun _ _ => R) result k result' k') :
    Mirrors B R R (fun _ _ => R) (log.write type data duration) (log.write type' data' duration') where
  lasts h' hb := by
    rw [RunLog.ends_write, appendText, ends_changeFiles]
    split
    · exact hB h' _ _ hb
    · exact hb
  ends h h' hr := by
    rw [RunLog.ends_write]
    refine Ends.mono (happend h h' _ (Json.render Json.eventStyle (log.document type' data' duration' h'.now) ++ "\n") hr)
      fun result k hk => ?_
    cases result with
    | ok _ =>
      dsimp only
      rw [RunLog.ends_write]
      refine Ends.mono hk fun result' k' hm => ?_
      cases hm with
      | ok hr => exact Or.inr (.ok (hR _ _ _ _ hr))
    | error e =>
      dsimp only
      rw [RunLog.ends_write]
      refine Ends.mono hk fun result' k' hm => ?_
      cases hm with
      | error hf hr => exact Or.inr (.error hf hr)

/-- Work that is logged on both sides; what is written in the log may differ. -/
theorem RunLog.mirrors_timed [Nonempty α] {log : RunLog} {type : String} {data : EventFields} {work : Action α}
    {work' : Action β} {note : α → EventFields} {note' : β → EventFields} {V : α → β → Prop}
    (hB : ∀ h clock files logged, B h → B { h with clock, files, logged })
    (hP : ∀ g g' clock clock', P g g' → P { g with clock } { g' with clock := clock' })
    (hR : ∀ g g' clock clock' logged logged', R g g' → R { g with clock, logged } { g' with clock := clock', logged := logged' })
    (happend : ∀ g g' text text', R g g' → Ends (appendText (log.file g.now.dayText) text) g fun result k =>
      Ends (appendText (log.file g'.now.dayText) text') g' fun result' k' =>
        Mirrored R (fun _ _ => R) result k result' k')
    (hwork : Mirrors B R P (fun x y g g' => V x y ∧ R g g') work work') :
    Mirrors B R P (fun x y g g' => V x y ∧ R g g') (log.timed type data work note) (log.timed type data work' note') := by
  have hclock {P : Host → Host → Prop} (hP : ∀ g g' clock clock', P g g' → P { g with clock } { g' with clock := clock' }) :
      Mirrors B R P (fun _ _ => P) readClock readClock :=
    ⟨fun h hb => hB h _ h.files h.logged hb, fun h h' hp => Or.inr (.ok (hP h h' _ _ hp))⟩
  have hwrite {data data' : EventFields} {duration duration' : Option Int} :
      Mirrors B R R (fun _ _ => R) (log.write type data duration) (log.write type data' duration') :=
    mirrors_write (fun h => hB h h.clock) (fun g g' => hR g g' g.clock g'.clock) happend
  refine (hclock hP).bind fun _ _ => hwork.attempt_bind (fun x y => ?_) fun e e' hf => ?_
  · refine (hclock fun g g' clock clock' hg => ?_).bind fun _ _ => hwrite.frame.bind fun _ _ => .pure fun _ _ => id
    exact ⟨hg.1, hR g g' clock clock' g.logged g'.logged hg.2⟩
  · refine (hclock fun g g' clock clock' hg => ?_).bind fun _ _ => hwrite.bind fun _ _ => .fail hf fun _ _ => id
    exact hR g g' clock clock' g.logged g'.logged hg

namespace Run

variable {r : Run} {host h : Host} {d : Location}

/-! ## Directories that stay -/

/-- While copies are run the directories stay, and so do the links that lead to them. -/
def IsSteady (r : Run) (host h : Host) : Prop :=
  r.IsSpared (fun _ => False) host.now host.files h.files ∧ h.now = host.now

theorem IsSteady.change (hi : r.IsSteady host h) {files : Files}
    (hfiles : r.IsSpared (fun _ => False) host.now host.files files) : r.IsSteady host { h with files } :=
  ⟨hfiles, hi.2⟩

theorem quiet_isSteady : Quiet (r.IsSteady host) := by
  intro h h' hview hi
  simp only [view, Prod.mk.injEq] at hview
  exact ⟨hview.1 ▸ hi.1, hview.2.1.trans hi.2⟩

theorem IsSpared.of_leftover {day : Timestamp} {fs₁ fs fs' : Files}
    (hi : r.IsSpared (fun _ => False) day fs₁ fs) (hleft : Leftover fs fs') : r.IsSpared (fun _ => False) day fs₁ fs' := by
  obtain ⟨htree, honce, hhere, hpersists⟩ := hleft ⟨hi.isTree, hi.once⟩
  exact ⟨htree, honce, hi.grounds.of_extends hhere hpersists.extends, fun _ => False.elim, fun _ _ => id⟩

theorem measures_isSteady (hbeside : r.IsBeside (fun _ => False) host.now host.files) :
    r.Measures Leftover (r.IsSteady host) (r.IsSteady host) (fun _ _ => True) (fun _ => True) where
  quiet := quiet_isSteady
  quiet_last := quiet_isSteady
  quiet_path _ _ _ _ _ := trivial
  weaken _ := id
  lasting := lasting_leftover
  begins h _ := leftover_self h.files
  start h d h' hi hd := by
    have hview := hd.view_eq
    simp only [view, Prod.mk.injEq] at hview
    exact ⟨hview.1 ▸ hi.1.of_leftover hd.left, hview.2.1.trans hi.2⟩
  unread _ _ _ _ _ _ _ := Or.inr trivial
  announced _ _ _ _ _ _ _ _ _ := trivial
  remove h n files hi hremove := by
    obtain ⟨-, -, -, hfiles⟩ := hi.1.remove_binary hbeside hremove
    exact ⟨hi.change hfiles, fun _ => id⟩
  take h path metrics files hi _ htaken := hi.change (hi.1.take (fun _ _ => id) htaken)
  append h text hi := by
    rw [appendText, Leaves, ends_changeFiles]
    split
    · rename_i files hwrite
      exact .ok (hi.change (hi.1.of_leftover ((lasting_leftover h.files).write (leftover_self h.files) hwrite)))
    · exact .error ⟨hi, trivial⟩

/-! ## Copies that are run -/

section Measure

variable (hbeside : r.IsBeside (fun _ => False) host.now host.files)
  (hlog : host.files.locateLink (r.logPath host.now) = .ok d) (hd : d ∈ places)

/-- Twins, on the first one of which the directories have stayed. -/
def SteadyTwins (r : Run) (host : Host) (places : List Location) (n : Nat) (g g' : Host) : Prop :=
  TwinsFrom places n g g' ∧ r.IsSteady host g

/-- Actions that mirror each other while copies are run, as long as no child strays. -/
abbrev MirrorsSteady (r : Run) (host : Host) (places : List Location) (n : Nat) (S : α → β → Host → Host → Prop)
    (a : Action α) (a' : Action β) : Prop :=
  Mirrors (Strayed places n) (r.SteadyTwins host places n) (r.SteadyTwins host places n) S a a'

include hlog

/-- The log of events stays where it is. -/
theorem locate_log {fs : Files} (hgrounds : host.files.Grounds fs) (hplace : fs.IsPlace d) :
    fs.locate (r.logPath host.now) = .ok d := by
  have hname : "async-latency-" ++ host.now.dayText ++ ".jsonl" ≠ ".." := by
    intro heq
    have hlength := congrArg String.length heq
    simp only [String.length_append] at hlength
    have : "async-latency-".length = 14 := by decide
    have : "..".length = 2 := by decide
    omega
  have hown := hgrounds.locateLink_child hname hlog
  refine locate_eq_ok_iff.mpr ((locateLink_eq_ok_iff.mp hown).of_own fun target hlink => ?_)
  obtain ⟨_, _, heq⟩ := hplace _ hlink
  cases heq

include hd

/-- An event is added on both sides, where the log may differ. -/
theorem ends_append_both {R : Host → Host → Prop} {g g' : Host} (ht : r.SteadyTwins host places n g g') (hrefused : R g g')
    (hmade : ∀ {change change' files files'}, g.files.write (r.logPath host.now) change = .ok files →
      g'.files.write (r.logPath host.now) change' = .ok files' → files.Lacking places files' →
      R { g with files } { g' with files := files' }) (text text' : String) :
    Ends (appendText (r.log.file g.now.dayText) text) g fun result k =>
      Ends (appendText (r.log.file g'.now.dayText) text') g' fun result' k' =>
        Mirrored R (fun _ _ => R) result k result' k' := by
  have hnow : g'.now = g.now := congrArg (fun s => s.2.2.2.2) ht.1.1.2
  have hpath : r.log.file g.now.dayText = r.logPath host.now := by rw [ht.2.2, logPath]
  have hlocate := locate_log hlog ht.2.1.grounds (ht.1.1.1.place d hd)
  rw [hnow, hpath, appendText, appendText]
  refine ends_changeFiles_both _ _ (ht.1.1.1.write fun l hl hother => ?_) hrefused fun _ _ => hmade
  exact absurd (Except.ok.inj (hlocate.symm.trans hl) ▸ hd) hother

omit hlog hd in
/-- Both sides have written. -/
theorem SteadyTwins.write {g g' : Host} (ht : r.SteadyTwins host places n g g') {target : Path}
    {change : List UInt8 → List UInt8} {files files' : Files} (hwrite : g.files.write target change = .ok files)
    (hfiles : files.Lacking places files') : r.SteadyTwins host places n { g with files } { g' with files := files' } := by
  have hleft := (lasting_leftover g.files).write (leftover_self g.files) hwrite
  exact ⟨⟨ht.1.1.change hfiles, ht.1.2⟩, ht.2.change (ht.2.1.of_leftover hleft)⟩

/-- Work is logged on both sides. -/
theorem mirrors_timed [Nonempty α] {type : String} {data : EventFields} {work : Action α} {work' : Action β}
    {note : α → EventFields} {note' : β → EventFields} {V : α → β → Prop}
    (hwork : MirrorsSteady r host places n (fun x y g g' => V x y ∧ r.SteadyTwins host places n g g') work work') :
    MirrorsSteady r host places n (fun x y g g' => V x y ∧ r.SteadyTwins host places n g g')
      (r.log.timed type data work note) (r.log.timed type data work' note') := by
  refine RunLog.mirrors_timed (fun _ _ _ _ => id) (fun g g' clock clock' hg => ?_)
    (fun g g' clock clock' logged logged' hg => ?_) (fun g g' text text' hg => ?_) hwork
  · exact ⟨hg.1, hg.2⟩
  · exact ⟨hg.1, hg.2⟩
  · exact ends_append_both hlog hd hg hg (fun hwrite _ hfiles => hg.write hwrite hfiles) text text'

omit hlog hd

/-- What running a copy has come to on both sides: the same metrics have been recovered. -/
def RanAlike (found found' : FileRun × Recovered) : Prop :=
  FileRun.Akin found.1 found'.1 ∧ found.2.metrics = found'.2.metrics

theorem ranAlike_self (found : FileRun × Recovered) : RanAlike found found :=
  ⟨.same _, rfl⟩

/-- A copy is run on both sides, and what it announces is taken. -/
theorem mirrors_runAndRecover (r : Run) (path : Path) :
    MirrorsFrom places n (TwinsFrom places n) (fun found found' g g' => RanAlike found found' ∧ TwinsFrom places n g g')
      (do
        let outcome ← FileRun.run r.config path
        return (outcome, ← recover outcome.recover))
      (do
        let outcome ← FileRun.run r.config path
        return (outcome, ← recover outcome.recover)) := by
  refine (FileRun.mirrors_run r.config path).bind_related (fun outcome => ⟨outcome, .same outcome⟩) fun outcome outcome' hakin => ?_
  refine ⟨fun h' hb => hb, fun g g' hfound => ?_⟩
  obtain ⟨⟨⟨hfiles, hstock⟩, hn⟩, hpath⟩ := hfound
  obtain ⟨hmetrics, hleft⟩ := FileRun.recover_akin hakin hfiles hpath
  exact Or.inr (.ok ⟨⟨hakin, hmetrics⟩, ⟨hleft, hstock⟩, hn⟩)

include hbeside hlog hd

/-- A copy is run on both sides, and that is logged. -/
theorem mirrors_runLogged (path : Path) :
    MirrorsSteady r host places n (fun found found' g g' => RanAlike found found' ∧ r.SteadyTwins host places n g g')
      (r.runLogged path) (r.runLogged path) := by
  have hwork := (mirrors_runAndRecover (n := n) r path : MirrorsFrom places _ _ _ _ _).and_left fun h hi =>
    ((measures_isSteady hbeside).runAndRecover hi path).mono (fun _ _ => id) fun _ _ => And.left
  exact mirrors_timed hlog hd (hwork.mono (fun _ _ => id) fun _ _ _ _ hs => ⟨hs.1.1, hs.1.2, hs.2⟩)

omit hbeside hlog hd in
theorem mirrors_report (said said' : Report) :
    MirrorsSteady r host places n (fun _ _ => r.SteadyTwins host places n) (Action.report said) (Action.report said') :=
  .report (fun _ _ => id) (fun _ _ _ _ hg => ⟨hg.1, hg.2⟩) said said'

omit hbeside hlog hd in
/-- The same metrics are accepted on both sides. -/
theorem mirrors_accept {recovered recovered' : Recovered} (hmetrics : recovered.metrics = recovered'.metrics) :
    MirrorsSteady r host places n (fun _ _ => r.SteadyTwins host places n) (accept recovered) (accept recovered') := by
  refine Mirrors.bind (S := fun _ _ => r.SteadyTwins host places n) (.modify (fun _ => id) fun g g' hg => ?_)
    fun _ _ => mirrors_report _ _
  obtain ⟨⟨⟨hfiles, hstock⟩, hn⟩, hsteady⟩ := hg
  simp only [stock, Prod.mk.injEq] at hstock
  obtain ⟨hnamed, hupcoming, hsearch, hgathered, hnow⟩ := hstock
  refine ⟨⟨⟨hfiles, ?_⟩, hn⟩, hsteady⟩
  simp only [stock, hnamed, hupcoming, hsearch, hgathered, hnow, hmetrics]

theorem mirrors_measure (result : Instrumented) :
    MirrorsSteady r host places n (fun _ _ => r.SteadyTwins host places n) (r.measure result) (r.measure result) := by
  refine (mirrors_report _ _).bind fun _ _ => (mirrors_runLogged hbeside hlog hd _).bind_related
    (fun found => ⟨found, ranAlike_self found⟩) ?_
  rintro ⟨outcome, recovered⟩ ⟨outcome', recovered'⟩ ⟨hakin, hmetrics⟩
  cases hakin with
  | failed message message' => exact mirrors_report _ _
  | same outcome =>
    cases outcome with
    | failed message => exact mirrors_report _ _
    | announced _ _ | printed _ =>
      dsimp only
      split
      · exact (mirrors_report _ _).bind fun _ _ => mirrors_accept hmetrics
      · exact mirrors_accept hmetrics

/-- Copies are run on both sides, one after the other. -/
theorem mirrors_measureAll (entries : List Instrumented) :
    MirrorsSteady r host places n (fun _ _ => r.SteadyTwins host places n) (r.measureAll entries) (r.measureAll entries) := by
  induction entries with
  | nil => exact .pure fun _ _ => id
  | cons result rest ih => exact (mirrors_measure hbeside hlog hd result).bind fun _ _ => ih

end Measure

end Run

end Stopwatch

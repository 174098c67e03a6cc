/-
  Throttled progress.

  The clock is read when a stream is opened and whenever a line of output comes in that is no
  diagnostic.  Such a line is told as progress exactly if more than the interval has passed since the
  last one was told, or since the stream was opened.  So any two lines that are told one after the other
  lie further apart than the interval, in whatever pieces the output comes and whatever the clock shows.
-/
import Stopwatch.Proofs.Process.Supervised

namespace Stopwatch

/-! ## Readings -/

namespace Clock

/-- What a clock shows when it is read again and again. -/
def shows : Nat → Clock → List Float
  | 0, _ => []
  | n + 1, c => c.read.1 :: shows n c.read.2

/-- A clock that has been read again and again. -/
def after : Nat → Clock → Clock
  | 0, c => c
  | n + 1, c => after n c.read.2

theorem shows_add (m n : Nat) (c : Clock) : c.shows (m + n) = c.shows m ++ (c.after m).shows n := by
  induction m generalizing c with
  | zero => rw [Nat.zero_add]; rfl
  | succ m ih => rw [Nat.succ_add, shows, ih]; rfl

theorem after_add (m n : Nat) (c : Clock) : c.after (m + n) = (c.after m).after n := by
  induction m generalizing c with
  | zero => rw [Nat.zero_add]; rfl
  | succ m ih => rw [Nat.succ_add, after, ih]; rfl

end Clock

/-- The readings of a clock that were taken for one of the streams. -/
def readingsOn (channel : Channel) (trace : List (Channel × Float)) : List Float :=
  (trace.filter fun reading => reading.1 = channel).map Prod.snd

theorem readingsOn_append (channel : Channel) (trace trace' : List (Channel × Float)) :
    readingsOn channel (trace ++ trace') = readingsOn channel trace ++ readingsOn channel trace' := by
  rw [readingsOn, List.filter_append, List.map_append]
  rfl

/-! ## Looks -/

/-- A line of output that is no diagnostic, what the clock showed when it came in, and whether it was told
as progress. -/
structure Look where
  line : String
  time : Float
  told : Bool

/-- What is told of a line as progress. -/
def shown (line : String) : String :=
  String.ofList (line.toList.take Watch.progressLength)

/-- The progress among notices. -/
def progress (notices : List Notice) : List String :=
  notices.filterMap fun
    | .progress text => some text
    | _ => none

/-- The lines that are no diagnostics. -/
def plain (lines : List String) : List String :=
  lines.filter fun line => !isDiagnostic line

/-- When the last of some looks was told, or a time before them if none was. -/
def lastTold (t : Float) (looks : List Look) : Float :=
  ((looks.filter (·.told)).map (·.time)).getLastD t

/-- A look is told exactly if the interval has passed since the last one was, or since a time before all. -/
def IsPaced (interval t : Float) (looks : List Look) : Prop :=
  ∀ front look back, looks = front ++ look :: back →
    (look.told = true ↔ look.time - lastTold t front > interval)

variable {interval t : Float} {looks looks' : List Look}

theorem progress_append (notices notices' : List Notice) :
    progress (notices ++ notices') = progress notices ++ progress notices' :=
  List.filterMap_append

theorem plain_append (lines lines' : List String) : plain (lines ++ lines') = plain lines ++ plain lines' :=
  List.filter_append ..

theorem plain_singleton (line : String) : plain [line] = if isDiagnostic line then [] else [line] := by
  cases h : isDiagnostic line <;> simp [plain, h]

theorem lastTold_append (t : Float) (looks looks' : List Look) :
    lastTold t (looks ++ looks') = lastTold (lastTold t looks) looks' := by
  simp only [lastTold, List.filter_append, List.map_append, List.getLastD_eq_getLast?, List.getLast?_append]
  cases ((looks'.filter (·.told)).map (·.time)).getLast? <;> rfl

theorem lastTold_singleton (t : Float) (look : Look) :
    lastTold t [look] = if look.told then look.time else t := by
  cases h : look.told <;> simp [lastTold, h]

theorem IsPaced.append (h : IsPaced interval t looks) (h' : IsPaced interval (lastTold t looks) looks') :
    IsPaced interval t (looks ++ looks') := by
  intro front look back heq
  -- the look is one of the later ones, or one of the earlier ones
  rcases List.append_eq_append_iff.mp heq with ⟨middle, rfl, hlooks'⟩ | ⟨middle, rfl, hback⟩
  · rw [lastTold_append]
    exact h' middle look back hlooks'
  · cases middle with
    | nil =>
      rw [List.append_nil] at h'
      exact h' [] look back hback.symm
    | cons first middle =>
      obtain ⟨rfl, rfl⟩ := List.cons.inj hback
      exact h front look middle rfl

/-- What is left of paced looks when the first one is taken away is paced from then on. -/
theorem IsPaced.tail {look : Look} (h : IsPaced interval t (look :: looks)) :
    IsPaced interval (lastTold t [look]) looks := by
  intro front look' back heq
  rw [← lastTold_append]
  exact h (look :: front) look' back (by rw [heq]; rfl)

/-- Any two looks that are told one after the other lie further apart than the interval. -/
theorem IsPaced.isChain (h : IsPaced interval t looks) :
    (t :: (looks.filter (·.told)).map (·.time)).IsChain fun t t' => t' - t > interval := by
  induction looks generalizing t with
  | nil => exact .singleton t
  | cons look looks ih =>
    have hrest := ih h.tail
    rw [lastTold_singleton] at hrest
    cases htold : look.told with
    | false =>
      rw [htold] at hrest
      simpa [htold] using hrest
    | true =>
      rw [htold] at hrest
      have hfirst := (h [] look looks rfl).mp htold
      simpa [htold] using ⟨hfirst, hrest⟩

namespace Watch

variable {rules : WatchRules} {w w' w'' : Watch} {trace trace' : List (Channel × Float)}

/-! ## What a watch looks at -/

/-- One watch follows from another one by readings of the clock, which for the output are those of looks at
its lines. -/
structure Looks (rules : WatchRules) (trace : List (Channel × Float)) (looks : List Look) (w w' : Watch) : Prop where
  shows : trace.map Prod.snd = w.clock.shows trace.length
  clock : w'.clock = w.clock.after trace.length
  output : readingsOn .output trace = looks.map (·.time)
  lines : plain w'.output.lines = plain w.output.lines ++ looks.map (·.line)
  notices : progress w'.notices = progress w.notices ++ (looks.filter (·.told)).map fun look => shown look.line
  lastProgress : w'.output.lastProgress = lastTold w.output.lastProgress looks
  paced : IsPaced rules.interval w.output.lastProgress looks

/-- Nothing is looked at. -/
theorem Looks.nil (hclock : w'.clock = w.clock) (hlines : plain w'.output.lines = plain w.output.lines)
    (hnotices : progress w'.notices = progress w.notices) (hlast : w'.output.lastProgress = w.output.lastProgress) :
    Looks rules [] [] w w' := by
  refine ⟨rfl, hclock, rfl, ?_, ?_, hlast, ?_⟩
  · rw [hlines, List.map_nil, List.append_nil]
  · rw [hnotices, List.filter_nil, List.map_nil, List.append_nil]
  · intro front look back heq
    cases front <;> cases heq

theorem Looks.refl (rules : WatchRules) (w : Watch) : Looks rules [] [] w w :=
  .nil rfl rfl rfl rfl

theorem Looks.trans (h : Looks rules trace looks w w') (h' : Looks rules trace' looks' w' w'') :
    Looks rules (trace ++ trace') (looks ++ looks') w w'' := by
  refine ⟨?_, ?_, ?_, ?_, ?_, ?_, ?_⟩
  · rw [List.map_append, h.shows, h'.shows, h.clock, List.length_append, Clock.shows_add]
  · rw [h'.clock, h.clock, List.length_append, Clock.after_add]
  · rw [readingsOn_append, h.output, h'.output, List.map_append]
  · rw [h'.lines, h.lines, List.map_append, List.append_assoc]
  · rw [h'.notices, h.notices, List.filter_append, List.map_append, List.append_assoc]
  · rw [h'.lastProgress, h.lastProgress, lastTold_append]
  · refine h.paced.append ?_
    rw [← h.lastProgress]
    exact h'.paced

/-- The bytes of an unfinished line are kept beside what is looked at. -/
theorem looks_changePending (w : Watch) (pending : List UInt8) (channel : Channel) :
    Looks rules [] [] w (w.changeDrain (fun d => { d with pending }) channel) := by
  cases channel <;> exact .nil rfl rfl rfl rfl

/-! ## Lines -/

/-- A line of the other stream, or a diagnostic, takes no reading. -/
theorem looks_keep {channel : Channel} {line : String} (h : channel = .errors ∨ isDiagnostic line = true) :
    Looks rules [] [] w (w.keep channel line) := by
  cases channel with
  | errors => exact .nil rfl rfl rfl rfl
  | output =>
    refine .nil rfl ?_ rfl rfl
    change plain (w.output.lines ++ [line]) = _
    rw [plain_append, plain_singleton, if_pos (h.resolve_left Channel.noConfusion), List.append_nil]

theorem looks_noticeDiagnostic (w : Watch) (line : String) : Looks rules [] [] w (w.noticeDiagnostic rules line) := by
  rw [noticeDiagnostic]
  split
  · split
    · exact .nil rfl rfl rfl rfl
    · refine .nil rfl rfl ?_ rfl
      rw [progress_append]
      exact List.append_nil _
  · exact .refl rules w

/-- One look at a line, told if the interval has passed. -/
theorem isPaced_singleton (interval t : Float) (line : String) (now : Float) :
    IsPaced interval t [⟨line, now, now - t > interval⟩] := by
  intro front look back heq
  cases front with
  | nil =>
    obtain ⟨rfl, -⟩ := List.cons.inj heq
    exact decide_eq_true_iff
  | cons first front => cases front <;> cases heq

/-- A line of output that is no diagnostic is looked at. -/
theorem looks_noticeProgress (hattentive : rules.listener.attentive = true) {line : String}
    (hplain : isDiagnostic line = false) (w : Watch) :
    Looks rules [(.output, w.clock.read.1)]
      [⟨line, w.clock.read.1, w.clock.read.1 - w.output.lastProgress > rules.interval⟩]
      w ((w.keep .output line).noticeProgress rules line) := by
  have hlines : plain (w.output.lines ++ [line]) = plain w.output.lines ++ [line] := by
    rw [plain_append, plain_singleton, hplain]
    rfl
  have hpaced := isPaced_singleton rules.interval w.output.lastProgress line w.clock.read.1
  -- keeping the line touches neither the clock nor the time of the last progress
  have hkept : (w.keep .output line).clock = w.clock ∧
      (w.keep .output line).output.lastProgress = w.output.lastProgress := ⟨rfl, rfl⟩
  simp only [noticeProgress, if_pos hattentive, hkept]
  by_cases hpassed : w.clock.read.1 - w.output.lastProgress > rules.interval
  · rw [if_pos hpassed]
    refine ⟨rfl, rfl, rfl, hlines, ?_, ?_, hpaced⟩
    · rw [progress_append, List.filter_singleton, decide_eq_true hpassed]
      rfl
    · rw [lastTold_singleton, if_pos (decide_eq_true hpassed)]
  · rw [if_neg hpassed]
    refine ⟨rfl, rfl, rfl, hlines, ?_, ?_, hpaced⟩
    · rw [List.filter_singleton, decide_eq_false hpassed]
      exact (List.append_nil _).symm
    · rw [lastTold_singleton, if_neg fun htold => hpassed (of_decide_eq_true htold)]
      rfl

section Events

variable (hattentive : rules.listener.attentive = true)

include hattentive

/-- A line that comes in is looked at if it is a line of output and no diagnostic. -/
theorem exists_looks_emit (channel : Channel) (w : Watch) (raw : List UInt8) :
    ∃ trace looks, Looks rules trace looks w (emit rules channel w raw) ∧ readingsOn .errors trace = [] ∧
      (channel = .errors → looks = []) := by
  rw [emit]
  split
  · exact ⟨[], [], .refl rules w, rfl, fun _ => rfl⟩
  · dsimp only
    cases hdiagnostic : isDiagnostic (lineText raw) with
    | true =>
      rw [if_pos rfl]
      exact ⟨[], [], (looks_keep (.inr hdiagnostic)).trans (looks_noticeDiagnostic _ _), rfl, fun _ => rfl⟩
    | false =>
      rw [if_neg Bool.false_ne_true]
      cases channel with
      | output => exact ⟨_, _, looks_noticeProgress hattentive hdiagnostic w, rfl, Channel.noConfusion⟩
      | errors => exact ⟨[], [], looks_keep (.inl rfl), rfl, fun _ => rfl⟩

theorem exists_looks_foldl_emit (channel : Channel) (raws : List (List UInt8)) (w : Watch) :
    ∃ trace looks, Looks rules trace looks w (raws.foldl (emit rules channel) w) ∧ readingsOn .errors trace = [] ∧
      (channel = .errors → looks = []) := by
  induction raws generalizing w with
  | nil => exact ⟨[], [], .refl rules w, rfl, fun _ => rfl⟩
  | cons raw raws ih =>
    obtain ⟨trace, looks, hfirst, hother, herrors⟩ := exists_looks_emit hattentive channel w raw
    obtain ⟨trace', looks', hrest, hother', herrors'⟩ := ih (emit rules channel w raw)
    refine ⟨_, _, hfirst.trans hrest, ?_, fun hchannel => ?_⟩
    · rw [readingsOn_append, hother, hother', List.append_nil]
    · rw [herrors hchannel, herrors' hchannel, List.append_nil]

/-- An event is looked at in the lines of output that it finishes, unless it opens the output; for the other
stream the clock is read when it is opened. -/
theorem exists_looks_see {e : StreamEvent} (he : e ≠ .opened .output) (w : Watch) :
    ∃ trace looks, Looks rules trace looks w (see rules w e) ∧
      (readingsOn .errors trace).length = [e].count (.opened .errors) ∧ (e.channel = .errors → looks = []) := by
  cases e with
  | opened channel =>
    cases channel with
    | output => exact absurd rfl he
    | errors =>
      refine ⟨[(.errors, w.clock.read.1)], [], ⟨rfl, rfl, rfl, ?_, ?_, rfl, ?_⟩, rfl, fun _ => rfl⟩
      · exact (List.append_nil _).symm
      · exact (List.append_nil _).symm
      · intro front look back heq
        cases front <;> cases heq
  | arrived channel data =>
    obtain ⟨trace, looks, hlooks, hother, herrors⟩ :=
      exists_looks_foldl_emit hattentive channel (cutLines ((w.drain channel).pending ++ data)).1 w
    refine ⟨trace ++ [], looks ++ [], hlooks.trans (looks_changePending _ _ channel), ?_, fun hchannel => ?_⟩
    · rw [List.append_nil, hother]
      rfl
    · rw [herrors hchannel, List.append_nil]
  | ended channel =>
    rw [see]
    split
    · exact ⟨[], [], .refl rules w, rfl, fun _ => rfl⟩
    · obtain ⟨trace, looks, hlooks, hother, herrors⟩ :=
        exists_looks_emit hattentive channel w (w.drain channel).pending
      refine ⟨trace ++ [], looks ++ [], hlooks.trans (looks_changePending _ _ channel), ?_, fun hchannel => ?_⟩
      · rw [List.append_nil, hother]
        rfl
      · rw [herrors hchannel, List.append_nil]
  | broke channel text =>
    refine ⟨[], [], ?_, rfl, fun _ => rfl⟩
    rw [see]
    split
    · exact .refl rules w
    · exact .nil rfl rfl rfl rfl

/-- Events that do not open the output are looked at in the lines of output that they finish. -/
theorem exists_looks_run {events : List StreamEvent} (hevents : .opened .output ∉ events) (w : Watch) :
    ∃ trace looks, Looks rules trace looks w (w.run rules events) ∧
      (readingsOn .errors trace).length = events.count (.opened .errors) ∧
      ((∀ e ∈ events, e.channel = .errors) → looks = []) := by
  induction events generalizing w with
  | nil => exact ⟨[], [], .refl rules w, rfl, fun _ => rfl⟩
  | cons e events ih =>
    -- opening the output would set the time of the last progress, hence the hypothesis
    obtain ⟨he, hrest⟩ := not_or.mp (mt List.mem_cons.mpr hevents)
    obtain ⟨trace, looks, hfirst, hother, herrors⟩ := exists_looks_see hattentive (Ne.symm he) w
    obtain ⟨trace', looks', hothers, hother', herrors'⟩ := ih hrest (see rules w e)
    refine ⟨_, _, hfirst.trans hothers, ?_, fun hchannels => ?_⟩
    · rw [readingsOn_append, List.length_append, hother, hother', ← List.count_append]
      rfl
    · obtain ⟨hchannel, hchannels⟩ := List.forall_mem_cons.mp hchannels
      rw [herrors hchannel, herrors' hchannels, List.append_nil]

end Events

end Watch

/-! ## Whole runs -/

/-- A stream is opened before anything arrives. -/
theorem opened_not_mem_arrivals (channel channel' : Channel) (chunks : List Chunk) :
    .opened channel' ∉ Supervisor.eventsOf.arrivals channel chunks := by
  induction chunks with
  | nil => exact fun h => nomatch List.mem_singleton.mp h
  | cons chunk chunks ih =>
    intro h
    cases chunk with
    | bytes data =>
      rcases List.mem_cons.mp h with heq | h
      · cases heq
      · exact ih h
    | failure text => cases List.mem_singleton.mp h

/-- The output is opened once: before that only the other stream has events. -/
theorem Child.Interleaves.exists_opened {c : Child} {chunks : List Chunk} {events : List StreamEvent}
    (hmixed : c.Interleaves events) (hstream : c.output = some chunks) :
    ∃ before behind, events = before ++ .opened .output :: behind ∧ (∀ e ∈ before, e.channel = .errors) ∧
      .opened .output ∉ behind := by
  have houtput := hmixed .output
  rw [show c.stream .output = some chunks from hstream] at houtput
  obtain ⟨before, behind, rfl, hbefore, -, hbehind⟩ := List.filter_eq_cons_iff.mp houtput
  refine ⟨before, behind, rfl, fun e he => ?_, fun hmem => ?_⟩
  · have hother := hbefore e he
    cases hchannel : e.channel with
    | output => simp [hchannel] at hother
    | errors => rfl
  · have hkept : .opened .output ∈ behind.filter fun e => e.channel = .output :=
      List.mem_filter.mpr ⟨hmem, decide_eq_true rfl⟩
    rw [hbehind] at hkept
    exact opened_not_mem_arrivals .output .output chunks hkept

/-- The progress of a watched output is throttled: `t₀` is what the clock showed when the output was opened,
`looks` are the lines of output that are no diagnostics, and `trace` has all readings of the clock. -/
structure Throttles (interval : Float) (clock : Clock) (events : List StreamEvent) (w : Watch) (t₀ : Float)
    (looks : List Look) (trace : List (Channel × Float)) : Prop where
  readings : trace.map Prod.snd = clock.shows trace.length
  output : readingsOn .output trace = t₀ :: looks.map (·.time)
  errors : (readingsOn .errors trace).length = events.count (.opened .errors)
  lines : looks.map (·.line) = plain w.output.lines
  notices : progress w.notices = (looks.filter (·.told)).map fun look => shown look.line
  apart : (t₀ :: (looks.filter (·.told)).map (·.time)).IsChain fun t t' => t' - t > interval
  prompt : ∀ front look back, looks = front ++ look :: back → look.time - lastTold t₀ front > interval →
    look.told = true

namespace Supervisor

/-- Progress is throttled, however the output of a child comes in pieces, however it is mixed with the other
stream, and whatever the clock shows.  The clock is read when a stream is opened, and once for each line of
output that is no diagnostic; these lines alone are told as progress.  Beginning with the opening of the output,
the lines that are told lie further apart than the interval, and a line that comes later than that after the last
one that was told is told as well. -/
theorem throttled_watched {s : Supervisor} {c : Child} {chunks : List Chunk} {events : List StreamEvent}
    (hstream : c.output = some chunks) (hmixed : c.Interleaves events) (hattentive : s.listener.attentive = true)
    (clock : Clock) :
    ∃ t₀ looks trace, Throttles s.progressInterval clock events (s.watched clock events) t₀ looks trace := by
  set w := s.watched clock events
  obtain ⟨before, behind, rfl, hbefore, hbehind⟩ := hmixed.exists_opened hstream
  set rules : WatchRules := ⟨s.listener, s.progressInterval⟩
  have hlistens : rules.listener.attentive = true := hattentive
  -- before the output is opened, nothing is looked at
  have hunopened : .opened .output ∉ before := fun hmem => nomatch hbefore _ hmem
  obtain ⟨trace₁, looks₁, hlooks₁, hother₁, hnone⟩ :=
    Watch.exists_looks_run hlistens hunopened (Watch.start clock)
  obtain rfl := hnone hbefore
  set w₁ := (Watch.start clock).run rules before
  -- from then on the reading of the opening is what the first look is compared with
  set w₂ := Watch.see rules w₁ (.opened .output)
  obtain ⟨trace₂, looks, hlooks₂, hother₂, -⟩ := Watch.exists_looks_run hlistens hbehind w₂
  have hw : w = w₂.run rules behind := List.foldl_append ..
  rw [← hw] at hlooks₂
  have hclock₂ : w₂.clock = (clock.after trace₁.length).read.2 := congrArg (fun c => c.read.2) hlooks₁.clock
  have hpaced : IsPaced s.progressInterval w₁.clock.read.1 looks := hlooks₂.paced
  refine ⟨w₁.clock.read.1, looks, trace₁ ++ (.output, w₁.clock.read.1) :: trace₂, ?_, ?_, ?_, ?_, ?_, hpaced.isChain,
    fun front look back heq => (hpaced front look back heq).mpr⟩
  · rw [List.map_append, List.map_cons, hlooks₁.shows, hlooks₂.shows, List.length_append, List.length_cons,
      Clock.shows_add, Clock.shows, hclock₂, hlooks₁.clock]
    rfl
  · rw [readingsOn_append, hlooks₁.output, ← hlooks₂.output]
    rfl
  · rw [readingsOn_append, List.length_append, hother₁, List.count_append, List.count_cons_of_ne (by decide),
      ← hother₂]
    rfl
  · have hlines := hlooks₂.lines
    rw [show plain w₂.output.lines = plain w₁.output.lines from rfl, hlooks₁.lines] at hlines
    exact hlines.symm
  · have hnotices := hlooks₂.notices
    rw [show progress w₂.notices = progress w₁.notices from rfl, hlooks₁.notices] at hnotices
    exact hnotices

/-- The same on a child whose second line comes long after its output was opened. -/
theorem throttled_watched_torn :
    let s := patientSupervisor
    let clock : Clock := ⟨[0.0, 1.0, 6.0, 6.5]⟩
    let events := tornEvents tornChild
    tornChild.output = some [.bytes [0xC3], .bytes [0xA9, 13], .bytes [10, 98]] ∧ tornChild.Interleaves events ∧
      s.listener.attentive = true ∧ progress (s.watched clock events).notices = ["b"] ∧
      ∃ t₀ looks trace, Throttles s.progressInterval clock events (s.watched clock events) t₀ looks trace :=
  ⟨rfl, interleaves_tornEvents, rfl, by decide +kernel,
    throttled_watched (s := patientSupervisor) rfl interleaves_tornEvents rfl _⟩

end Supervisor

end Stopwatch

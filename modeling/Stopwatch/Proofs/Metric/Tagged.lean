/-
  What is recovered from tagged lines.

  A collector that cannot write its file prints a notice and a tagged line for each of its
  entries.  Neither the output in front of the notice nor the notice itself is taken for an
  announcement or for a tagged line, and each line is read as the call that it was printed
  for, with its time rounded to six places.

  The name of a call is part of its line.  A name that holds the mark of an announcement makes
  the line announce a path, and if there is a file of records under this path, it counts.
-/
import Stopwatch.Proofs.Number.Fixed
import Stopwatch.Proofs.Program

namespace Stopwatch

/-! ## Tagged lines -/

/-- The tag ends in a character that stands nowhere else in it. -/
theorem latencyTag_toList :
    ∃ body, latencyTag.toList = body ++ [']'] ∧ ']' ∉ body ∧ ∀ c ∈ latencyTag.toList, Text.isLineBoundary c = false :=
  have hline : (latencyTag.toList.all fun c => !Text.isLineBoundary c) = true := by decide
  ⟨"[Latency".toList, by decide, by decide, by simpa using hline⟩

/-- The mark of an announcement, without the sign that ends it. -/
def announcementMark : String := "__ASYNC_PROFILER_METRICS__"

theorem announcementMark_starts : announcementMark.toList <+: announcement.toList := by
  decide

theorem latencySeparator_toList : latencySeparator.toList = [':'] ++ [' '] := by
  decide

namespace CollectedEntry

/-- An entry that can be told from its tagged line: the name fits on one line and ends where the time
starts, and the time is a finite one. -/
structure IsLegible (e : CollectedEntry) : Prop where
  named : e.function ≠ ""
  oneLine : ∀ c ∈ e.function.toList, Text.isLineBoundary c = false
  noSeparator : Text.contains e.function latencySeparator = false
  stripped : Text.strip e.function.toList = e.function.toList
  finite : e.duration.toFloat.isFinite = true
  nonneg : 0.0 ≤ e.duration.toFloat

/-- The metric of an entry with the time that its tagged line tells. -/
def roundedMetric (e : CollectedEntry) : Metric :=
  Metric.ofCall e.function (Number.roundTo 6 e.duration.toFloat)

/-- The time of an entry as its tagged line tells it. -/
def timeText (e : CollectedEntry) : List Char :=
  (Number.formatFixed 6 e.duration.toFloat).toList ++ ['s']

/-- The tagged line of an entry without its end. -/
def printedLine (e : CollectedEntry) : List Char :=
  latencyTag.toList ++ (' ' :: e.function.toList ++ (latencySeparator.toList ++ e.timeText))

/-- The path that is announced first in the tagged lines of some entries. -/
def announcedAmong? (entries : List CollectedEntry) : Option String :=
  entries.findSome? fun e => announcedPath? e.taggedLine

variable {e : CollectedEntry}

theorem toList_taggedLine (e : CollectedEntry) : e.taggedLine.toList = e.printedLine ++ ['\n'] := by
  have hend : "s\n".toList = ['s', '\n'] := rfl
  have hspace : " ".toList = [' '] := rfl
  simp [taggedLine, printedLine, timeText, String.toList_append, hend, hspace]

theorem IsLegible.of_mem_timeText (h : e.IsLegible) {c : Char} (hc : c ∈ e.timeText) :
    Text.isBlank c = false ∧ Text.isLineBoundary c = false ∧ c ≠ '_' := by
  rcases List.mem_append.mp hc with hc | hc
  · have hnumber := Number.mem_numberChars_of_mem_formatFixed (by decide) h.finite hc
    obtain ⟨hblank, hboundary, -, hscore⟩ := Number.of_mem_numberChars hnumber
    exact ⟨hblank, hboundary, hscore⟩
  · rw [List.mem_singleton.mp hc]
    decide

/-- The time is read back, rounded. -/
theorem IsLegible.seconds_timeText (h : e.IsLegible) :
    seconds? e.timeText = some (Number.roundTo 6 e.duration.toFloat) := by
  obtain ⟨hfinite, hnonneg⟩ := Number.roundTo_of_nonneg h.finite h.nonneg 6
  have hread := Number.ofText_formatFixed (show 0 < 6 by decide) h.finite
  have hreverse : e.timeText.reverse = 's' :: (Number.formatFixed 6 e.duration.toFloat).toList.reverse := by
    simp [timeText]
  rw [seconds?, hreverse]
  simp only [List.reverse_reverse, hread]
  simp [hfinite, hnonneg]

/-- The tag and the separator are found where the line has them. -/
theorem IsLegible.cut_printedLine (h : e.IsLegible) :
    Text.cut? latencyTag.toList e.printedLine =
        some ([], ' ' :: e.function.toList ++ (latencySeparator.toList ++ e.timeText)) ∧
      Text.cut? latencySeparator.toList (' ' :: e.function.toList ++ (latencySeparator.toList ++ e.timeText)) =
        some (' ' :: e.function.toList, e.timeText) := by
  obtain ⟨body, htag, hlast, -⟩ := latencyTag_toList
  -- the blank behind the tag does not end a separator
  have hname : ¬([':'] ++ [' ']) <:+: ' ' :: e.function.toList := by
    have hfunction := Text.occursIn_eq_false.mp h.noSeparator
    rw [latencySeparator_toList] at hfunction
    rw [List.infix_cons_iff, not_or]
    exact ⟨by simp, hfunction⟩
  constructor
  · have hfront : ¬(body ++ [']']) <:+: [] := by simp
    rw [printedLine, htag]
    exact Text.cut_append hlast hfront _
  · rw [latencySeparator_toList]
    exact Text.cut_append (by decide) hname _

/-- The line of an entry is read as its call. -/
theorem IsLegible.metricIn_printedLine (h : e.IsLegible) : metricIn? e.printedLine = some e.roundedMetric := by
  obtain ⟨htag, hseparator⟩ := h.cut_printedLine
  have hname : Text.strip (' ' :: e.function.toList) = e.function.toList := by
    rw [Text.strip_cons (by decide), h.stripped]
  have hne : e.function.toList ≠ [] := fun hnil => h.named (String.toList_eq_nil_iff.mp hnil)
  have htime : Text.strip e.timeText = e.timeText := Text.strip_eq_self fun c hc => (h.of_mem_timeText hc).1
  simp only [metricIn?, htag, hseparator, hname, htime, h.seconds_timeText, Option.bind_eq_bind, Option.bind_some,
    if_neg hne, String.ofList_toList]
  rfl

/-- The line of an entry is one line. -/
theorem IsLegible.oneLine_printedLine (h : e.IsLegible) : ∀ c ∈ e.printedLine, Text.isLineBoundary c = false := by
  obtain ⟨-, -, -, htag⟩ := latencyTag_toList
  have hseparator : ∀ c ∈ latencySeparator.toList, Text.isLineBoundary c = false := by
    rw [latencySeparator_toList, List.forall_mem_append, List.forall_mem_singleton, List.forall_mem_singleton]
    exact ⟨rfl, rfl⟩
  simp only [printedLine, List.forall_mem_append, List.forall_mem_cons]
  exact ⟨htag, ⟨rfl, h.oneLine⟩, hseparator, fun c hc => (h.of_mem_timeText hc).2.1⟩

/-- The lines of some entries, in their order. -/
theorem splitLines_join {entries : List CollectedEntry} (h : ∀ e ∈ entries, e.IsLegible) :
    Text.splitLines (String.join (entries.map taggedLine)).toList = entries.map printedLine := by
  induction entries with
  | nil => rfl
  | cons e entries ih =>
    rw [List.forall_mem_cons] at h
    rw [List.map_cons, String.join_cons, String.toList_append, toList_taggedLine, List.append_assoc,
      List.singleton_append, Text.splitLines_line h.1.oneLine_printedLine, ih h.2, List.map_cons]

/-- The lines of some entries give one metric an entry. -/
theorem taggedMetrics_join {entries : List CollectedEntry} (h : ∀ e ∈ entries, e.IsLegible) :
    taggedMetrics (String.join (entries.map taggedLine)) = entries.map roundedMetric := by
  rw [taggedMetrics, splitLines_join h, List.filterMap_map, ← List.filterMap_eq_map]
  exact List.filterMap_congr fun e he => (h e he).metricIn_printedLine

theorem IsLegible.announcedPath_taggedLine (h : e.IsLegible) :
    announcedPath? e.taggedLine = announcedIn? e.printedLine := by
  rw [announcedPath?, toList_taggedLine, Text.splitLines_line h.oneLine_printedLine, List.findSome?_cons]
  cases announcedIn? e.printedLine <;> rfl

/-- Of the lines of some entries, the first one that announces a path counts. -/
theorem announcedPath_join {entries : List CollectedEntry} (h : ∀ e ∈ entries, e.IsLegible) :
    announcedPath? (String.join (entries.map taggedLine)) = announcedAmong? entries := by
  rw [announcedPath?, splitLines_join h, announcedAmong?]
  induction entries with
  | nil => rfl
  | cons e entries ih =>
    rw [List.forall_mem_cons] at h
    rw [List.map_cons, List.findSome?_cons, List.findSome?_cons, h.1.announcedPath_taggedLine, ih h.2]

/-- The line of an entry announces nothing, unless the name holds the mark of an announcement. -/
theorem IsLegible.announcedPath_eq_none (h : e.IsLegible) (hmark : Text.contains e.function announcementMark = false) :
    announcedPath? e.taggedLine = none := by
  have hname : ¬announcementMark.toList <:+: e.function.toList := Text.occursIn_eq_false.mp hmark
  -- no sign of the mark stands behind the name
  have hend : ¬announcementMark.toList <:+: ' ' :: e.timeText := by
    intro hin
    have hscore : '_' ∈ ' ' :: e.timeText := hin.subset (by decide)
    rcases List.mem_cons.mp hscore with hspace | htime
    · exact absurd hspace (by decide)
    · exact (h.of_mem_timeText htime).2.2 rfl
  have hline : ¬announcementMark.toList <:+: e.printedLine := by
    have htext : e.printedLine = latencyTag.toList ++ ' ' :: (e.function.toList ++ ':' :: ' ' :: e.timeText) := by
      rw [printedLine, latencySeparator_toList]
      simp
    have hcolon : ':' ∉ announcementMark.toList := by decide
    have hspace : ' ' ∉ announcementMark.toList := by decide
    have htag : ¬announcementMark.toList <:+: latencyTag.toList := by decide
    rw [htext]
    exact Text.not_infix_append_cons hspace htag (Text.not_infix_append_cons hcolon hname hend)
  rw [h.announcedPath_taggedLine]
  exact announcedIn_eq_none fun hin => hline (announcementMark_starts.isInfix.trans hin)

end CollectedEntry

/-! ## Notices -/

/-- A text in which neither an announcement nor a tag stands. -/
structure IsSilent (text : String) : Prop where
  unannounced : Text.contains text announcement = false
  untagged : Text.contains text latencyTag = false

/-- What is printed in front of tagged lines, without the end of the line. -/
def noticeText (message : String) : String :=
  "Failed to write metrics: " ++ message

theorem failureText_eq (path : String) (fault : SystemFault) (entries : List CollectedEntry) :
    Collector.failureText path fault entries =
      noticeText (SystemError.refused fault path).message ++ "\n" ++
        String.join (entries.map CollectedEntry.taggedLine) :=
  rfl

theorem toList_noticeText (message : String) : (noticeText message).toList =
    "Failed to write".toList ++ ' ' :: ("metrics:".toList ++ ' ' :: message.toList) := by
  have hstart : "Failed to write metrics: ".toList =
      "Failed to write".toList ++ ' ' :: ("metrics:".toList ++ [' ']) := by
    decide +kernel
  unfold noticeText
  rw [String.toList_append, hstart, List.append_assoc, List.cons_append, List.append_assoc, List.singleton_append]

/-- No mark comes about where an output and the text of an error meet the words of a notice. -/
theorem contains_notice {mark printed message : String} {body : List Char} {last : Char}
    (hmark : mark.toList = body ++ [last]) (hlast : last ∉ "Failed to write".toList) (hspace : ' ' ∉ mark.toList)
    (hwords : ¬mark.toList <:+: "metrics:".toList) (hprinted : Text.contains printed mark = false)
    (hmessage : Text.contains message mark = false) :
    Text.contains (printed ++ noticeText message) mark = false := by
  have hprinted := Text.occursIn_eq_false.mp hprinted
  have hmessage := Text.occursIn_eq_false.mp hmessage
  refine Text.occursIn_eq_false.mpr ?_
  rw [String.toList_append, toList_noticeText, ← List.append_assoc]
  -- a mark has no blanks, and none ends in front of the first blank of the notice
  have hfront : ¬mark.toList <:+: printed.toList ++ "Failed to write".toList := by
    rw [hmark] at hprinted ⊢
    exact Text.not_infix_append hlast hprinted
  exact Text.not_infix_append_cons hspace hfront (Text.not_infix_append_cons hspace hwords hmessage)

/-- An output with a notice is as silent as the output and the text of the error are. -/
theorem IsSilent.notice {printed message : String} (hprinted : IsSilent printed) (hmessage : IsSilent message) :
    IsSilent (printed ++ noticeText message) := by
  obtain ⟨body, hannouncement, -⟩ := announcement_toList
  obtain ⟨body', htag, -⟩ := latencyTag_toList
  constructor
  · exact contains_notice hannouncement (by decide) (by decide) (by decide) hprinted.unannounced hmessage.unannounced
  · exact contains_notice htag (by decide) (by decide) (by decide) hprinted.untagged hmessage.untagged

/-! ## Recovery -/

/-- Behind a silent output, what is printed instead of a file comes to the tagged lines alone. -/
theorem IsSilent.append_failureText {printed path : String} {fault : SystemFault} {entries : List CollectedEntry}
    (hprinted : IsSilent printed) (hmessage : IsSilent (SystemError.refused fault path).message)
    (hentries : ∀ e ∈ entries, e.IsLegible) :
    announcedPath? (printed ++ Collector.failureText path fault entries) = CollectedEntry.announcedAmong? entries ∧
      taggedMetrics (printed ++ Collector.failureText path fault entries) =
        entries.map CollectedEntry.roundedMetric := by
  have hnotice := hprinted.notice hmessage
  have hannouncement := Text.occursIn_eq_false.mp hnotice.unannounced
  have htag := Text.occursIn_eq_false.mp hnotice.untagged
  have htext : printed ++ Collector.failureText path fault entries =
      printed ++ noticeText (SystemError.refused fault path).message ++ "\n" ++
        String.join (entries.map CollectedEntry.taggedLine) := by
    simp only [failureText_eq, String.append_assoc]
  rw [htext, announcedPath_append_newline, announcedPath_eq_none hannouncement, Option.none_or,
    taggedMetrics_append_newline, taggedMetrics_eq_nil htag, List.nil_append]
  exact ⟨CollectedEntry.announcedPath_join hentries, CollectedEntry.taggedMetrics_join hentries⟩

/-- A collector that cannot write its file prints lines from which every call is recovered, in the order of
the calls, with its name, its depth and its time rounded to six places; the names and the depths are those
of the metrics that the file would have given.  The output in front of them may be anything without
announcements and tags.  Only if the line of a name announces a path, and if there is a file of records
under the first such path, do the metrics of this file count instead; a name without the mark of an
announcement announces nothing. -/
theorem recover_unwritten {fs fs' : Files} {path printed : String} {fault : SystemFault}
    {entries : List CollectedEntry} (hentries : ∀ e ∈ entries, e.IsLegible)
    (hwrite : Collector.writeFile fs path (Collector.fileText entries) = .error fault)
    (hprinted : IsSilent printed) (hmessage : IsSilent (SystemError.refused fault path).message) :
    let flush := (entries.foldl Collector.record (Collector.ofPath path)).flush fs
    let found := fs'.recover (printed ++ flush.printed)
    let taken := (CollectedEntry.announcedAmong? entries).bind fs'.takeMetrics?
    (taken = none → found = ⟨entries.map CollectedEntry.roundedMetric, false, fs'⟩) ∧
      (∀ metrics files, taken = some (metrics, files) → found = ⟨metrics, true, files⟩) ∧
      ((∀ e ∈ entries, Text.contains e.function announcementMark = false) → taken = none) ∧
      (entries.map CollectedEntry.roundedMetric).map (fun m => (m.name, m.depth)) =
        (entries.map CollectedEntry.metric).map fun m => (m.name, m.depth) := by
  intro flush found taken
  have hflush : flush.printed = Collector.failureText path fault entries := by
    show ((entries.foldl Collector.record (Collector.ofPath path)).flush fs).printed = _
    rw [Collector.foldl_record, Collector.flush_of_not_flushed rfl]
    simp only [Collector.ofPath, List.nil_append, hwrite]
  obtain ⟨hpath, hmetrics⟩ := hprinted.append_failureText hmessage hentries
  have hfound : found = fs'.recoverFrom (CollectedEntry.announcedAmong? entries)
      (printed ++ Collector.failureText path fault entries) := by
    show fs'.recover (printed ++ flush.printed) = _
    rw [hflush, Files.recover, hpath]
  refine ⟨fun hnone => ?_, fun metrics files hsome => ?_, fun hplain => ?_, ?_⟩
  · rw [hfound, Files.recoverFrom]
    simp only [show (CollectedEntry.announcedAmong? entries).bind fs'.takeMetrics? = none from hnone, hmetrics]
  · rw [hfound, Files.recoverFrom]
    simp only [show (CollectedEntry.announcedAmong? entries).bind fs'.takeMetrics? = _ from hsome]
  · have hpaths : CollectedEntry.announcedAmong? entries = none :=
      List.findSome?_eq_none_iff.mpr fun e he => (hentries e he).announcedPath_eq_none (hplain e he)
    show (CollectedEntry.announcedAmong? entries).bind fs'.takeMetrics? = none
    rw [hpaths, Option.bind_none]
  · rw [List.map_map, List.map_map]
    rfl

/-- A call of the entry point is recovered from its line behind an output without an end. -/
theorem recover_unwritten_main :
    let e : CollectedEntry := ⟨"main", .float 0.1234567, .float 12.25, 3, "main.py", 1⟩
    let flush := ([e].foldl Collector.record (Collector.ofPath "gone/m.json")).flush ⟨[], []⟩
    (Files.mk [] []).recover ("unfinished" ++ flush.printed) =
      ⟨[Metric.ofCall "main" 0.123457], false, ⟨[], []⟩⟩ := by
  intro e
  have hall : (e.function.toList.all fun c => !Text.isLineBoundary c) = true := by decide +kernel
  have hlegible : ∀ e' ∈ [e], e'.IsLegible := by
    refine List.forall_mem_singleton.mpr ⟨?_, by simpa using hall, ?_, ?_, ?_, ?_⟩ <;> decide +kernel
  have hwrite : Collector.writeFile ⟨[], []⟩ "gone/m.json" (Collector.fileText [e]) = .error .missing := by
    rfl
  have hprinted : IsSilent "unfinished" := ⟨by decide +kernel, by decide +kernel⟩
  have hmessage : IsSilent (SystemError.refused .missing "gone/m.json").message :=
    ⟨by decide +kernel, by decide +kernel⟩
  obtain ⟨hlines, -, hplain, -⟩ := @recover_unwritten ⟨[], []⟩ ⟨[], []⟩ _ _ _ _ hlegible hwrite hprinted hmessage
  have hround : e.roundedMetric = Metric.ofCall "main" 0.123457 := by
    have htime : Number.roundTo 6 0.1234567 = 0.123457 := by decide +kernel
    exact congrArg (Metric.ofCall "main") htime
  -- the name does not hold the mark, so the line counts
  have hnone := hplain (List.forall_mem_singleton.mpr (by decide +kernel))
  refine (hlines hnone).trans ?_
  rw [List.map_singleton, hround]

/-- An entry with the mark of an announcement in its name. -/
def announcingEntry : CollectedEntry :=
  ⟨"__ASYNC_PROFILER_METRICS__:m", .float 0.5, .float 1.0, 1, "a.py", 7⟩

/-- Files with a file of records under the path that its line announces. -/
def announcedFiles : Files :=
  ⟨[(["m: 0.500000s"], .file (Text.Utf8.encode "[]") false)], []⟩

/-- The call with this entry is not recovered from its line. -/
theorem not_recovered_announcing :
    announcingEntry.IsLegible ∧
      Collector.writeFile announcedFiles "gone/m.json" (Collector.fileText [announcingEntry]) = .error .missing ∧
      IsSilent "" ∧ IsSilent (SystemError.refused .missing "gone/m.json").message ∧
      let flush := ([announcingEntry].foldl Collector.record (Collector.ofPath "gone/m.json")).flush announcedFiles
      let found := announcedFiles.recover ("" ++ flush.printed)
      found.structured = true ∧ found.metrics.length = 0 := by
  have hall : (announcingEntry.function.toList.all fun c => !Text.isLineBoundary c) = true := by decide +kernel
  refine ⟨⟨?_, by simpa using hall, ?_, ?_, ?_, ?_⟩, rfl, ⟨?_, ?_⟩, ⟨?_, ?_⟩, ?_⟩ <;> decide +kernel

end Stopwatch

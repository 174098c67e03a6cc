/-
  Announced files.

  An announcement that is put behind an output without one is found, also when the last
  line of the output has no end and the announcement is glued to it.
-/
import Stopwatch.Metric.Recover
import Stopwatch.Proofs.Text.Search

namespace Stopwatch

open Text (isLineBoundary splitLines)

/-- The announcement ends in a character that stands nowhere else in it. -/
theorem announcement_toList :
    ∃ body, announcement.toList = body ++ [':'] ∧ ':' ∉ body ∧
      ∀ c ∈ announcement.toList, isLineBoundary c = false :=
  have hline : (announcement.toList.all fun c => !isLineBoundary c) = true := by decide
  ⟨"__ASYNC_PROFILER_METRICS__".toList, by decide, by decide, by simpa using hline⟩

/-- A line without the announcement announces nothing. -/
theorem announcedIn_eq_none {line : List Char} (h : ¬announcement.toList <:+: line) :
    announcedIn? line = none := by
  rw [announcedIn?, Text.cut_eq_none.mpr h]

/-- What stands behind the announcement is announced, whatever stands before it. -/
theorem announcedIn_glued {before path : List Char} (h : ¬announcement.toList <:+: before)
    (hstrip : Text.strip path = path) (hne : path ≠ []) :
    announcedIn? (before ++ (announcement.toList ++ path)) = some (String.ofList path) := by
  obtain ⟨body, hbody, hlast, -⟩ := announcement_toList
  have hcut : Text.cut? announcement.toList (before ++ (announcement.toList ++ path)) =
      some (before, path) := by
    rw [hbody] at h ⊢
    exact Text.cut_append hlast h path
  obtain ⟨c, rest, rfl⟩ := List.exists_cons_of_ne_nil hne
  rw [announcedIn?, hcut]
  simp only [hstrip]

/-- An output whose first announcement stands behind other output announces its path. -/
theorem announcedPath_glued {printed path : String}
    (hprinted : Text.contains printed announcement = false)
    (hline : ∀ c ∈ path.toList, isLineBoundary c = false)
    (hstrip : Text.strip path.toList = path.toList) (hne : path ≠ "") (rest : String) :
    announcedPath? (printed ++ (announcement ++ path ++ "\n") ++ rest) = some path := by
  have hwithout : ¬announcement.toList <:+: printed.toList := Text.occursIn_eq_false.mp hprinted
  obtain ⟨-, -, -, hplain⟩ := announcement_toList
  have hboundary : ∀ c ∈ announcement.toList ++ path.toList, isLineBoundary c = false := by
    intro c hc
    rcases List.mem_append.mp hc with hc | hc
    · exact hplain c hc
    · exact hline c hc
  obtain ⟨lines, last, hsplit, hinside⟩ :=
    Text.splitLines_glued printed.toList (by simp [announcement]) hboundary rest.toList
  have hnone : ∀ line ∈ lines, announcedIn? line = none := by
    intro line hmem
    have hpart := hinside.isInfix_of_mem line (List.mem_append_left _ hmem)
    exact announcedIn_eq_none fun hin => hwithout (hin.trans hpart)
  have hglued : ¬announcement.toList <:+: last := by
    have hpart := hinside.isInfix_of_mem last (by simp)
    exact fun hin => hwithout (hin.trans hpart)
  have htext : (printed ++ (announcement ++ path ++ "\n") ++ rest).toList =
      printed.toList ++ (announcement.toList ++ path.toList ++ '\n' :: rest.toList) := by
    simp [String.toList_append]
  have hpath : path.toList ≠ [] := fun hnil => hne (String.toList_eq_nil_iff.mp hnil)
  rw [announcedPath?, htext, hsplit, List.findSome?_append, List.findSome?_eq_none_iff.mpr hnone,
    Option.none_or, List.findSome?_cons, announcedIn_glued hglued hstrip hpath, String.ofList_toList]

/-! ## Outputs put together -/

/-- Of two outputs one after the other, the first announcement counts. -/
theorem announcedPath_append_newline (output more : String) :
    announcedPath? (output ++ "\n" ++ more) = (announcedPath? output).or (announcedPath? more) := by
  obtain ⟨blank, hblank, hsplit⟩ := Text.splitLines_append_newline output.toList more.toList
  have htext : (output ++ "\n" ++ more).toList = output.toList ++ '\n' :: more.toList := by
    simp [String.toList_append]
  have hnone : blank.findSome? announcedIn? = none := by
    rcases hblank with rfl | rfl <;> rfl
  rw [announcedPath?, htext, hsplit, List.findSome?_append, List.findSome?_append, hnone, Option.none_or,
    announcedPath?, announcedPath?]

/-- The tagged lines of two outputs one after the other are those of both. -/
theorem taggedMetrics_append_newline (output more : String) :
    taggedMetrics (output ++ "\n" ++ more) = taggedMetrics output ++ taggedMetrics more := by
  obtain ⟨blank, hblank, hsplit⟩ := Text.splitLines_append_newline output.toList more.toList
  have htext : (output ++ "\n" ++ more).toList = output.toList ++ '\n' :: more.toList := by
    simp [String.toList_append]
  have hnone : blank.filterMap metricIn? = [] := by
    rcases hblank with rfl | rfl <;> rfl
  rw [taggedMetrics, htext, hsplit, List.filterMap_append, List.filterMap_append, hnone, List.nil_append,
    taggedMetrics, taggedMetrics]

/-- An output without the mark announces nothing. -/
theorem announcedPath_eq_none {output : String} (h : ¬announcement.toList <:+: output.toList) :
    announcedPath? output = none := by
  rw [announcedPath?, List.findSome?_eq_none_iff]
  intro line hline
  exact announcedIn_eq_none fun hin => h (hin.trans (Text.isInfix_of_mem_splitLines hline))

/-- An output without the tag has no tagged lines. -/
theorem taggedMetrics_eq_nil {output : String} (h : ¬latencyTag.toList <:+: output.toList) :
    taggedMetrics output = [] := by
  rw [taggedMetrics, List.filterMap_eq_nil_iff]
  intro line hline
  have hcut : Text.cut? latencyTag.toList line = none :=
    Text.cut_eq_none.mpr fun hin => h (hin.trans (Text.isInfix_of_mem_splitLines hline))
  rw [metricIn?, hcut]
  rfl

end Stopwatch

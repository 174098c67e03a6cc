/-
  The collector has no asynchronous functions.

  Its text is read line by line: no name in it is `async`, and no line that is not indented
  starts with `if`.  So its statements hold no asynchronous function and no guard for the
  main program.
-/
import Stopwatch.Proofs.Instrument.Plain
import Stopwatch.Proofs.Syntax.Words

namespace Stopwatch

open Syntax

/-- A text that is written out has the characters that it is written with. -/
theorem toList_of_eq {s : String} {l : List Char} (h : s = String.ofList l) : s.toList = l := by
  rw [h, String.toList_ofList]

namespace Collector

/-- The lines of the source text of the collector. -/
def sourceLines : List String :=
  definitionLines ++ ["", "", markerName ++ " = " ++ className ++ ".for_process().install()"]

theorem intercalate_append (separator : List Char) {parts : List (List Char)} (h : parts ≠ []) :
    List.intercalate separator parts ++ separator = parts.flatMap (· ++ separator) := by
  induction parts with
  | nil => exact absurd rfl h
  | cons part parts ih =>
    cases parts with
    | nil => simp [List.intercalate]
    | cons next parts =>
      rw [List.flatMap_cons, ← ih (List.cons_ne_nil _ _)]
      simp [List.intercalate]

theorem toList_sourceText : sourceText.toList = textOf (sourceLines.map String.toList) := by
  have hlines : definitionLines.map String.toList ≠ [] := by
    rw [ne_eq, List.map_eq_nil_iff]
    exact List.cons_ne_nil _ _
  have hjoin := intercalate_append ['\n'] hlines
  have hbreaks : "\n\n\n".toList = ['\n', '\n', '\n'] := toList_of_eq rfl
  have hbreak : "\n".toList = ['\n'] := toList_of_eq rfl
  have hend : ".for_process().install()\n".toList = ".for_process().install()".toList ++ ['\n'] := by
    rw [toList_of_eq (s := ".for_process().install()\n") rfl, toList_of_eq (s := ".for_process().install()") rfl]
    rfl
  rw [sourceText, sourceLines, textOf, List.map_append, List.flatMap_append, ← hjoin]
  simp only [String.toList_append, String.toList_intercalate, hbreaks, hbreak, installStatement, hend]
  simp

/-- A line that is written out lacks two words if its characters do. -/
theorem lacksWordsInLine_of_eq {anywhere atStart l : List Char} {s : String} (h : s = String.ofList l)
    (hl : LacksWordsInLine anywhere atStart l) : LacksWordsInLine anywhere atStart s.toList := by
  rw [toList_of_eq h]
  exact hl

theorem lacksWords_definitionLines :
    ∀ line ∈ definitionLines, LacksWordsInLine ['a', 's', 'y', 'n', 'c'] ['i', 'f'] line.toList := by
  unfold definitionLines
  repeat refine List.forall_mem_cons.mpr ⟨lacksWordsInLine_of_eq rfl (by decide +kernel), ?_⟩
  simp

theorem lacksWords_sourceText : LacksWords "async" "if" sourceText.toList := by
  have hasync : "async".toList = ['a', 's', 'y', 'n', 'c'] := toList_of_eq rfl
  have hif : "if".toList = ['i', 'f'] := toList_of_eq rfl
  rw [toList_sourceText]
  apply lacksWords_of_lines ⟨'a', _, hasync, by decide⟩ ⟨'i', _, hif, by decide⟩
  rw [hasync, hif, sourceLines, List.forall_mem_map, List.forall_mem_append]
  refine ⟨lacksWords_definitionLines, ?_⟩
  refine List.forall_mem_cons.mpr ⟨lacksWordsInLine_of_eq rfl (by decide), ?_⟩
  refine List.forall_mem_cons.mpr ⟨lacksWordsInLine_of_eq rfl (by decide), ?_⟩
  rw [List.forall_mem_singleton, markerName, className, String.toList_append, String.toList_append,
    String.toList_append]
  rw [toList_of_eq (s := "_async_profiler_metrics") rfl, toList_of_eq (s := " = ") rfl,
    toList_of_eq (s := "_AsyncProfilerMetrics") rfl, toList_of_eq (s := ".for_process().install()") rfl]
  decide +kernel

theorem dropByteOrderMark_sourceText : dropByteOrderMark sourceText.toList = sourceText.toList := by
  have hfirst : ∃ others, sourceText.toList = 'c' :: others := by
    rw [toList_sourceText, sourceLines, definitionLines]
    rw [List.cons_append, List.map_cons, textOf_cons, toList_of_eq (s := "class _AsyncProfilerMetrics:") rfl]
    exact ⟨_, rfl⟩
  obtain ⟨others, hothers⟩ := hfirst
  rw [hothers]
  rfl

end Collector

/-- A text in which `async` is no word, and in which no line starts with `if`, has neither an
asynchronous function nor a guard for the main program. -/
theorem isPlain_of_lacksWords {source : String} {m : Module}
    (hwords : LacksWords "async" "if" (dropByteOrderMark source.toList)) (h : Module.parse? source = some m) :
    ∀ s ∈ m.body, s.IsPlain := by
  have hasync : IsWord "async" := ⟨'a', _, toList_of_eq rfl, by decide⟩
  have hif : IsWord "if" := ⟨'i', _, toList_of_eq rfl, by decide⟩
  exact isPlain_parse h fun usual rows hrows => fits_of_lacksWords hasync hif hwords hrows

/-- A comment in front of statements does not matter. -/
theorem isPlain_commentedStatements {parsed : Option Module} (comment : String)
    (h : ∀ m, parsed = some m → ∀ s ∈ m.body, s.IsPlain) : ∀ s ∈ commentedStatements comment parsed, s.IsPlain := by
  intro s hs
  unfold commentedStatements at hs
  split at hs
  · have hplain := h _ rfl
    rw [List.forall_mem_cons] at hplain
    rcases List.mem_cons.mp hs with rfl | hs
    · exact isPlain_setLeading hplain.1 _
    · exact hplain.2 s hs
  · cases hs

/-- The statements of the collector are plain. -/
theorem isPlain_collectorStatements : ∀ s ∈ collectorStatements, s.IsPlain := by
  have hwords := Collector.lacksWords_sourceText
  rw [← Collector.dropByteOrderMark_sourceText] at hwords
  -- The text is not parsed here: whatever comes of it is plain.
  exact isPlain_commentedStatements Collector.comment fun m hparse => isPlain_of_lacksWords hwords hparse

end Stopwatch

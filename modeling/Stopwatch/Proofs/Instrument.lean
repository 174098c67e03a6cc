/-
  The mark of an instrumented text.

  A module that imports the collector names it, so its text is recognised as instrumented.
  The same holds of the text of the collector itself.
-/
import Stopwatch.Instrument
import Stopwatch.Proofs.Text.Search

namespace Stopwatch

open Syntax

/-! ## Pieces of a module -/

/-- All pieces of a module stand in its text, except perhaps the last line break. -/
theorem Syntax.Module.infix_text {m : Module} {piece : String} (hpiece : piece ∈ m.pieces)
    (hbreak : ∀ b : LineBreak, b.text ≠ piece) : piece.toList <:+: m.text.toList := by
  have hmem : piece ∈ m.endPieces := by
    have hne : m.pieces ≠ [] := List.ne_nil_of_mem hpiece
    unfold Module.endPieces
    dsimp only
    split
    · rw [if_neg (by simpa using hne)]
      exact hpiece
    · split
      · rename_i last hlast
        obtain ⟨front, hfront⟩ := List.getLast?_eq_some_iff.mp hlast
        split
        · rename_i hisBreak
          obtain ⟨b, -, hb⟩ := List.any_eq_true.mp hisBreak
          rw [hfront, List.dropLast_concat]
          rw [hfront, List.mem_append, List.mem_singleton] at hpiece
          rcases hpiece with hpiece | rfl
          · exact hpiece
          · exact absurd (of_decide_eq_true hb) (hbreak b)
        · exact hpiece
      · rename_i hnone
        exact absurd (List.getLast?_eq_none_iff.mp hnone) hne
  rw [Module.text, String.toList_join]
  obtain ⟨front, rest, hsplit⟩ := List.append_of_mem hmem
  rw [hsplit, List.flatMap_append, List.flatMap_cons, ← List.append_assoc]
  exact List.infix_append _ _ _

theorem Syntax.mem_bodyPieces {style : Style} {indent piece : String} {s : Stmt} {body : List Stmt}
    (hs : s ∈ body) (hpiece : piece ∈ s.pieces style indent) : piece ∈ bodyPieces style indent body := by
  induction body with
  | nil => cases hs
  | cons first body ih =>
    rw [bodyPieces_cons, List.mem_append]
    rcases List.mem_cons.mp hs with rfl | hs
    · exact Or.inl hpiece
    · exact Or.inr (ih hs)

/-- The text of a token of a plain line is a piece of the line, whatever stands in front. -/
theorem mem_pieces_plainLine {style : Style} {indent : String} {statement : Small} {l : Lexeme}
    (hl : l ∈ statement.lexemes) (leading : List BlankLine) :
    l.text ∈ ((plainLine statement).setLeading leading).pieces style indent := by
  have hpieces : l.text ∈ lexemePieces style indent statement.lexemes := by
    rw [lexemePieces, List.mem_flatMap]
    exact ⟨l, hl, by simp [Lexeme.pieces]⟩
  simp [plainLine, Stmt.setLeading, Stmt.pieces, itemPieces, Item.pieces, hpieces]

/-! ## The mark -/

theorem hasMarker_iff {source : String} :
    hasMarker source = true ↔ Collector.markerName.toList <:+: source.toList := by
  rw [hasMarker, Text.contains, ← Bool.not_eq_false, Text.occursIn_eq_false, Decidable.not_not]

/-- The import of the collector in the sources of a package. -/
def collectorImport : Small :=
  .importFrom (.bare "from") [] (some (.name (.spaced Collector.moduleName)))
    (.phrase [.token (.spaced "import"), .token (.spaced Collector.markerName)])

theorem mem_lexemes_collectorImport : Lexeme.spaced Collector.markerName ∈ collectorImport.lexemes := by
  simp [collectorImport, Small.lexemes, Expr.lexemes]

theorem importStatement_moduleName :
    importStatement? Collector.moduleName = some (plainLine collectorImport) := by
  have hnames : (Collector.moduleName.toList.splitOn '.').map String.ofList = [Collector.moduleName] := by
    decide
  have hname : isNameText Collector.moduleName = true := by decide
  simp only [importStatement?, hnames, List.all_cons, List.all_nil, hname, Bool.and_self, if_true]
  rfl

/-- A source of a package can always be given the collector. -/
theorem instrument_importFrom (m : Module) (file : String) :
    m.instrument? ⟨file, .importFrom Collector.moduleName⟩ = some { m with
      body := insertStatements [plainLine collectorImport] (wrapBody m.style file "" m.firstLine m.body) } := by
  simp only [Module.instrument?, CollectorOrigin.statements?, importStatement_moduleName, Option.map_some]

/-- A statement that is inserted stands in the module, with or without empty lines in front. -/
theorem mem_insertStatements (s : Stmt) (body : List Stmt) :
    s ∈ insertStatements [s] body ∨ setApart s ∈ insertStatements [s] body := by
  simp only [insertStatements]
  split
  · exact Or.inl (by simp)
  · exact Or.inr (by simp [mapFirst])

/-- A source of a package is marked once it has been given the collector. -/
theorem hasMarker_importFrom {m m' : Module} {file : String}
    (h : m.instrument? ⟨file, .importFrom Collector.moduleName⟩ = some m') : hasMarker m'.text = true := by
  rw [instrument_importFrom, Option.some_inj] at h
  rw [hasMarker_iff, ← h]
  have hbreak : ∀ b : LineBreak, b.text ≠ Collector.markerName := by
    intro b
    cases b <;> decide
  refine Module.infix_text ?_ hbreak
  rw [Module.pieces, List.mem_append, List.mem_append]
  refine Or.inl (Or.inr ?_)
  have hpiece (leading : List BlankLine) :
      Collector.markerName ∈ ((plainLine collectorImport).setLeading leading).pieces m.style "" :=
    mem_pieces_plainLine mem_lexemes_collectorImport leading
  rcases mem_insertStatements (plainLine collectorImport) (wrapBody m.style file "" m.firstLine m.body)
    with hmem | hmem
  · exact mem_bodyPieces hmem (hpiece [])
  · exact mem_bodyPieces hmem (hpiece _)

/-- The module that holds the collector is marked. -/
theorem hasMarker_moduleText : hasMarker Collector.moduleText = true := by
  rw [hasMarker_iff, Collector.moduleText, Collector.sourceText, Collector.installStatement]
  refine ⟨(Collector.comment ++ "\n" ++ (String.intercalate "\n" Collector.definitionLines ++ "\n\n\n")).toList,
    (" = " ++ Collector.className ++ ".for_process().install()\n").toList, ?_⟩
  simp only [String.toList_append, List.append_assoc]

end Stopwatch

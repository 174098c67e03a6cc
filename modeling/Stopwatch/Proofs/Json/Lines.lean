/-
  Documents on one line.

  A style that does not indent writes a document on one line: line feeds in strings are escaped, and
  no number is written with one.  Events are written in such a style, and are read back as they were.
-/
import Stopwatch.Proofs.Json.RoundTrip

namespace Stopwatch

namespace Number

theorem not_mem_signed (negative : Bool) {cs : List Char} (h : '\n' ∉ cs) : '\n' ∉ signed negative cs := by
  cases negative with
  | false => exact h
  | true => exact List.not_mem_cons_of_ne_of_not_mem (by decide) h

theorem not_mem_of_isDigit {ds : List Char} (h : ∀ c ∈ ds, c.isDigit) : '\n' ∉ ds :=
  fun hmem => absurd (h _ hmem) (by decide)

/-- The text of a number, in a style that has words for those that are not finite, has no line feed
if these words have none. -/
theorem not_mem_formatShortest {style : ShortestStyle} (hnan : '\n' ∉ style.nan.toList)
    (hinfinity : '\n' ∉ style.infinity.toList) (x : Float) : '\n' ∉ (formatShortest style x).toList := by
  cases hx : classify x with
  | nan =>
    simp only [formatShortest, hx]
    exact hnan
  | infinite negative =>
    simp only [formatShortest, hx, String.toList_ofList]
    exact not_mem_signed negative hinfinity
  | finite negative v =>
    obtain ⟨w, hw, htext, -⟩ := exists_written_shortest style hx
    have hfraction : '\n' ∉ w.fractionText := by
      rw [Written.fractionText]
      split
      · exact List.not_mem_nil
      · exact List.not_mem_cons_of_ne_of_not_mem (by decide) (not_mem_of_isDigit hw.fraction_digits)
    have hexponent : '\n' ∉ w.exponentText := by
      rw [Written.exponentText]
      split
      · exact List.not_mem_nil
      · rename_i negative ds heq
        refine List.not_mem_cons_of_ne_of_not_mem (by decide) (List.not_mem_cons_of_ne_of_not_mem ?_ ?_)
        · cases negative <;> decide
        · exact not_mem_of_isDigit (hw.exponent_digits _ heq).2
    rw [htext, String.toList_ofList]
    refine not_mem_signed negative ?_
    rw [Written.text, List.mem_append, List.mem_append, not_or, not_or]
    exact ⟨⟨not_mem_of_isDigit hw.whole_digits, hfraction⟩, hexponent⟩

end Number

namespace Json

/-- A style that writes a document on one line. -/
structure Style.IsOneLine (style : Style) : Prop where
  flat : style.indented = false
  comma : '\n' ∉ style.comma.toList
  colon : '\n' ∉ style.colon.toList
  float : ∀ x, '\n' ∉ (style.float x).toList

/-- Line feeds are escaped. -/
theorem not_mem_quote (ascii : Bool) (s : String) : '\n' ∉ quote ascii s := by
  have hdigit (n : Nat) : Nat.digitChar (n % 16) ≠ '\n' := by
    have hall : ∀ k < 16, Nat.digitChar k ≠ '\n' := by decide
    exact hall _ (Nat.mod_lt n (by decide))
  have hunit (n : Nat) : '\n' ∉ escapeUnit n := by
    simp [escapeUnit, hexUnit, fun n => (hdigit n).symm]
  have hchar (c : Char) : '\n' ∉ escapeChar ascii c := by
    unfold escapeChar
    -- a line feed is escaped itself, and no other escape has one
    split_ifs with hquote hslash hfeed
    all_goals first
      | decide
      | exact hunit _
      | exact List.not_mem_append (hunit _) (hunit _)
      | exact fun hmem => hfeed (List.mem_singleton.mp hmem).symm
  rw [quote, List.mem_append, not_or]
  refine ⟨List.not_mem_cons_of_ne_of_not_mem (by decide) fun hmem => ?_, by decide⟩
  obtain ⟨c, -, hc⟩ := List.mem_flatMap.mp hmem
  exact hchar c hc

section OneLine

variable {style : Style}

theorem not_mem_intersperse {separator : List Char} (hseparator : '\n' ∉ separator) {items : List (List Char)}
    (hitems : ∀ item ∈ items, '\n' ∉ item) : '\n' ∉ (items.intersperse separator).flatten := by
  induction items with
  | nil => exact List.not_mem_nil
  | cons first rest ih =>
    rw [List.forall_mem_cons] at hitems
    cases rest with
    | nil => simpa using hitems.1
    | cons second rest =>
      rw [List.intersperse_cons_cons, List.flatten_cons, List.flatten_cons, List.mem_append, List.mem_append, not_or,
        not_or]
      exact ⟨hitems.1, hseparator, ih hitems.2⟩

theorem Style.IsOneLine.not_mem_bracket (hstyle : style.IsOneLine) (depth : Nat) {opening closing : Char}
    (hopening : opening ≠ '\n') (hclosing : closing ≠ '\n') {items : List (List Char)}
    (hitems : ∀ item ∈ items, '\n' ∉ item) :
    '\n' ∉ bracket style depth opening closing items := by
  have hmem := not_mem_intersperse hstyle.comma hitems
  rw [bracket, hstyle.flat]
  split
  · simp [hopening.symm, hclosing.symm]
  · simp [hopening.symm, hclosing.symm, hmem]

mutual

/-- A document is written without a line feed. -/
theorem Style.IsOneLine.not_mem_renderAt (hstyle : style.IsOneLine) :
    ∀ (depth : Nat) (d : Json), '\n' ∉ renderAt style depth d
  | _, .null => by
    rw [renderAt]
    decide
  | _, .bool value => by
    rw [renderAt]
    cases value <;> decide
  | _, .integer n => by
    rw [renderAt, toList_toString]
    exact Number.not_mem_signed _ (Number.not_mem_of_isDigit fun _ => Number.isDigit_of_mem_digits)
  | _, .float x => hstyle.float x
  | _, .string s => not_mem_quote style.ascii s
  | depth, .array items => hstyle.not_mem_bracket depth (by decide) (by decide) (not_mem_renderItems hstyle (depth + 1) items)
  | depth, .object fields => by
    refine hstyle.not_mem_bracket depth (by decide) (by decide) fun text htext => ?_
    obtain ⟨field, hfield, rfl⟩ := List.mem_map.mp htext
    exact not_mem_renderFields hstyle (depth + 1) fields field ((arrange_perm style _).mem_iff.mp hfield)

theorem Style.IsOneLine.not_mem_renderItems (hstyle : style.IsOneLine) :
    ∀ (depth : Nat) (items : List Json), ∀ text ∈ renderItems style depth items, '\n' ∉ text
  | _, [] => fun _ hmem => absurd hmem List.not_mem_nil
  | depth, item :: items => List.forall_mem_cons.mpr
    ⟨not_mem_renderAt hstyle depth item, not_mem_renderItems hstyle depth items⟩

theorem Style.IsOneLine.not_mem_renderFields (hstyle : style.IsOneLine) :
    ∀ (depth : Nat) (fields : List (String × Json)), ∀ field ∈ renderFields style depth fields, '\n' ∉ field.2
  | _, [] => fun _ hmem => absurd hmem List.not_mem_nil
  | depth, (name, value) :: fields => by
    refine List.forall_mem_cons.mpr ⟨?_, not_mem_renderFields hstyle depth fields⟩
    simp only [List.mem_append, not_or]
    exact ⟨⟨not_mem_quote _ _, hstyle.colon⟩, not_mem_renderAt hstyle depth value⟩

end

end OneLine

/-! ## Events -/

theorem eventStyle_isOneLine : eventStyle.IsOneLine where
  flat := rfl
  comma := by decide
  colon := by decide
  float := Number.not_mem_formatShortest (by decide) (by decide)

theorem eventStyle_isReadable : eventStyle.IsReadable :=
  ⟨⟨[' '], rfl, List.forall_mem_singleton.mpr rfl⟩, ⟨[' '], rfl, List.forall_mem_singleton.mpr rfl⟩⟩

/-- An event is one line. -/
theorem not_mem_render_event (d : Json) : '\n' ∉ (render eventStyle d).toList := by
  rw [render, String.toList_ofList]
  exact eventStyle_isOneLine.not_mem_renderAt 0 d

/-- An event is read back as it was. -/
theorem read_render_event {d : Json} (h : Fits eventStyle maxDepth d) : read? (render eventStyle d).toList = some d := by
  rw [read_render eventStyle_isReadable h, arranged_of_unsorted rfl]

end Json

end Stopwatch

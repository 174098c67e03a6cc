/-
  Whole words.

  A text is searched for words from left to right, with one look at the character before.
  What is found is a part of the text that spells one of the words, in either case, between
  characters that belong to no word.
-/
import Mathlib.Data.List.Forall2
import Stopwatch.Diagnostics

namespace Stopwatch.Text

/-- A text spells a word, each letter in either case. -/
def Spells (word cs : List Char) : Prop :=
  List.Forall₂ (fun letter c => isLetter letter c = true) word cs

/-- One of some words stands in a text as a whole; `inside` says whether a word character stands
in front of the text. -/
def HasWord (words : List (List Char)) (inside : Bool) (cs : List Char) : Prop :=
  ∃ word ∈ words, ∃ front middle rest, cs = front ++ (middle ++ rest) ∧ Spells word middle ∧
    (front.getLast?.map isWordChar).getD inside = false ∧ ∀ c ∈ rest.head?, isWordChar c = false

variable {words : List (List Char)} {word cs : List Char} {inside : Bool}

theorem startsWithWord_iff :
    startsWithWord word cs = true ↔
      ∃ middle rest, cs = middle ++ rest ∧ Spells word middle ∧ ∀ c ∈ rest.head?, isWordChar c = false := by
  induction word generalizing cs with
  | nil =>
    have hspells (middle : List Char) : Spells [] middle ↔ middle = [] := List.forall₂_nil_left_iff
    simp only [hspells]
    cases cs with
    | nil => exact ⟨fun _ => ⟨[], [], rfl, rfl, nofun⟩, fun _ => rfl⟩
    | cons c cs =>
      rw [startsWithWord, Bool.not_eq_true']
      constructor
      · exact fun hc => ⟨[], c :: cs, rfl, rfl, fun d hd => Option.some.inj hd ▸ hc⟩
      · rintro ⟨_, rest, heq, rfl, hrest⟩
        exact hrest c (by rw [List.nil_append] at heq; rw [← heq]; rfl)
  | cons letter word ih =>
    have hspells (middle : List Char) : Spells (letter :: word) middle ↔
        ∃ c cs', isLetter letter c = true ∧ Spells word cs' ∧ middle = c :: cs' := List.forall₂_cons_left_iff
    simp only [hspells]
    cases cs with
    | nil => simp [startsWithWord]
    | cons c cs =>
      rw [startsWithWord, Bool.and_eq_true, ih]
      constructor
      · rintro ⟨hc, middle, rest, rfl, hmiddle, hrest⟩
        exact ⟨c :: middle, rest, rfl, ⟨c, middle, hc, hmiddle, rfl⟩, hrest⟩
      · rintro ⟨_, rest, heq, ⟨d, middle, hd, hmiddle, rfl⟩, hrest⟩
        obtain ⟨rfl, rfl⟩ := List.cons.inj heq
        exact ⟨hd, middle, rest, rfl, hmiddle, hrest⟩

/-- A whole word stands at the start of a text, or behind its first character. -/
theorem hasWord_cons {c : Char} :
    HasWord words inside (c :: cs) ↔
      (inside = false ∧ ∃ word ∈ words, startsWithWord word (c :: cs) = true) ∨
        HasWord words (isWordChar c) cs := by
  simp only [HasWord, startsWithWord_iff]
  constructor
  · rintro ⟨word, hword, front, middle, rest, heq, hmiddle, hfront, hrest⟩
    cases front with
    | nil => exact Or.inl ⟨hfront, word, hword, middle, rest, heq, hmiddle, hrest⟩
    | cons d front =>
      obtain ⟨rfl, rfl⟩ := List.cons.inj heq
      refine Or.inr ⟨word, hword, front, middle, rest, rfl, hmiddle, ?_, hrest⟩
      cases front with
      | nil => exact hfront
      | cons d front => rwa [List.getLast?_cons_cons] at hfront
  · rintro (⟨hinside, word, hword, middle, rest, heq, hmiddle, hrest⟩ |
      ⟨word, hword, front, middle, rest, rfl, hmiddle, hfront, hrest⟩)
    · exact ⟨word, hword, [], middle, rest, heq, hmiddle, hinside, hrest⟩
    · refine ⟨word, hword, c :: front, middle, rest, rfl, hmiddle, ?_, hrest⟩
      cases front with
      | nil => exact hfront
      | cons d front => rwa [List.getLast?_cons_cons]

/-- The search finds whole words, and all of them. -/
theorem containsWord_iff (hwords : [] ∉ words) : containsWord words inside cs = true ↔ HasWord words inside cs := by
  induction cs generalizing inside with
  | nil =>
    refine iff_of_false Bool.false_ne_true ?_
    rintro ⟨word, hword, front, middle, rest, heq, hmiddle, -⟩
    obtain ⟨-, hnil⟩ := List.append_eq_nil_iff.mp heq.symm
    obtain ⟨rfl, -⟩ := List.append_eq_nil_iff.mp hnil
    rw [Spells, List.forall₂_nil_right_iff] at hmiddle
    exact hwords (hmiddle ▸ hword)
  | cons c cs ih =>
    rw [containsWord, Bool.or_eq_true, Bool.and_eq_true, Bool.not_eq_true', List.any_eq_true, ih, hasWord_cons]

end Stopwatch.Text

namespace Stopwatch

/-- A line is a diagnostic if "error" or "warning" stands in it as a whole word, in any case. -/
theorem isDiagnostic_iff (line : String) :
    isDiagnostic line = true ↔ Text.HasWord ["error".toList, "warning".toList] false line.toList :=
  Text.containsWord_iff (by decide)

end Stopwatch

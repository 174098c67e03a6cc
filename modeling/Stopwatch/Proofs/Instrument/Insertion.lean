/-
  Where the collector is put into a module.

  The statements that are added stand together, behind a docstring in the very first place
  and the imports from `__future__` that follow it.  So every import from `__future__`
  comes before them exactly if nothing else stands in front of one: a second string
  between the docstring and such an import is enough to put the collector in front of it.
-/
import Mathlib.Data.List.TakeDrop
import Mathlib.Tactic.ByContra
import Stopwatch.Proofs.Instrument
import Stopwatch.Proofs.Instrument.Wrapped

namespace Stopwatch

open Syntax

/-! ## Lines in front of statements -/

/-- A statement without the lines in front of it. -/
def Syntax.Stmt.withoutLeading (s : Stmt) : Stmt :=
  s.setLeading []

@[simp] theorem withoutLeading_setLeading (s : Stmt) (leading : List BlankLine) :
    (s.setLeading leading).withoutLeading = s.withoutLeading := by
  cases s with
  | line _ items ending => rfl
  | function head suite => rfl
  | classDef head suite => rfl
  | compound first others => cases first; rfl

@[simp] theorem isFutureImport_withoutLeading (s : Stmt) :
    s.withoutLeading.isFutureImport = s.isFutureImport := by
  cases s with
  | line _ items ending => rfl
  | function head suite => rfl
  | classDef head suite => rfl
  | compound first others => cases first; rfl

@[simp] theorem map_withoutLeading_mapFirst (body : List Stmt) :
    (mapFirst setApart body).map Stmt.withoutLeading = body.map Stmt.withoutLeading := by
  cases body with
  | nil => rfl
  | cons s body => simp [mapFirst, setApart]

/-- A question that does not look at the lines in front of a statement has the same answers for
statements that only differ in them. -/
theorem map_eq_of_withoutLeading {f : Stmt → α} (hf : ∀ s, f s.withoutLeading = f s)
    {body body' : List Stmt} (h : body.map Stmt.withoutLeading = body'.map Stmt.withoutLeading) :
    body.map f = body'.map f := by
  have hmap (body : List Stmt) : body.map f = (body.map Stmt.withoutLeading).map f := by
    simp [hf]
  rw [hmap body, hmap body', h]

/-! ## The preamble -/

/-- The docstring and the imports from `__future__` at the start of a module. -/
def preamble (body : List Stmt) : List Stmt :=
  (splitPreamble body).1

/-- The statements behind the preamble. -/
def behindPreamble (body : List Stmt) : List Stmt :=
  (splitPreamble body).2

theorem splitDocstring_append (body : List Stmt) :
    (splitDocstring body).1 ++ (splitDocstring body).2 = body := by
  cases body with
  | nil => rfl
  | cons s body =>
    rw [splitDocstring]
    split <;> rfl

theorem behindPreamble_eq (body : List Stmt) :
    behindPreamble body = (splitDocstring body).2.dropWhile Stmt.isFutureImport := by
  simp only [behindPreamble, splitPreamble, List.span_eq_takeWhile_dropWhile]

theorem preamble_eq (body : List Stmt) :
    preamble body = (splitDocstring body).1 ++ (splitDocstring body).2.takeWhile Stmt.isFutureImport := by
  simp only [preamble, splitPreamble, List.span_eq_takeWhile_dropWhile]

theorem preamble_append (body : List Stmt) : preamble body ++ behindPreamble body = body := by
  rw [preamble_eq, behindPreamble_eq, List.append_assoc, List.takeWhile_append_dropWhile,
    splitDocstring_append]

/-- The added statements as they stand in a module with the given preamble. -/
def announced (preamble added : List Stmt) : List Stmt :=
  if preamble.isEmpty then added else mapFirst setApart added

@[simp] theorem map_withoutLeading_announced (preamble added : List Stmt) :
    (announced preamble added).map Stmt.withoutLeading = added.map Stmt.withoutLeading := by
  rw [announced]
  split
  · rfl
  · exact map_withoutLeading_mapFirst added

/-- Statements are added behind the preamble, and what follows them is set apart. -/
theorem insertStatements_eq {added : List Stmt} (hadded : added ≠ []) (body : List Stmt) :
    insertStatements added body =
      preamble body ++ (announced (preamble body) added ++ mapFirst setApart (behindPreamble body)) := by
  cases added with
  | nil => exact absurd rfl hadded
  | cons first others => rfl

/-- Adding statements moves nothing else, as far as a question goes that does not look at the lines in
front of a statement. -/
theorem map_insertStatements {f : Stmt → α} (hf : ∀ s, f s.withoutLeading = f s) (added body : List Stmt) :
    (insertStatements added body).map f = (preamble body ++ (added ++ behindPreamble body)).map f := by
  cases hadded : added with
  | nil => rw [insertStatements, List.nil_append, preamble_append]
  | cons first others =>
    rw [← hadded, insertStatements_eq (by simp [hadded])]
    apply map_eq_of_withoutLeading hf
    simp only [List.map_append, map_withoutLeading_announced, map_withoutLeading_mapFirst]

/-! ## Imports from `__future__` -/

/-- Whether the imports from `__future__` stand first: in front of each there are only
others, and perhaps a docstring in the very first place. -/
def FutureImportsLead (body : List Stmt) : Prop :=
  ∀ i j : Nat, j < i → body[i]?.any Stmt.isFutureImport = true →
    body[j]?.any Stmt.isFutureImport = true ∨ j = 0 ∧ body[j]?.any Stmt.isDocstring = true

/-- Wrapping neither moves an import from `__future__` nor a docstring. -/
theorem futureImportsLead_wrapBody {style : Style} {file indent : String} {line : Nat} {body : List Stmt} :
    FutureImportsLead (wrapBody style file indent line body) ↔ FutureImportsLead body := by
  simp only [FutureImportsLead, getElem?_wrapBody_any fun _ s => isFutureImport_wrapStmt s,
    getElem?_wrapBody_any fun _ s => isDocstring_wrapStmt s]

/-- An import from `__future__` can be told from what is in front of it: behind a run of such
imports there is none if and only if all of them belong to the run. -/
theorem dropWhile_futureImport_iff {body : List Stmt} :
    (∀ s ∈ body.dropWhile Stmt.isFutureImport, s.isFutureImport = false) ↔
      ∀ i j : Nat, j < i → body[i]?.any Stmt.isFutureImport = true →
        body[j]?.any Stmt.isFutureImport = true := by
  induction body with
  | nil => simp
  | cons s body ih =>
    cases hs : s.isFutureImport with
    | true =>
      rw [List.dropWhile_cons_of_pos hs, ih]
      constructor
      · intro h i j hij hi
        cases i with
        | zero => omega
        | succ i =>
          cases j with
          | zero => simpa using hs
          | succ j => simpa using h i j (by omega) (by simpa using hi)
      · intro h i j hij hi
        simpa using h (i + 1) (j + 1) (by omega) (by simpa using hi)
    | false =>
      rw [List.dropWhile_cons_of_neg (by simp [hs])]
      constructor
      · -- A later import would be a statement of the list.
        intro h i j _ hi
        cases ht : (s :: body)[i]? with
        | none =>
          rw [ht] at hi
          cases hi
        | some t =>
          rw [ht, Option.any_some, h t (List.mem_of_getElem? ht)] at hi
          cases hi
      · intro h t ht
        by_contra hne
        rw [Bool.not_eq_false] at hne
        obtain ⟨i, hi⟩ := List.getElem?_of_mem ht
        cases i with
        | zero =>
          simp only [List.getElem?_cons_zero, Option.some_inj] at hi
          rw [← hi, hs] at hne
          cases hne
        | succ i =>
          have hfirst := h (i + 1) 0 (by omega) (by rw [hi]; simpa using hne)
          simp [hs] at hfirst

/-- No import from `__future__` stands behind the preamble exactly if they stand first. -/
theorem behindPreamble_futureImport_iff {body : List Stmt} :
    (∀ s ∈ behindPreamble body, s.isFutureImport = false) ↔ FutureImportsLead body := by
  rw [behindPreamble_eq]
  cases body with
  | nil => simp [splitDocstring, FutureImportsLead]
  | cons s body =>
    rw [splitDocstring]
    split
    · rename_i hdoc
      -- Behind a docstring, the places count one less.
      rw [dropWhile_futureImport_iff]
      constructor
      · intro h i j hij hi
        cases j with
        | zero => exact Or.inr ⟨rfl, by simpa using hdoc⟩
        | succ j =>
          cases i with
          | zero => omega
          | succ i =>
            exact Or.inl (by simpa using h i j (by omega) (by simpa using hi))
      · intro h i j hij hi
        rcases h (i + 1) (j + 1) (by omega) (by simpa using hi) with hj | ⟨hj, -⟩
        · simpa using hj
        · omega
    · rename_i hdoc
      rw [dropWhile_futureImport_iff]
      constructor
      · intro h i j hij hi
        exact Or.inl (h i j hij hi)
      · intro h i j hij hi
        rcases h i j hij hi with hj | ⟨rfl, hj⟩
        · exact hj
        · exact absurd (by simpa using hj) hdoc

/-- Whether no import from `__future__` is among some statements does not depend on the lines in
front of them. -/
theorem forall_futureImport_iff {body body' : List Stmt}
    (h : body.map Stmt.withoutLeading = body'.map Stmt.withoutLeading) :
    (∀ s ∈ body, s.isFutureImport = false) ↔ ∀ s ∈ body', s.isFutureImport = false := by
  have hmap := map_eq_of_withoutLeading isFutureImport_withoutLeading h
  have hall (body : List Stmt) :
      (∀ s ∈ body, s.isFutureImport = false) ↔ ∀ b ∈ body.map Stmt.isFutureImport, b = false := by
    simp
  rw [hall body, hall body', hmap]

/-- The module that all sources of a package import the collector from. -/
theorem statements_moduleName :
    (CollectorOrigin.importFrom Collector.moduleName).statements? = some [plainLine collectorImport] := by
  rw [CollectorOrigin.statements?, importStatement_moduleName, Option.map_some]

/-- A line that holds nothing but a string. -/
def stringLine : Stmt :=
  plainLine (.expr (.string (.bare "'text'")))

/-- An import from `__future__`. -/
def futureImportLine : Stmt :=
  plainLine (.importFrom (.bare "from") [] (some (.name (.spaced "__future__")))
    (.phrase [.token (.spaced "import"), .token (.spaced "annotations")]))

/-- A small module with the given statements. -/
def moduleOf (body : List Stmt) : Module :=
  ⟨⟨.feed, "    "⟩, [], body, [], true⟩

/-- Whether each import from `__future__` stands where it is allowed: in front of it there are
only others, and strings. -/
def FutureImportsAllowed (body : List Stmt) : Prop :=
  ∀ i j : Nat, j < i → body[i]?.any Stmt.isFutureImport = true →
    body[j]?.any Stmt.isFutureImport = true ∨ body[j]?.any Stmt.isDocstring = true

end Stopwatch

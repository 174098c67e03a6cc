/-
  Entries after a change.

  Every change of a tree is made of three: an entry is put at a location, an entry is
  removed, and an entry is removed with all below it.  What stands at every location
  afterwards is said here, and only here.
-/
import Stopwatch.Files.Basic

namespace Stopwatch.Files

variable (fs : Files)

theorem find?_of_ne_nil {l : Location} (hl : l ≠ []) :
    fs.find? l = (fs.entries.find? fun e => e.1 = l).map Prod.snd := by
  rw [find?, if_neg hl]

/-- Looking for a location among the entries that are left. -/
theorem find?_filter (keep : Location → Bool) {l : Location} (hl : l ≠ []) :
    (⟨fs.entries.filter fun e => keep e.1, fs.workingDirectory⟩ : Files).find? l =
      if keep l then fs.find? l else none := by
  rw [find?_of_ne_nil _ hl, find?_of_ne_nil _ hl, List.find?_filter]
  split
  · rename_i hkeep
    congr 2
    funext e
    by_cases heq : e.1 = l
    · simp [heq, hkeep]
    · simp [heq]
  · rename_i hdrop
    rw [Option.map_eq_none_iff, List.find?_eq_none]
    intro e _ he
    simp only [Bool.decide_and, Bool.and_eq_true, decide_eq_true_eq] at he
    exact hdrop (he.2 ▸ he.1)

theorem find?_erase (l l' : Location) :
    (fs.erase l).find? l' = if l' = l ∧ l' ≠ [] then none else fs.find? l' := by
  by_cases hl : l' = []
  · subst hl
    simp
  · have h := find?_filter fs (fun at_ => at_ ≠ l) hl
    rw [erase, h]
    by_cases heq : l' = l
    · rw [if_neg (by simp [heq]), if_pos ⟨heq, hl⟩]
    · rw [if_pos (by simp [heq]), if_neg fun hand => heq hand.1]

@[simp]
theorem find?_erase_self {l : Location} (hl : l ≠ []) : (fs.erase l).find? l = none := by
  rw [find?_erase, if_pos ⟨rfl, hl⟩]

theorem find?_erase_of_ne {l l' : Location} (h : l' ≠ l) : (fs.erase l).find? l' = fs.find? l' := by
  rw [find?_erase, if_neg fun hand => h hand.1]

/-- What stands somewhere when an entry has been removed stood there before. -/
theorem find?_of_erase {l l' : Location} {e : Entry} (h : (fs.erase l).find? l' = some e) : fs.find? l' = some e := by
  rw [find?_erase] at h
  split at h
  · cases h
  · exact h

@[simp]
theorem find?_insert_self {l : Location} (hl : l ≠ []) (e : Entry) :
    (fs.insert l e).find? l = some e := by
  rw [find?_of_ne_nil _ hl, insert]
  simp

theorem find?_insert_of_ne {l l' : Location} (h : l' ≠ l) (e : Entry) :
    (fs.insert l e).find? l' = fs.find? l' := by
  by_cases hl : l' = []
  · subst hl
    rfl
  · rw [← find?_erase_of_ne fs h, find?_of_ne_nil _ hl, find?_of_ne_nil _ hl, insert]
    rw [List.find?_cons_of_neg (by simpa using Ne.symm h)]

/-- Nothing is left below a tree that has been removed, and everything else is. -/
theorem find?_eraseTree (l l' : Location) :
    (fs.eraseTree l).find? l' = if l <+: l' ∧ l' ≠ [] then none else fs.find? l' := by
  by_cases hl : l' = []
  · subst hl
    simp
  · have h := find?_filter fs (fun at_ => !l.isPrefixOf at_) hl
    rw [eraseTree, h]
    by_cases hbelow : l <+: l'
    · have hdrop : ¬(!l.isPrefixOf l') = true := by simpa using hbelow
      rw [if_neg hdrop, if_pos ⟨hbelow, hl⟩]
    · have hkeep : (!l.isPrefixOf l') = true := by
        rw [Bool.not_eq_true', Bool.eq_false_iff, ne_eq, List.isPrefixOf_iff_prefix]
        exact hbelow
      rw [if_pos hkeep, if_neg fun hand => hbelow hand.1]

@[simp]
theorem workingDirectory_insert (l : Location) (e : Entry) :
    (fs.insert l e).workingDirectory = fs.workingDirectory := rfl

@[simp]
theorem workingDirectory_erase (l : Location) :
    (fs.erase l).workingDirectory = fs.workingDirectory := rfl

@[simp]
theorem workingDirectory_eraseTree (l : Location) :
    (fs.eraseTree l).workingDirectory = fs.workingDirectory := rfl

end Stopwatch.Files

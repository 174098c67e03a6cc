/-
  Edited files.

  Whatever is done to files is done entry by entry: an entry is put at a location, an entry is
  removed, or an entry is removed with all below it.  No location comes to be listed twice that way,
  and the working directory stays the same.
-/
import Stopwatch.Proofs.Files.Change
import Stopwatch.Proofs.Files.Sources

namespace Stopwatch.Files

variable {fs fs' fs'' : Files} {p : Path}

/-- Files that come of others by changes of single entries and by the removal of trees. -/
inductive Edits (fs : Files) : Files → Prop
  | refl : Edits fs fs
  | insert {fs' : Files} (h : Edits fs fs') (l : Location) (e : Entry) : Edits fs (fs'.insert l e)
  | erase {fs' : Files} (h : Edits fs fs') (l : Location) : Edits fs (fs'.erase l)
  | eraseTree {fs' : Files} (h : Edits fs fs') (l : Location) : Edits fs (fs'.eraseTree l)

theorem Edits.trans (h : Edits fs fs') (h' : Edits fs' fs'') : Edits fs fs'' := by
  induction h' with
  | refl => exact h
  | insert _ l e ih => exact ih.insert l e
  | erase _ l ih => exact ih.erase l
  | eraseTree _ l ih => exact ih.eraseTree l

theorem edits_make {e : Entry} (h : fs.make p e = .ok fs') : Edits fs fs' := by
  obtain ⟨l, -, -, rfl⟩ := make_eq_ok h
  exact Edits.refl.insert l e

theorem edits_write {change : List UInt8 → List UInt8} (h : fs.write p change = .ok fs') : Edits fs fs' := by
  rcases write_inv h with rfl | ⟨l, bytes, executable, -, -, rfl⟩
  · exact .refl
  · exact Edits.refl.insert l _

theorem edits_remove (h : fs.remove p = .ok fs') : Edits fs fs' := by
  obtain ⟨own, -, -, -, -, rfl⟩ := remove_inv h
  exact Edits.refl.erase own

theorem edits_setExecutable (fs : Files) (p : Path) (executable : Bool) : Edits fs (fs.setExecutable p executable) := by
  rcases setExecutable_inv fs p executable with heq | ⟨l, bytes, -, -, heq⟩
  · rw [heq]
    exact .refl
  · rw [heq]
    exact Edits.refl.insert l _

theorem IsListing.eraseTree (h : fs.IsListing) (l : Location) : (fs.eraseTree l).IsListing := by
  have hsublist : ((fs.eraseTree l).entries.map Prod.fst).Sublist (fs.entries.map Prod.fst) :=
    (List.filter_sublist).map Prod.fst
  exact List.Nodup.sublist hsublist h

/-- No location comes to be listed twice. -/
theorem Edits.isListing (h : Edits fs fs') (honce : fs.IsListing) : fs'.IsListing := by
  induction h with
  | refl => exact honce
  | insert _ l e ih => exact ih.insert l e
  | erase _ l ih => exact ih.erase l
  | eraseTree _ l ih => exact ih.eraseTree l

end Stopwatch.Files

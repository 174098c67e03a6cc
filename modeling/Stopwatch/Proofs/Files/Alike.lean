/-
  Files that differ at some locations only.

  If walks do not go through what differs, every path leads to the same location among
  both.  So both are changed alike, and what is read elsewhere is the same.
-/
import Stopwatch.Proofs.Files.Tree

namespace Stopwatch.Files

/-- The same files, but for what stands at some locations, and that is no way on either side. -/
structure Alike (places : List Location) (fs fs' : Files) : Prop where
  here : fs'.workingDirectory = fs.workingDirectory
  ways : fs.SameWays fs'
  same : ∀ l, l ∉ places → fs'.find? l = fs.find? l

variable {places : List Location} {fs fs' : Files} {p : Path} {l : Location}

namespace Alike

theorem locate (h : fs.Alike places fs') : fs'.locate p = .ok l ↔ fs.locate p = .ok l :=
  h.ways.locate h.here

theorem locateLink (h : fs.Alike places fs') : fs'.locateLink p = .ok l ↔ fs.locateLink p = .ok l := by
  rw [locateLink_eq_ok_iff, locateLink_eq_ok_iff, start_congr h.here]
  exact ⟨Leads.of_sameWays h.ways.symm, Leads.of_sameWays h.ways⟩

theorem directory (h : fs.Alike places fs') : fs'.find? l = some .directory ↔ fs.find? l = some .directory :=
  (h.ways.find?_eq rfl).symm

theorem isDirectory (h : fs.Alike places fs') (p : Path) : fs'.isDirectory p = fs.isDirectory p := by
  have hstatus {fs : Files} : fs.isDirectory p = true ↔
      ∃ l, fs.locate p = .ok l ∧ fs.find? l = some .directory := by
    rw [Files.isDirectory, status?]
    cases fs.locate p <;> simp
  rw [Bool.eq_iff_iff, hstatus, hstatus]
  exact exists_congr fun l => and_congr h.locate h.directory

/-! ## Files that are put -/

/-- A file is put at one location on both sides. -/
theorem insert (h : fs.Alike places fs') (hl : fs.way? l = none) {e : Entry} (he : e.isWay = false) :
    (fs.insert l e).Alike places (fs'.insert l e) := by
  have hne : l ≠ [] := by
    rintro rfl
    cases hl
  have hl' : fs'.way? l = none := (h.ways l).symm.trans hl
  refine ⟨h.here, fun l' => ?_, fun l' hplace => ?_⟩
  · exact ((sameWays_insert hl he) l').symm.trans ((h.ways l').trans ((sameWays_insert hl' he) l'))
  · by_cases heq : l' = l
    · rw [heq, find?_insert_self fs hne, find?_insert_self fs' hne]
    · rw [find?_insert_of_ne fs heq, find?_insert_of_ne fs' heq]
      exact h.same l' hplace

theorem symm (h : fs.Alike places fs') : fs'.Alike places fs :=
  ⟨h.here.symm, h.ways.symm, fun l hl => (h.same l hl).symm⟩

end Alike

end Stopwatch.Files

/-
  A file that is written, read and removed.

  A file is written where its path leads to, which is where it is read again, since walks
  do not look at files.  What is removed is the entry of the path itself; after that the
  path leads to nothing.
-/
import Stopwatch.Proofs.Files.Walk

namespace Stopwatch.Files

variable {fs : Files} {p : Path} {l own : Location}

/-- A location where a file stands or can be made. -/
def IsPlace (fs : Files) (l : Location) : Prop :=
  ∀ e, fs.find? l = some e → ∃ bytes executable, e = .file bytes executable

theorem IsPlace.way?_eq_none (h : fs.IsPlace l) : fs.way? l = none := by
  rw [way?, Option.filter_eq_none_iff]
  intro e he
  obtain ⟨bytes, executable, rfl⟩ := h e he
  exact Bool.false_ne_true

theorem IsPlace.ne_nil (h : fs.IsPlace l) : l ≠ [] := by
  rintro rfl
  obtain ⟨bytes, executable, heq⟩ := h .directory rfl
  cases heq

/-! ## What changes do -/

/-- A new entry stands where its path leads to. -/
theorem make_eq_ok {fs' : Files} {e : Entry} (h : fs.make p e = .ok fs') :
    ∃ l, fs.locateLink p = .ok l ∧ fs.find? l = none ∧ fs' = fs.insert l e := by
  rw [make] at h
  cases hlocate : fs.locateLink p with
  | error fault =>
    rw [hlocate] at h
    cases h
  | ok l =>
    rw [hlocate] at h
    cases hfound : fs.find? l with
    | some e' =>
      simp only [bind, Except.bind, hfound] at h
      cases h
    | none =>
      simp only [bind, Except.bind, hfound] at h
      exact ⟨l, rfl, hfound, (Except.ok.inj h).symm⟩

/-- What a write does. -/
theorem write_eq (fs : Files) (p : Path) (change : List UInt8 → List UInt8) :
    fs.write p change = match fs.locate p with
      | .error fault => .error fault
      | .ok l =>
        match fs.find? l with
        | some (.file bytes executable) => .ok (fs.insert l (.file (change bytes) executable))
        | some .directory => .error .isDirectory
        | some _ => .ok fs
        | none => .ok (fs.insert l (.file (change []) false)) := by
  rw [write]
  cases fs.locate p <;> rfl

/-- A write puts a file where its path leads to, unless that is a pipe. -/
theorem write_inv {fs' : Files} {change : List UInt8 → List UInt8} (h : fs.write p change = .ok fs') :
    fs' = fs ∨ ∃ l bytes executable, fs.locate p = .ok l ∧ fs.IsPlace l ∧
      fs' = fs.insert l (.file bytes executable) := by
  rw [write] at h
  cases hlocate : fs.locate p with
  | error fault =>
    rw [hlocate] at h
    cases h
  | ok l =>
    rw [hlocate] at h
    simp only [bind, Except.bind] at h
    cases hfound : fs.find? l with
    | none =>
      simp only [hfound] at h
      refine Or.inr ⟨l, _, _, rfl, ?_, (Except.ok.inj h).symm⟩
      intro e he
      rw [hfound] at he
      cases he
    | some e =>
      cases e with
      | file bytes executable =>
        simp only [hfound] at h
        refine Or.inr ⟨l, _, _, rfl, ?_, (Except.ok.inj h).symm⟩
        intro e he
        rw [hfound] at he
        cases he
        exact ⟨_, _, rfl⟩
      | directory =>
        simp only [hfound] at h
        cases h
      | link target =>
        simp only [hfound] at h
        exact Or.inl (Except.ok.inj h).symm
      | pipe =>
        simp only [hfound] at h
        exact Or.inl (Except.ok.inj h).symm

/-- What is removed stood at the location of the path itself, and was no directory. -/
theorem remove_inv {fs' : Files} (h : fs.remove p = .ok fs') :
    ∃ own e, fs.locateLink p = .ok own ∧ fs.find? own = some e ∧ e ≠ .directory ∧ fs' = fs.erase own := by
  rw [remove] at h
  cases hlocate : fs.locateLink p with
  | error fault =>
    rw [hlocate] at h
    cases h
  | ok own =>
    rw [hlocate] at h
    simp only [bind, Except.bind] at h
    cases hfound : fs.find? own with
    | none =>
      simp only [hfound] at h
      cases h
    | some e =>
      cases e with
      | directory =>
        simp only [hfound] at h
        cases h
      | file bytes executable =>
        simp only [hfound] at h
        exact ⟨own, _, rfl, hfound, Entry.noConfusion, (Except.ok.inj h).symm⟩
      | link target =>
        simp only [hfound] at h
        exact ⟨own, _, rfl, hfound, Entry.noConfusion, (Except.ok.inj h).symm⟩
      | pipe =>
        simp only [hfound] at h
        exact ⟨own, _, rfl, hfound, Entry.noConfusion, (Except.ok.inj h).symm⟩

/-- Whether a file may be executed is part of its entry. -/
theorem setExecutable_inv (fs : Files) (p : Path) (executable : Bool) :
    fs.setExecutable p executable = fs ∨ ∃ l bytes, fs.locate p = .ok l ∧ fs.IsPlace l ∧
      fs.setExecutable p executable = fs.insert l (.file bytes executable) := by
  rw [setExecutable]
  split
  · exact Or.inl rfl
  · rename_i l hlocate
    split
    · rename_i bytes executable' hfound
      refine Or.inr ⟨l, bytes, hlocate, ?_, rfl⟩
      intro e he
      rw [hfound] at he
      cases he
      exact ⟨_, _, rfl⟩
    · exact Or.inl rfl

/-- A file is written where its path leads to. -/
theorem write_eq_ok (hlocate : fs.locate p = .ok l) (hplace : fs.IsPlace l) (bytes : List UInt8) :
    ∃ executable, (fs.write p fun _ => bytes) = .ok (fs.insert l (.file bytes executable)) := by
  rw [write, hlocate]
  simp only [bind, Except.bind]
  cases hfound : fs.find? l with
  | none => exact ⟨false, rfl⟩
  | some e =>
    obtain ⟨old, executable, rfl⟩ := hplace e hfound
    exact ⟨executable, rfl⟩

/-- Once a file is written, its path leads where it led before. -/
theorem locate_insert (hlocate : fs.locate p = .ok l) (hplace : fs.IsPlace l) (bytes : List UInt8)
    (executable : Bool) : (fs.insert l (.file bytes executable)).locate p = .ok l := by
  rw [locate_eq_ok_iff] at hlocate ⊢
  exact hlocate.of_sameWays (sameWays_insert hplace.way?_eq_none rfl)

/-- The location of a path itself is what it was before a file was written. -/
theorem locateLink_insert (hplace : fs.IsPlace l) {bytes : List UInt8} {executable : Bool} :
    (fs.insert l (.file bytes executable)).locateLink p = .ok own ↔ fs.locateLink p = .ok own := by
  have hways : SameWays fs (fs.insert l (.file bytes executable)) :=
    sameWays_insert hplace.way?_eq_none rfl
  rw [locateLink_eq_ok_iff, locateLink_eq_ok_iff]
  exact ⟨Leads.of_sameWays hways.symm, Leads.of_sameWays hways⟩

/-- What a path leads to stands at its own location, if no link stands there. -/
theorem status?_of_linkStatus? {e : Entry} (h : fs.linkStatus? p = some e) (hlink : ∀ target, e ≠ .link target) :
    fs.status? p = some e := by
  rw [linkStatus?] at h
  split at h
  · rename_i own hown
    have hlocate : fs.locate p = .ok own := by
      refine locate_eq_ok_iff.mpr ((locateLink_eq_ok_iff.mp hown).of_own fun target htarget => ?_)
      exact hlink target (Option.some.inj (h.symm.trans htarget))
    rw [status?, hlocate]
    exact h
  · cases h

/-- A path that leads to something has an entry of its own. -/
theorem exists_linkStatus? (h : fs.exists? p = true) :
    ∃ own e, fs.locateLink p = .ok own ∧ fs.find? own = some e ∧ fs.linkStatus? p = some e := by
  obtain ⟨e, he⟩ := Option.isSome_iff_exists.mp h
  rw [status?] at he
  split at he
  · rename_i l hlocate
    obtain ⟨own, hown, hend⟩ := (locate_eq_ok_iff.mp hlocate).exists_own
    have hlink : fs.locateLink p = .ok own := locateLink_eq_ok_iff.mpr hown
    obtain ⟨e', hfound⟩ : ∃ e', fs.find? own = some e' := by
      rcases hend with rfl | ⟨target, -, htarget, -⟩
      · exact ⟨e, he⟩
      · exact ⟨_, htarget⟩
    refine ⟨own, e', hlink, hfound, ?_⟩
    rw [linkStatus?, hlink]
    exact hfound
  · cases he

/-- A path that leads to something can be removed unless it is that of a directory, and leads to nothing
afterwards. -/
theorem remove_of_exists (h : fs.exists? p = true) (hother : fs.linkStatus? p ≠ some .directory) :
    ∃ own, fs.locateLink p = .ok own ∧ fs.remove p = .ok (fs.erase own) ∧ (fs.erase own).exists? p = false := by
  obtain ⟨own, e, hlink, hfound, hstatus⟩ := exists_linkStatus? h
  have he : e ≠ .directory := fun heq => hother (heq ▸ hstatus)
  have hne : own ≠ [] := by
    rintro rfl
    exact he (Option.some.inj hfound.symm)
  refine ⟨own, hlink, ?_, ?_⟩
  · rw [remove, hlink]
    simp only [bind, Except.bind, hfound]
  · rw [exists?, status?]
    split
    · rename_i l' hl'
      rw [(locateLink_eq_ok_iff.mp hlink).eq_of_erase (locate_eq_ok_iff.mp hl'), find?_erase_self fs hne]
      rfl
    · rfl

/-- The path of a directory cannot be removed. -/
theorem remove_directory (h : fs.linkStatus? p = some .directory) : fs.remove p = .error .isDirectory := by
  rw [linkStatus?] at h
  split at h
  · rename_i own hown
    rw [remove, hown]
    simp only [bind, Except.bind, h]
  · cases h

/-- A path that leads to a file can be removed, and leads to nothing afterwards. -/
theorem remove_eq_ok (hlocate : fs.locate p = .ok l)
    {bytes : List UInt8} {executable : Bool} (hfile : fs.find? l = some (.file bytes executable)) :
    ∃ own, fs.locateLink p = .ok own ∧ fs.remove p = .ok (fs.erase own) ∧
      (fs.erase own).exists? p = false := by
  have hstatus : fs.status? p = some (.file bytes executable) := by
    rw [status?, hlocate]
    exact hfile
  refine remove_of_exists (by rw [exists?, hstatus]; rfl) fun hdirectory => ?_
  rw [status?_of_linkStatus? hdirectory fun _ => Entry.noConfusion] at hstatus
  cases hstatus

/-! ## Several changes of one file -/

theorem insert_insert (fs : Files) (l : Location) (e e' : Entry) : (fs.insert l e).insert l e' = fs.insert l e' := by
  simp [insert, erase]

/-- A path where bytes can be written: it leads somewhere, and to no directory. -/
def Takes (fs : Files) (p : Path) : Prop :=
  ∃ l, fs.locate p = .ok l ∧ fs.find? l ≠ some .directory

/-- Whether a write succeeds does not depend on what is written. -/
theorem takes_iff (change : List UInt8 → List UInt8) : fs.Takes p ↔ ∃ fs', fs.write p change = .ok fs' := by
  rw [Takes, write_eq]
  cases hlocate : fs.locate p with
  | error fault => simp
  | ok l =>
    cases hfound : fs.find? l with
    | none => simp [hfound]
    | some e => cases e <;> simp [hfound]

/-- A second write of the same file comes to the same as one write of both changes. -/
theorem write_write {fs' : Files} {change change' : List UInt8 → List UInt8} (h : fs.write p change = .ok fs') :
    fs'.write p change' = fs.write p (change' ∘ change) := by
  have hput (l : Location) (bytes : List UInt8) (executable : Bool) (hlocate : fs.locate p = .ok l)
      (hplace : fs.IsPlace l) : (fs.insert l (.file bytes executable)).write p change' =
        .ok (fs.insert l (.file (change' bytes) executable)) := by
    rw [write_eq, locate_insert hlocate hplace]
    dsimp only
    rw [find?_insert_self fs hplace.ne_nil]
    dsimp only
    rw [insert_insert]
  rw [write_eq] at h
  rw [write_eq fs p (change' ∘ change)]
  cases hlocate : fs.locate p with
  | error fault =>
    rw [hlocate] at h
    cases h
  | ok l =>
    rw [hlocate] at h
    dsimp only at h ⊢
    cases hfound : fs.find? l with
    | none =>
      rw [hfound] at h
      cases h
      exact hput l _ _ hlocate fun e he => nomatch hfound.symm.trans he
    | some e =>
      rw [hfound] at h
      cases e with
      | file bytes executable =>
        cases h
        refine hput l _ _ hlocate fun e he => ?_
        obtain rfl := Option.some.inj (hfound.symm.trans he)
        exact ⟨bytes, executable, rfl⟩
      | directory => cases h
      | link target | pipe =>
        cases h
        rw [write_eq, hlocate]
        dsimp only
        rw [hfound]

/-- Where bytes have been written, bytes can be written again. -/
theorem Takes.of_write {fs' : Files} {change : List UInt8 → List UInt8} (h : fs.write p change = .ok fs') :
    fs'.Takes p :=
  (takes_iff id).mpr ⟨fs', (write_write h).trans h⟩

/-! ## Absolute paths -/

/-- An absolute path without double dots leads where the path itself leads. -/
theorem locate_absolute (hbase : fs.IsGrounded fs.workingDirectory) (hp : ".." ∉ p.names)
    (hlocate : fs.locate p = .ok l) : fs.locate (fs.absolute p) = .ok l :=
  locate_eq_ok_iff.mpr ((leads_absolute_iff hbase hp).mpr (locate_eq_ok_iff.mp hlocate))

theorem locateLink_absolute (hbase : fs.IsGrounded fs.workingDirectory) (hp : ".." ∉ p.names) :
    fs.locateLink (fs.absolute p) = .ok own ↔ fs.locateLink p = .ok own := by
  rw [locateLink_eq_ok_iff, locateLink_eq_ok_iff]
  exact leads_absolute_iff hbase hp

end Stopwatch.Files

/-
  What remains under a path.

  A path comes to lead to a directory, and a file comes to stand under it, only where something is
  put: never because something else is removed.  All that a removal brings about is that a path which
  was led on by a link ends where the link was.
-/
import Stopwatch.Proofs.Files.Outside

namespace Stopwatch.Files

variable {fs fs' : Files} {p q : Path} {l l' own gone here : Location} {names : List String}
  {change : List UInt8 → List UInt8}

/-! ## Directories -/

theorem isDirectory_iff : fs.isDirectory p = true ↔ ∃ l, fs.locate p = .ok l ∧ fs.find? l = some .directory := by
  rw [isDirectory, status?, decide_eq_true_iff]
  cases fs.locate p <;> simp

theorem isDirectory_of_erase (h : (fs.erase gone).isDirectory p = true) : fs.isDirectory p = true := by
  obtain ⟨l, hlocate, hfound⟩ := isDirectory_iff.mp h
  refine isDirectory_iff.mpr ⟨l, ?_, fs.find?_of_erase hfound⟩
  rw [locate_eq_ok_iff] at hlocate ⊢
  rcases hlocate.of_erase with ⟨rfl, hne⟩ | hleads
  · rw [find?_erase_self fs hne] at hfound
    cases hfound
  · exact hleads

/-- A path leads to no directory when what it led to has been removed with all below it. -/
theorem not_isDirectory_eraseTree (hlocate : fs.locate p = .ok l) (hl : l ≠ []) :
    (fs.eraseTree l).isDirectory p = false := by
  rw [Bool.eq_false_iff]
  intro h
  obtain ⟨l', hlocate', hfound⟩ := isDirectory_iff.mp h
  have hgone : l <+: l' ∧ l' ≠ [] := by
    rcases (locate_eq_ok_iff.mp hlocate').of_eraseTree with hgone | hleads
    · exact hgone
    · obtain rfl := hleads.unique (locate_eq_ok_iff.mp hlocate)
      exact ⟨List.prefix_refl _, hl⟩
  rw [find?_eraseTree, if_pos hgone] at hfound
  cases hfound

/-- Writing makes no directory. -/
theorem sameWays_of_write (hwrite : fs.write q change = .ok fs') :
    SameWays fs fs' ∧ fs'.workingDirectory = fs.workingDirectory := by
  rcases write_inv hwrite with rfl | ⟨l, bytes, executable, -, hplace, rfl⟩
  · exact ⟨fun _ => rfl, rfl⟩
  · exact ⟨sameWays_insert hplace.way?_eq_none rfl, rfl⟩

theorem IsTree.write (h : fs.IsTree) (hwrite : fs.write q change = .ok fs') : fs'.IsTree := by
  rcases write_inv hwrite with rfl | ⟨l, bytes, executable, hlocate, hplace, rfl⟩
  · exact h
  · exact h.insert (h.put_file hlocate hplace bytes executable)

theorem isDirectory_of_write (hwrite : fs.write q change = .ok fs') (h : fs'.isDirectory p = true) :
    fs.isDirectory p = true := by
  obtain ⟨hways, hhere⟩ := sameWays_of_write hwrite
  obtain ⟨l, hlocate, hfound⟩ := isDirectory_iff.mp h
  exact isDirectory_iff.mpr ⟨l, (hways.locate hhere).mp hlocate, (hways.find?_eq rfl).mpr hfound⟩

/-! ## Bytes that are written -/

/-- A regular file stays one when something is written, and may be executed as before. -/
theorem find?_file_of_write {bytes : List UInt8} {executable : Bool} (hwrite : fs.write q change = .ok fs')
    (h : fs.find? l = some (.file bytes executable)) : ∃ bytes', fs'.find? l = some (.file bytes' executable) := by
  have hne : l ≠ [] := by
    rintro rfl
    cases h
  rw [write_eq] at hwrite
  cases htarget : fs.locate q with
  | error fault =>
    rw [htarget] at hwrite
    cases hwrite
  | ok l' =>
    rw [htarget] at hwrite
    by_cases hsame : l = l'
    · -- the file itself is written, and keeps its right
      subst hsame
      simp only [h, Except.ok.injEq] at hwrite
      exact ⟨change bytes, by rw [← hwrite, find?_insert_self fs hne]⟩
    · refine ⟨bytes, ?_⟩
      cases hother : fs.find? l' with
      | none =>
        simp only [hother, Except.ok.injEq] at hwrite
        rw [← hwrite, find?_insert_of_ne fs hsame, h]
      | some e =>
        cases e with
        | file bytes' executable =>
          simp only [hother, Except.ok.injEq] at hwrite
          rw [← hwrite, find?_insert_of_ne fs hsame, h]
        | directory =>
          simp only [hother] at hwrite
          cases hwrite
        | link target =>
          simp only [hother, Except.ok.injEq] at hwrite
          rw [← hwrite, h]
        | pipe =>
          simp only [hother, Except.ok.injEq] at hwrite
          rw [← hwrite, h]

theorem isFile_iff :
    fs.isFile p = true ↔ ∃ l bytes executable, fs.locate p = .ok l ∧ fs.find? l = some (.file bytes executable) := by
  rw [isFile, status?]
  cases fs.locate p with
  | error fault => simp
  | ok l =>
    cases hfound : fs.find? l with
    | none => simp [hfound]
    | some e =>
      cases e with
      | file bytes executable => exact iff_of_true (by simp [hfound]) ⟨l, bytes, executable, rfl, hfound⟩
      | directory => simp [hfound]
      | link target => simp [hfound]
      | pipe => simp [hfound]

theorem exists_iff : fs.exists? p = true ↔ ∃ l e, fs.locate p = .ok l ∧ fs.find? l = some e := by
  rw [Files.exists?, Option.isSome_iff_exists, status?]
  cases fs.locate p with
  | error fault => simp
  | ok l => simp

/-- Files after nothing else than writing: directories and links are the same, and regular files still
stand where they stood. -/
structure Overwrites (fs fs' : Files) : Prop where
  ways : SameWays fs fs'
  here : fs'.workingDirectory = fs.workingDirectory
  files : ∀ l bytes executable, fs.find? l = some (.file bytes executable) →
    ∃ bytes', fs'.find? l = some (.file bytes' executable)

namespace Overwrites

variable {fs'' : Files}

theorem refl (fs : Files) : fs.Overwrites fs :=
  ⟨fun _ => rfl, rfl, fun _ bytes _ h => ⟨bytes, h⟩⟩

theorem trans (h : fs.Overwrites fs') (h' : fs'.Overwrites fs'') : fs.Overwrites fs'' where
  ways l := (h.ways l).trans (h'.ways l)
  here := h'.here.trans h.here
  files l bytes executable hfile := by
    obtain ⟨bytes', hfile'⟩ := h.files l bytes executable hfile
    exact h'.files l bytes' executable hfile'

theorem of_write (hwrite : fs.write q change = .ok fs') : fs.Overwrites fs' :=
  ⟨(sameWays_of_write hwrite).1, (sameWays_of_write hwrite).2, fun _ _ _ => find?_file_of_write hwrite⟩

theorem locate (h : fs.Overwrites fs') : fs'.locate p = .ok l ↔ fs.locate p = .ok l :=
  h.ways.locate h.here

theorem isFile (h : fs.Overwrites fs') (hfile : fs.isFile p = true) : fs'.isFile p = true := by
  obtain ⟨l, bytes, executable, hlocate, hfound⟩ := isFile_iff.mp hfile
  obtain ⟨bytes', hfound'⟩ := h.files l bytes executable hfound
  exact isFile_iff.mpr ⟨l, bytes', executable, h.locate.mpr hlocate, hfound'⟩

theorem isDirectory (h : fs.Overwrites fs') : fs'.isDirectory p = true ↔ fs.isDirectory p = true := by
  rw [isDirectory_iff, isDirectory_iff]
  exact exists_congr fun l => and_congr h.locate (h.ways.find?_eq rfl).symm

end Overwrites

/-! ## Files -/

/-- Something that is no directory stands at the path itself: a file, a link, or a pipe. -/
def HasFile (fs : Files) (p : Path) : Prop :=
  ∃ l e, fs.locateLink p = .ok l ∧ fs.find? l = some e ∧ e ≠ .directory

theorem locateLink_of_erase (h : (fs.erase gone).locateLink p = .ok l) : fs.locateLink p = .ok l :=
  locateLink_eq_ok_iff.mpr (locateLink_eq_ok_iff.mp h).own_of_erase

theorem HasFile.of_erase (h : (fs.erase gone).HasFile p) : fs.HasFile p := by
  obtain ⟨l, e, hlocate, hfound, he⟩ := h
  exact ⟨l, e, locateLink_of_erase hlocate, fs.find?_of_erase hfound, he⟩

/-- Removing the entry of a path leaves no file there. -/
theorem not_hasFile_erase (hown : fs.locateLink p = .ok own) : ¬(fs.erase own).HasFile p := by
  rintro ⟨l, e, hlocate, hfound, he⟩
  obtain rfl := Except.ok.inj (hown.symm.trans (locateLink_of_erase hlocate))
  by_cases hnil : own = []
  · rw [hnil] at hfound
    exact he (Option.some.inj hfound).symm
  · rw [find?_erase_self fs hnil] at hfound
    cases hfound

/-- Writing brings a file under a path only where the path itself is written to. -/
theorem HasFile.of_write (hwrite : fs.write q change = .ok fs') (h : fs'.HasFile p) :
    fs.HasFile p ∨ ∃ l, fs.locate q = .ok l ∧ fs.locateLink p = .ok l := by
  obtain ⟨hways, hhere⟩ := sameWays_of_write hwrite
  obtain ⟨l, e, hlocate, hfound, he⟩ := h
  have hown : fs.locateLink p = .ok l := by
    rw [locateLink_eq_ok_iff] at hlocate ⊢
    rw [start_congr hhere] at hlocate
    exact hlocate.of_sameWays hways.symm
  rcases write_inv hwrite with rfl | ⟨l', bytes, executable, hlocate', -, rfl⟩
  · exact Or.inl ⟨l, e, hown, hfound, he⟩
  · by_cases heq : l = l'
    · exact Or.inr ⟨l', hlocate', heq ▸ hown⟩
    · rw [find?_insert_of_ne _ heq] at hfound
      exact Or.inl ⟨l, e, hown, hfound, he⟩

/-! ## Where links may lead -/

/-- Where names lead to, or would lead to if some of the links at their end were removed: the location
of the path itself, and those of the targets of the links that stand there. -/
inductive MayLead (fs : Files) : Location → List String → Location → Prop
  | own {links : Nat} {here l : Location} {names : List String} (h : Leads fs false links here names l) :
      MayLead fs here names l
  | next {links : Nat} {here own l : Location} {names : List String} {target : String}
      (h : Leads fs false links here names own) (hlink : fs.find? own = some (.link target))
      (hnext : MayLead fs (if (Path.ofText target).isAbsolute then [] else own.dropLast) (Path.ofText target).names l) :
      MayLead fs here names l

/-- Where the last names of a path may lead to, the path may lead to. -/
theorem MayLead.prepend {here' : Location} {names' : List String} (h : MayLead fs here' names' l)
    (hfirst : ∀ links own, Leads fs false links here' names' own → ∃ links', Leads fs false links' here names own) :
    MayLead fs here names l := by
  cases h with
  | own h =>
    obtain ⟨_, hown⟩ := hfirst _ _ h
    exact .own hown
  | next h hlink hnext =>
    obtain ⟨_, hown⟩ := hfirst _ _ h
    exact .next hown hlink hnext

theorem Leads.mayLead {follow : Bool} {links : Nat} (h : Leads fs follow links here names l) : MayLead fs here names l := by
  induction h with
  | @done links here => exact .own (Leads.done : Leads fs false links here [] here)
  | up hdirectory h ih => exact ih.prepend fun links own hown => ⟨links, .up hdirectory hown⟩
  | into hdirectory hname hlink h ih => exact ih.prepend fun links own hown => ⟨links, .into hdirectory hname hlink hown⟩
  | @kept links here name target hdirectory hname hlink =>
    have hown : Leads fs false links here [name] (here ++ [name]) := .kept hdirectory hname hlink rfl
    exact .own hown
  | @through links here l name target rest hdirectory hname hlink hfollow h ih =>
    by_cases hrest : rest = []
    · subst hrest
      rw [List.append_nil] at ih
      have hown : Leads fs false links here [name] (here ++ [name]) := .kept hdirectory hname hlink rfl
      refine .next hown hlink ?_
      rw [List.dropLast_concat]
      exact ih
    · exact ih.prepend fun links own hown => ⟨links + 1, .through hdirectory hname hlink (Or.inl hrest) hown⟩

/-- A removal does not let names lead anywhere else. -/
theorem MayLead.of_erase (h : MayLead (fs.erase gone) here names l) : MayLead fs here names l := by
  induction h with
  | own h => exact .own h.own_of_erase
  | next h hlink _ ih => exact .next h.own_of_erase (fs.find?_of_erase hlink) ih

theorem MayLead.of_sameWays (hways : SameWays fs fs') (h : MayLead fs' here names l) : MayLead fs here names l := by
  induction h with
  | own h => exact .own (h.of_sameWays hways.symm)
  | next h hlink _ ih => exact .next (h.of_sameWays hways.symm) ((hways.find?_eq rfl).mpr hlink) ih

/-- Names that lead to a file keep leading there, by the same links, while entries are put. -/
theorem MayLead.of_persists (hpersists : fs.Persists fs') {links : Nat} (hleads : Leads fs true links here names l)
    {e : Entry} (hfound : fs.find? l = some e) (he : e.isWay = false) (h : MayLead fs' here names l') :
    MayLead fs here names l' := by
  have hplain (target : String) : fs'.find? l ≠ some (.link target) := by
    have hthere := hpersists l (by rw [hfound]; exact Option.some_ne_none e)
    intro hlink
    have hway := (way?_eq_some rfl).mpr hlink
    rw [hthere.2, way?, hfound, Option.filter_some, he] at hway
    cases hway
  -- the path itself stays where it is: a link, or the file at the end
  have hown {links : Nat} {here own : Location} {names : List String} (hleads : Leads fs true links here names l)
      {links' : Nat} (h : Leads fs' false links' here names own) :
      Leads fs false links here names own ∧ (own = l ∨ ∃ target links', fs.find? own = some (.link target) ∧
        fs'.find? own = some (.link target) ∧
        Leads fs true links' (if (Path.ofText target).isAbsolute then [] else own.dropLast)
          (Path.ofText target).names l) := by
    obtain ⟨own', hhere, hend⟩ := hleads.exists_own
    have hthere : Leads fs' false links here names own' := by
      refine hhere.of_extends hpersists.extends fun target hlink => ?_
      rcases hend with rfl | ⟨target', _, hlink', -⟩
      · exact absurd hlink (hplain target)
      · have hkept := hpersists.extends _ _ rfl hlink'
        rw [hlink] at hkept
        rw [hlink', hkept]
    obtain rfl := hthere.unique h
    refine ⟨hhere, hend.imp_right ?_⟩
    rintro ⟨target, links', hlink, hnext⟩
    exact ⟨target, links', hlink, hpersists.extends _ _ rfl hlink, hnext⟩
  induction h generalizing links with
  | own h => exact .own (hown hleads h).1
  | next h hlink _ ih =>
    obtain ⟨hhere, hend⟩ := hown hleads h
    rcases hend with rfl | ⟨target, links', hlink', hthere, hnext⟩
    · exact absurd hlink (hplain _)
    · rw [hlink] at hthere
      cases hthere
      exact .next hhere hlink' (ih hnext)

/-- Names that no link mentions do not lead anywhere new: where nothing has such a name, neither names
nor the links at their end lead to one. -/
theorem MayLead.not_new {New : String → Prop} (htree : fs.IsTree) (hlacks : ∀ name, New name → fs.Lacks name)
    (hlinks : ∀ l target, fs.find? l = some (.link target) → ∀ name ∈ (Path.ofText target).names, ¬New name)
    (h : MayLead fs here names l) (hhere : fs.find? here = some .directory) (hnames : ∀ name ∈ names, ¬New name) :
    ∀ name, l.getLast? = some name → ¬New name := by
  -- an entry has no new name
  have hentry {l : Location} {e : Entry} (hfound : fs.find? l = some e) (name : String) (hlast : l.getLast? = some name) :
      ¬New name := fun hnew =>
    (hlacks name hnew).not_mem hfound (List.mem_of_getLast? hlast)
  have habove {l : Location} {e : Entry} (hfound : fs.find? l = some e) : fs.find? l.dropLast = some .directory := by
    by_cases hnil : l = []
    · rw [hnil]
      rfl
    · exact htree.parents l e hnil hfound
  induction h with
  | @own links here l names h =>
    intro name hlast
    rcases List.eq_nil_or_concat names with rfl | ⟨front, last, rfl⟩
    · cases h
      exact hentry hhere name hlast
    · rw [List.concat_eq_append] at h hnames
      obtain ⟨mid, -, hmid, ⟨-, rfl⟩ | ⟨-, rfl⟩⟩ := h.concat_inv
      · exact hentry (habove hmid) name hlast
      · rw [List.getLast?_concat] at hlast
        cases hlast
        exact hnames _ (by simp)
  | @next links here own l names target h hlink hnext ih =>
    refine ih ?_ (hlinks own target hlink)
    split
    · rfl
    · exact habove hlink

/-! ## Losing an entry -/

/-- Nothing has changed, but that an entry that is no directory may be gone. -/
def Loses (fs fs' : Files) : Prop :=
  fs' = fs ∨ ∃ gone, fs.find? gone ≠ some .directory ∧ fs' = fs.erase gone

namespace Loses

variable (h : fs.Loses fs')

include h

theorem isTree (htree : fs.IsTree) : fs'.IsTree := by
  rcases h with rfl | ⟨gone, hgone, rfl⟩
  · exact htree
  · exact htree.erase hgone

theorem workingDirectory_eq : fs'.workingDirectory = fs.workingDirectory := by
  rcases h with rfl | ⟨gone, -, rfl⟩
  · rfl
  · exact workingDirectory_erase fs gone

theorem isDirectory (hthere : fs'.isDirectory p = true) : fs.isDirectory p = true := by
  rcases h with rfl | ⟨gone, -, rfl⟩
  · exact hthere
  · exact isDirectory_of_erase hthere

theorem hasFile (hthere : fs'.HasFile p) : fs.HasFile p := by
  rcases h with rfl | ⟨gone, -, rfl⟩
  · exact hthere
  · exact hthere.of_erase

theorem mayLead (hleads : fs'.MayLead here names l) : fs.MayLead here names l := by
  rcases h with rfl | ⟨gone, -, rfl⟩
  · exact hleads
  · exact hleads.of_erase

end Loses

end Stopwatch.Files

/-
  What copying comes to.

  A file or a directory is copied to a path below a directory, where nothing stands and no link
  is on the way.  First the directories above are made, and then every entry is put under its
  names.  So a pipe is all that cannot be copied: without one the copy is complete, and with one
  the copy is refused and the other entries stay, to be removed by whoever has asked for them.
-/
import Stopwatch.Proofs.Files.Edits
import Stopwatch.Proofs.Files.Placed
import Stopwatch.Proofs.Files.Remains
import Stopwatch.Proofs.Host.Children

namespace Stopwatch

namespace Files

variable {fs fs' fs'' : Files} {base : Path} {b : Location} {front names part : List String}

/-! ## What has been made -/

/-- What stands at a location has stood there before, or it is a new directory, at the end of some names or
above. -/
def KeptOrPaved (b : Location) (names : List String) (fs fs' : Files) (l : Location) : Prop :=
  fs'.find? l = fs.find? l ∨
    fs.find? l = none ∧ fs'.find? l = some .directory ∧ ∃ front, front <+: names ∧ l = b ++ front

theorem KeptOrPaved.mono {l : Location} (h : KeptOrPaved b front fs fs' l) (hfront : front <+: names) :
    KeptOrPaved b names fs fs' l := by
  rcases h with heq | ⟨hnone, hnew, begun, hbegun, heq⟩
  · exact Or.inl heq
  · exact Or.inr ⟨hnone, hnew, begun, hbegun.trans hfront, heq⟩

/-- Some names below a directory that are those of a directory now.  Above it, directories may be new. -/
structure Paves (fs : Files) (base : Path) (b : Location) (names : List String) (fs' : Files) : Prop where
  base : fs'.IsBase base b
  here : fs'.workingDirectory = fs.workingDirectory
  found : fs'.find? (b ++ names) = some .directory
  others : ∀ l, KeptOrPaved b names fs fs' l

/-- What has been put under a part of a directory, without regard to what it is.  Above it, directories may
be new. -/
structure Fills (fs : Files) (base : Path) (b : Location) (part : List String) (fs' : Files) : Prop where
  base : fs'.IsBase base b
  here : fs'.workingDirectory = fs.workingDirectory
  above : fs'.find? (b ++ part.dropLast) = some .directory
  others : ∀ l, ¬b ++ part <+: l → KeptOrPaved b part fs fs' l

theorem Paves.refl (hbase : fs.IsBase base b) (hfound : fs.find? (b ++ names) = some .directory) :
    fs.Paves base b names fs :=
  ⟨hbase, rfl, hfound, fun _ => Or.inl rfl⟩

theorem Paves.trans (h : fs.Paves base b front fs') (hfront : front <+: names) (h' : fs'.Paves base b names fs'') :
    fs.Paves base b names fs'' := by
  refine ⟨h'.base, h'.here.trans h.here, h'.found, fun l => ?_⟩
  rcases h'.others l with heq | ⟨hnone, hnew⟩
  · rw [KeptOrPaved, heq]
    exact (h.others l).mono hfront
  · rcases h.others l with heq | ⟨-, hthere, -⟩
    · exact Or.inr ⟨heq ▸ hnone, hnew⟩
    · rw [hthere] at hnone
      cases hnone

/-- Once the directories above are made, only what lies under the part is changed. -/
theorem Paves.fills (h : fs.Paves base b front fs') (hfront : front <+: part) (hbase : fs''.IsBase base b)
    (hhere : fs''.workingDirectory = fs'.workingDirectory) (habove : fs''.find? (b ++ part.dropLast) = some .directory)
    (hoff : ∀ l, ¬b ++ part <+: l → fs''.find? l = fs'.find? l) : fs.Fills base b part fs'' := by
  refine ⟨hbase, hhere.trans h.here, habove, fun l hl => ?_⟩
  rw [KeptOrPaved, hoff l hl]
  exact (h.others l).mono hfront

/-- Names that are longer than those of the directories that have been made lead to nothing, as before. -/
theorem Paves.absent (h : fs.Paves base b front fs') {rest : List String}
    (hlength : front.length < part.length + rest.length) (hnone : fs.find? (b ++ part ++ rest) = none) :
    fs'.find? (b ++ part ++ rest) = none := by
  rcases h.others (b ++ part ++ rest) with heq | ⟨-, -, begun, hbegun, heq⟩
  · rw [heq]
    exact hnone
  · rw [List.append_assoc] at heq
    have hle := hbegun.length_le
    rw [← List.append_cancel_left heq, List.length_append] at hle
    omega

/-- Once the directories above are made, an entry is put under the part. -/
theorem Paves.fills_insert {e : Entry} (h : fs.Paves base b part.dropLast fs') (hne : part ≠ []) (hup : ".." ∉ part)
    (hnone : fs'.find? (b ++ part) = none) : fs.Fills base b part (fs'.insert (b ++ part) e) := by
  have hput : fs'.Put (b ++ part) e := h.base.put hne hup h.found hnone
  have habove : b ++ part.dropLast ≠ b ++ part := by
    intro heq
    have hfound := h.found
    rw [heq, hnone] at hfound
    cases hfound
  refine h.fills (List.dropLast_prefix part) (h.base.insert hput hnone) rfl ?_ fun l hl => ?_
  · rw [find?_insert_of_ne _ habove]
    exact h.found
  · refine find?_insert_of_ne _ ?_ _
    rintro rfl
    exact hl (List.prefix_refl _)

/-- What the path of an entry leads to is still there when directories have been made. -/
theorem Paves.locate {source : Path} {l : Location} {e : Entry} (h : fs.Paves base b names fs')
    (hlocate : fs.locate source = .ok l) (hl : fs.find? l = some e) :
    fs'.locate source = .ok l ∧ fs'.find? l = some e := by
  have hkept {at_ : Location} {e : Entry} (hfound : fs.find? at_ = some e) : fs'.find? at_ = some e := by
    rcases h.others at_ with heq | ⟨hnone, -⟩
    · rw [heq]
      exact hfound
    · rw [hfound] at hnone
      cases hnone
  refine ⟨?_, hkept hl⟩
  rw [locate_eq_ok_iff] at hlocate ⊢
  rw [start_congr h.here]
  refine hlocate.of_extends (fun at_ e _ hfound => hkept hfound) fun target hlink => ?_
  rw [hkept hl] at hlink
  rw [hl, hlink]

/-- What stood at a location, or below it, has been removed. -/
structure Removes (fs : Files) (at_ : Location) (fs' : Files) : Prop where
  tree : fs'.IsTree
  once : fs'.IsListing
  here : fs'.workingDirectory = fs.workingDirectory
  gone : ∀ names, fs'.find? (at_ ++ names) = none
  others : ∀ l, ¬at_ <+: l → fs'.find? l = fs.find? l

theorem removes_eraseTree {at_ : Location} (htree : fs.IsTree) (honce : fs.IsListing) (hne : at_ ≠ [])
    (hhere : ¬at_ <+: fs.workingDirectory) : fs.Removes at_ (fs.eraseTree at_) := by
  refine ⟨htree.eraseTree hhere, honce.eraseTree at_, rfl, fun names => ?_, fun l hl => ?_⟩
  · rw [find?_eraseTree, if_pos ⟨List.prefix_append at_ names, List.append_ne_nil_of_left_ne_nil hne names⟩]
  · rw [find?_eraseTree, if_neg fun hand => hl hand.1]

/-- A part of a directory that something can be copied to: nothing stands there, and above it there is nothing
but directories. -/
structure IsClear (fs : Files) (b : Location) (part : List String) : Prop where
  ne_nil : part ≠ []
  plain : ".." ∉ part
  above : ∀ front, front <+: part → fs.find? (b ++ front) = none ∨ fs.find? (b ++ front) = some .directory
  absent : ∀ names, fs.find? (b ++ part ++ names) = none

theorem IsClear.missing (h : fs.IsClear b part) : fs.find? (b ++ part) = none := by
  have hnone := h.absent []
  rwa [List.append_nil] at hnone

end Files

namespace Action

open Files

variable {host : Host} {base : Path} {b l : Location} {names part : List String} {mayExist : Bool} {e : Entry}

/-! ## Directories -/

/-- A directory is made where the directory above is there, unless one is there that may be. -/
theorem leaves_makeDirectory_under (hbase : host.files.IsBase base b) (hup : ".." ∉ names)
    (hparent : names ≠ [] → host.files.find? (b ++ names.dropLast) = some .directory)
    (hplace : host.files.find? (b ++ names) = none ∨
      mayExist = true ∧ host.files.find? (b ++ names) = some .directory) :
    Leaves (fun _ => OnlyFiles (host.files.Paves base b names) host) (fun _ _ => False)
      (makeDirectory (base.under names) mayExist) host := by
  rw [Leaves, ends_makeDirectory, Files.makeDirectory]
  rcases hplace with hnone | ⟨hexist, hfound⟩
  · have hne : names ≠ [] := by
      rintro rfl
      rw [List.append_nil, hbase.directory] at hnone
      cases hnone
    have hput : host.files.Put (b ++ names) .directory := hbase.put hne hup (hparent hne) hnone
    rw [hbase.make_under hne hup (hparent hne) hnone]
    refine .ok ⟨_, rfl, hbase.insert hput hnone, rfl, find?_insert_self _ hput.ne_nil _, fun l => ?_⟩
    by_cases heq : l = b ++ names
    · subst heq
      exact Or.inr ⟨hnone, find?_insert_self _ hput.ne_nil _, names, List.prefix_refl names, rfl⟩
    · exact Or.inl (find?_insert_of_ne _ heq _)
  · have hlocate : host.files.locate (base.under names) = .ok (b ++ names) := by
      by_cases hnil : names = []
      · subst hnil
        rw [Path.under, List.append_nil, List.append_nil]
        exact hbase.locate
      · refine hbase.locate_under hnil hup (hparent hnil) fun target hlink => ?_
        rw [hfound] at hlink
        cases hlink
    rw [hbase.make_present hup hparent hfound]
    dsimp only
    rw [hexist, isDirectory_iff.mpr ⟨_, hlocate, hfound⟩]
    exact .ok ⟨host.files, rfl, .refl hbase hfound⟩

/-- Directories are made from above, as far as they are missing. -/
theorem leaves_makeDirectories_go {levels : Nat} (hbase : host.files.IsBase base b) (hup : ".." ∉ names)
    (hclear : ∀ front, front <+: names →
      host.files.find? (b ++ front) = none ∨ host.files.find? (b ++ front) = some .directory)
    (hlevels : names.length ≤ levels) (hexist : mayExist = true ∨ host.files.find? (b ++ names) = none) :
    Leaves (fun _ => OnlyFiles (host.files.Paves base b names) host) (fun _ _ => False)
      (makeDirectories.go levels (base.under names) mayExist) host := by
  -- what the last name may lead to is all that is needed when the directory above is there
  have hplace : host.files.find? (b ++ names) = none ∨
      mayExist = true ∧ host.files.find? (b ++ names) = some .directory := by
    rcases hclear names (List.prefix_refl names) with hnone | hfound
    · exact Or.inl hnone
    · refine hexist.symm.imp_right fun hexist => ⟨hexist, hfound⟩
  induction levels generalizing host names mayExist with
  | zero =>
    have hnil : names = [] := List.length_eq_zero_iff.mp (by omega)
    exact leaves_makeDirectory_under hbase hup (fun hne => absurd hnil hne) hplace
  | succ levels ih =>
    rw [makeDirectories.go]
    refine Leaves.get_bind ?_
    by_cases hparent : names ≠ [] → host.files.find? (b ++ names.dropLast) = some .directory
    · split
      · rename_i hmissing
        exact absurd hmissing (hbase.make_ne_missing hup hparent .directory)
      · exact leaves_makeDirectory_under hbase hup hparent hplace
    · rw [Classical.not_imp] at hparent
      obtain ⟨hne, hparent⟩ := hparent
      have hnone : host.files.find? (b ++ names.dropLast) = none :=
        (hclear names.dropLast (List.dropLast_prefix names)).resolve_right hparent
      have hmake : host.files.makeDirectory (base.under names) = .error .missing :=
        hbase.make_missing hup hclear hnone .directory
      have hshort : names.dropLast.length < names.length := by
        have hpos := List.length_pos_iff.mpr hne
        rw [List.length_dropLast]
        omega
      rw [hmake, Path.parent_under hne]
      -- first all directories above, and then the last one in them
      refine Leaves.bind (ih hbase (fun hmem => hup (List.dropLast_subset names hmem))
        (fun front hfront => hclear front (hfront.trans (List.dropLast_prefix names))) (by omega) (Or.inl rfl)
        (Or.inl hnone)) fun _ h hmade => ?_
      have hpaves := hmade.files
      have hlast : h.files.find? (b ++ names) = none := by
        have hnone : host.files.find? (b ++ names) = none := by
          refine hplace.resolve_right ?_
          rintro ⟨-, hfound⟩
          apply hparent
          rw [← List.dropLast_append_of_ne_nil hne]
          exact hbase.tree.parents _ _ (List.append_ne_nil_of_right_ne_nil b hne) hfound
        rw [← List.append_nil (b ++ names)] at hnone ⊢
        exact hpaves.absent (Nat.lt_of_lt_of_le hshort (Nat.le_add_right _ _)) hnone
      refine (leaves_makeDirectory_under hpaves.base hup (fun _ => hpaves.found) (Or.inl hlast)).mono ?_ fun _ _ h => h
      intro _ _ hlast
      exact hmade.trans (hlast.mono fun _ hpaves' => hpaves.trans (List.dropLast_prefix names) hpaves')

/-- A directory is made together with the directories above it, if nothing else is in the way. -/
theorem leaves_makeDirectories (hbase : host.files.IsBase base b) (hup : ".." ∉ names)
    (hclear : ∀ front, front <+: names →
      host.files.find? (b ++ front) = none ∨ host.files.find? (b ++ front) = some .directory)
    (hexist : mayExist = true ∨ host.files.find? (b ++ names) = none) :
    Leaves (fun _ => OnlyFiles (host.files.Paves base b names) host) (fun _ _ => False)
      (makeDirectories (base.under names) mayExist) host :=
  leaves_makeDirectories_go hbase hup hclear (by simp [Path.under]) hexist

/-! ## Single entries -/

section Single

variable (hbase : host.files.IsBase base b) (hne : names ≠ []) (hup : ".." ∉ names)
  (hparent : host.files.find? (b ++ names.dropLast) = some .directory)
  (hnone : host.files.find? (b ++ names) = none)

include hbase hne hup hparent hnone

theorem putFile_under (bytes : List UInt8) (executable : Bool) :
    putFile (base.under names) bytes executable host =
      (.ok (), { host with files := host.files.insert (b ++ names) (.file bytes executable) }) := by
  have hnil : b ++ names ≠ [] := List.append_ne_nil_of_right_ne_nil b hne
  have hlocate : host.files.locate (base.under names) = .ok (b ++ names) := by
    refine hbase.locate_under hne hup hparent fun target hlink => ?_
    rw [hnone] at hlink
    cases hlink
  have hplace : host.files.IsPlace (b ++ names) := by
    intro e he
    rw [hnone] at he
    cases he
  have hwrite : (host.files.write (base.under names) fun _ => bytes) =
      .ok (host.files.insert (b ++ names) (.file bytes false)) := by
    rw [write_eq, hlocate]
    dsimp only
    rw [hnone]
  have hright : (host.files.insert (b ++ names) (.file bytes false)).setExecutable (base.under names) executable =
      host.files.insert (b ++ names) (.file bytes executable) := by
    rw [setExecutable, locate_insert hlocate hplace]
    dsimp only
    rw [find?_insert_self _ hnil]
    dsimp only
    rw [insert_insert]
  suffices h : Ends (putFile (base.under names) bytes executable) host fun r h =>
      (r, h) = (.ok (), { host with files := host.files.insert (b ++ names) (.file bytes executable) }) from h
  rw [putFile, ends_bind, ends_changeFiles, hwrite]
  dsimp only
  rw [ends_modify]
  dsimp only
  rw [hright]

/-- An entry is put as it is, unless it is a pipe. -/
theorem copyEntry_under (source : String) (e : Entry) :
    copyEntry source e (base.under names) host =
      (if e = .pipe then .error (.system (.namedPipe source)) else .ok (),
        { host with files := if e = .pipe then host.files else host.files.insert (b ++ names) e }) := by
  cases e with
  | file bytes executable => exact putFile_under hbase hne hup hparent hnone bytes executable
  | directory =>
    have hmake := hbase.make_under hne hup hparent hnone .directory
    suffices h : Ends (copyEntry source .directory (base.under names)) host fun r h =>
        (r, h) = (.ok (), { host with files := host.files.insert (b ++ names) .directory }) from h
    rw [copyEntry, ends_changeFiles, Files.makeDirectory, hmake]
  | link target =>
    have hmake := hbase.make_under hne hup hparent hnone (.link target)
    suffices h : Ends (copyEntry source (.link target) (base.under names)) host fun r h =>
        (r, h) = (.ok (), { host with files := host.files.insert (b ++ names) (.link target) }) from h
    rw [copyEntry, ends_bind, ends_get]
    dsimp only
    rw [Files.makeLink, hmake]
    dsimp only
    rw [ends_modify]
  | pipe => rfl

end Single

/-! ## Several entries -/

/-- What is told of the pipes among some entries. -/
def pipeFaults (source destination : Path) (entries : List (List String × Entry)) : List (String × String × String) :=
  (entries.filter fun x => x.2 = .pipe).map fun x =>
    (textBelow source x.1, textBelow destination x.1, (Failure.system (.namedPipe (textBelow source x.1))).message)

/-- All entries are put one after the other, but for the pipes. -/
theorem copyEntries_under {entries : List (List String × Entry)} (hbase : host.files.IsBase base b)
    (hup : ".." ∉ part) (hawaits : host.files.Awaits (b ++ part) entries) (source : Path) :
    copyEntries source (base.under part) entries host =
      (.ok (pipeFaults source (base.under part) entries),
        { host with files := host.files.placeAll (b ++ part) entries }) := by
  induction entries generalizing host with
  | nil => rfl
  | cons x rest ih =>
    obtain ⟨names, e⟩ := x
    -- the directory above an entry comes before it, so the first entry has one
    have hne := hawaits.ne_nil _ List.mem_cons_self
    have hnone := hawaits.absent _ List.mem_cons_self
    have hparent := hawaits.parent
    rw [List.append_assoc] at hnone hparent
    rw [← List.dropLast_append_of_ne_nil hne] at hparent
    have hplain : ".." ∉ part ++ names := by
      rw [List.mem_append, not_or]
      exact ⟨hup, hawaits.plain _ List.mem_cons_self⟩
    have hunder : (⟨(base.under part).anchor, (base.under part).names ++ names⟩ : Path) =
        base.under (part ++ names) := by
      rw [Path.under, Path.under, List.append_assoc]
    have hcopy := copyEntry_under hbase (List.append_ne_nil_of_right_ne_nil part hne) hplain hparent hnone
      (textBelow source names) e
    have hplaced : (if e = .pipe then host.files else host.files.insert (b ++ (part ++ names)) e) =
        host.files.place (b ++ part) (names, e) := by
      rw [place, List.append_assoc]
    rw [hplaced] at hcopy
    have hrest : copyEntries source (base.under part) rest
        { host with files := host.files.place (b ++ part) (names, e) } = _ :=
      ih (hawaits.isBase_place hbase hup) hawaits.step
    suffices h : Ends (copyEntries source (base.under part) ((names, e) :: rest)) host fun r h => (r, h) =
        (.ok (pipeFaults source (base.under part) ((names, e) :: rest)),
          { host with files := host.files.placeAll (b ++ part) ((names, e) :: rest) }) from h
    rw [copyEntries, hunder, ends_bind, ends_attempt, Ends, hcopy]
    by_cases hpipe : e = .pipe
    · rw [if_pos hpipe]
      dsimp only
      rw [ends_bind, Ends, hrest]
      dsimp only
      rw [ends_pure, pipeFaults, pipeFaults, List.filter_cons_of_pos (by simpa using hpipe)]
      rfl
    · rw [if_neg hpipe]
      dsimp only
      rw [Ends, hrest, pipeFaults, pipeFaults, List.filter_cons_of_neg (by simpa using hpipe)]
      rfl

theorem pipeFaults_eq_nil {source destination : Path} {files : Files} (htree : files.IsTree)
    (hl : files.find? l = some .directory) :
    pipeFaults source destination (files.below l) = [] ↔ files.hasPipe l = false := by
  rw [pipeFaults, List.map_eq_nil_iff, List.filter_eq_nil_iff, ← Bool.not_eq_true, hasPipe_iff htree, not_exists]
  constructor
  · intro hnone names hfound
    by_cases hnil : names = []
    · rw [hnil, List.append_nil, hl] at hfound
      cases hfound
    · exact hnone (names, .pipe) ((mem_below htree).mpr ⟨hnil, hfound⟩) (by simp)
  · intro hnone x hx hpipe
    have hfound := ((mem_below htree).mp hx).2
    rw [of_decide_eq_true hpipe] at hfound
    exact hnone x.1 hfound

/-! ## Copies -/

/-- A copy that is complete: what stands under the part is what stands at the location that is copied. -/
structure IsWhole (l b : Location) (part : List String) (fs fs' : Files) : Prop where
  plain : fs.hasPipe l = false
  found : ∀ names, fs'.find? (b ++ part ++ names) = fs.find? (l ++ names)

/-- A copy that has been refused because of a pipe.  What there is of it is a directory. -/
structure IsBroken (l b : Location) (part : List String) (fs fs' : Files) : Prop where
  pipe : fs.hasPipe l = true
  found : fs'.find? (b ++ part) = some .directory ∨ ∀ names, fs'.find? (b ++ part ++ names) = none

/-- A copy comes to an end: it is complete, or it has failed because of a pipe. -/
def Copies (host : Host) (l : Location) (base : Path) (b : Location) (part : List String) (a : Action Unit) : Prop :=
  Leaves (fun _ => OnlyFiles (fun fs => host.files.Fills base b part fs ∧ IsWhole l b part host.files fs) host)
    (fun f h => IsSystem f ∧
      OnlyFiles (fun fs => host.files.Fills base b part fs ∧ IsBroken l b part host.files fs) host h) a host

/-- A directory is copied completely, unless there is a pipe in it. -/
theorem copies_tree {source : Path} (hbase : host.files.IsBase base b) (hclear : host.files.IsClear b part)
    (hlocate : host.files.locate source = .ok l) (hl : host.files.find? l = some .directory) :
    Copies host l base b part (copyTree source (base.under part)) := by
  rw [Copies, copyTree]
  refine Leaves.get_bind ?_
  dsimp only
  rw [hlocate, refusing, pure_bind]
  refine Leaves.bind ((leaves_makeDirectories hbase hclear.plain hclear.above (Or.inr hclear.missing)).mono
    (fun _ _ h => h) fun _ _ hfalse => hfalse.elim) fun _ h hmade => ?_
  have hpaves := hmade.files
  -- what is listed has been read before the directories were made
  have hempty : ∀ names, names ≠ [] → h.files.find? (b ++ part ++ names) = none := by
    intro names hne
    have hpos := List.length_pos_iff.mpr hne
    exact hpaves.absent (by omega) (hclear.absent names)
  have hawaits : h.files.Awaits (b ++ part) (host.files.below l) :=
    awaits_below hbase.tree hbase.once hpaves.found hempty
  have hcopy := copyEntries_under hpaves.base hclear.plain hawaits source
  have hfound : (h.files.placeAll (b ++ part) (host.files.below l)).find? (b ++ part) = some .directory := by
    rw [find?_placeAll_of_ne]
    · exact hpaves.found
    · intro x hx heq
      exact ((mem_below hbase.tree).mp hx).1 (List.self_eq_append_right.mp heq)
  have hfills : host.files.Fills base b part (h.files.placeAll (b ++ part) (host.files.below l)) := by
    have hbase' := hawaits.isBase_placeAll hpaves.base hclear.plain
    refine hpaves.fills (List.prefix_refl part) hbase' (workingDirectory_placeAll h.files _ _) ?_ fun l' hl' => ?_
    · rw [← List.dropLast_append_of_ne_nil hclear.ne_nil]
      exact hbase'.tree.parents _ _ (List.append_ne_nil_of_right_ne_nil b hclear.ne_nil) hfound
    · exact find?_placeAll_of_ne fun x hx heq => hl' ⟨x.1, by rw [heq]⟩
  rw [Leaves, ends_bind, Ends, hcopy]
  dsimp only
  split
  · rename_i hnil
    have hpipe := (pipeFaults_eq_nil hbase.tree hl).mp hnil
    have hwhole := find?_placeAll_below hbase.tree hbase.once hl hpipe hpaves.found hempty
    exact .ok (hmade.change ⟨hfills, hpipe, hwhole⟩)
  · rename_i hsome
    refine .error ⟨rfl, hmade.change ⟨hfills, ?_, Or.inl hfound⟩⟩
    rw [← Bool.not_eq_false]
    exact fun hpipe => hsome ((pipeFaults_eq_nil hbase.tree hl).mpr hpipe)

/-- A file is all that there is of it. -/
theorem isWhole_insert {fs fs' : Files} {bytes : List UInt8} {executable : Bool} (htree : fs.IsTree)
    (hl : fs.find? l = some (.file bytes executable)) (hne : b ++ part ≠ [])
    (habsent : ∀ names, fs'.find? (b ++ part ++ names) = none) :
    IsWhole l b part fs (fs'.insert (b ++ part) (.file bytes executable)) := by
  have hbelow (names : List String) (hnames : names ≠ []) : fs.find? (l ++ names) = none :=
    htree.find?_below (by simp [hl]) hnames
  constructor
  · rw [← Bool.not_eq_true, hasPipe_iff htree]
    rintro ⟨names, hpipe⟩
    by_cases hnil : names = []
    · rw [hnil, List.append_nil, hl] at hpipe
      cases hpipe
    · rw [hbelow names hnil] at hpipe
      cases hpipe
  · intro names
    by_cases hnil : names = []
    · rw [hnil, List.append_nil, List.append_nil, hl]
      exact find?_insert_self _ hne _
    · rw [hbelow names hnil, find?_insert_of_ne]
      · exact habsent names
      · intro heq
        exact hnil (List.self_eq_append_right.mp heq.symm)

/-- A file is copied where nothing stands. -/
theorem copyFile_under {source : Path} {bytes : List UInt8} {executable : Bool} (hbase : host.files.IsBase base b)
    (hne : part ≠ []) (hup : ".." ∉ part) (hparent : host.files.find? (b ++ part.dropLast) = some .directory)
    (hnone : host.files.find? (b ++ part) = none) (hlocate : host.files.locate source = .ok l)
    (hl : host.files.find? l = some (.file bytes executable)) :
    copyFile source (base.under part) host =
      (.ok (), { host with files := host.files.insert (b ++ part) (.file bytes executable) }) := by
  have htarget : host.files.status? (base.under part) = none := by
    rw [status?, hbase.locate_under hne hup hparent]
    · exact hnone
    · intro target hlink
      rw [hnone] at hlink
      cases hlink
  have hsource : host.files.status? source = some (.file bytes executable) := by
    rw [status?, hlocate]
    exact hl
  have hread : host.files.read source = .ok bytes := by
    rw [Files.read, hlocate]
    simp only [bind, Except.bind, hl]
  have hput := putFile_under hbase hne hup hparent hnone bytes executable
  suffices h : Ends (copyFile source (base.under part)) host fun r h =>
      (r, h) = (.ok (), { host with files := host.files.insert (b ++ part) (.file bytes executable) }) from h
  have hplace : (if host.files.isDirectory (base.under part) = true then (base.under part).slash source.name
      else base.under part) = base.under part := by
    rw [isDirectory, htarget]
    rfl
  rw [copyFile, ends_bind, ends_get]
  dsimp only
  rw [hplace, refusePipe, hsource, if_neg (by simp), pure_bind, refusePipe, htarget, if_neg (by simp), pure_bind,
    ends_bind, ends_readBytes, hread]
  dsimp only
  rw [isExecutable, hsource, Ends, hput]

section Above

-- the directories above the part have been made
variable {source : Path} {h : Host} (hbase : host.files.IsBase base b) (hclear : host.files.IsClear b part)
  (hmade : OnlyFiles (host.files.Paves base b part.dropLast) host h) (hlocate : host.files.locate source = .ok l)

include hclear hmade

theorem absent_of_paves (names : List String) : h.files.find? (b ++ part ++ names) = none := by
  have hpos := List.length_pos_iff.mpr hclear.ne_nil
  exact hmade.files.absent (by rw [List.length_dropLast]; omega) (hclear.absent names)

include hbase hlocate

/-- Then a file is copied completely. -/
theorem copies_file {bytes : List UInt8} {executable : Bool} (hl : host.files.find? l = some (.file bytes executable)) :
    Leaves (fun _ => OnlyFiles (fun fs => host.files.Fills base b part fs ∧ IsWhole l b part host.files fs) host)
      (fun _ _ => False) (copyFile source (base.under part)) h := by
  have hpaves := hmade.files
  have habsent := absent_of_paves hclear hmade
  have hnone : h.files.find? (b ++ part) = none := by
    have hnone := habsent []
    rwa [List.append_nil] at hnone
  obtain ⟨hlocate', hl'⟩ := hpaves.locate hlocate hl
  have hne : b ++ part ≠ [] := List.append_ne_nil_of_right_ne_nil b hclear.ne_nil
  rw [Leaves, Ends, copyFile_under hpaves.base hclear.ne_nil hclear.plain hpaves.found hnone hlocate' hl']
  exact .ok (hmade.change ⟨hpaves.fills_insert hclear.ne_nil hclear.plain hnone,
    isWhole_insert hbase.tree hl hne habsent⟩)

/-- A pipe is refused, and nothing is put under the part. -/
theorem copies_pipe (hl : host.files.find? l = some .pipe) :
    Leaves (fun _ _ => False) (fun f h => IsSystem f ∧
      OnlyFiles (fun fs => host.files.Fills base b part fs ∧ IsBroken l b part host.files fs) host h)
      (copyFile source (base.under part)) h := by
  have hpaves := hmade.files
  have hpipe : host.files.hasPipe l = true := (hasPipe_iff hbase.tree).mpr ⟨[], by rw [List.append_nil]; exact hl⟩
  have hstatus : h.files.status? source = some .pipe := by
    obtain ⟨hlocate', hl'⟩ := hpaves.locate hlocate hl
    rw [status?, hlocate']
    exact hl'
  rw [copyFile]
  refine Leaves.get_bind ?_
  dsimp only
  rw [refusePipe, if_pos hstatus]
  refine .error ⟨rfl, hmade.trans ⟨h.files, rfl, ?_, hpipe, Or.inr (absent_of_paves hclear hmade)⟩⟩
  exact hpaves.fills (List.dropLast_prefix part) hpaves.base rfl hpaves.found fun _ _ => rfl

end Above

/-- Whatever a path leads to is copied completely, unless there is a pipe. -/
theorem copies_copy {source : Path} (hbase : host.files.IsBase base b) (hclear : host.files.IsClear b part)
    (hlocate : host.files.locate source = .ok l) (hl : host.files.find? l = some e) :
    Copies host l base b part (copy source (base.under part)) := by
  have hstatus : host.files.status? source = some e := by
    rw [status?, hlocate]
    exact hl
  rw [Copies, copy]
  refine Leaves.get_bind ?_
  rw [isDirectory, hstatus]
  by_cases hdirectory : e = .directory
  · subst hdirectory
    rw [if_pos (by simp)]
    exact copies_tree hbase hclear hlocate hl
  rw [if_neg (by simpa using hdirectory), Path.parent_under hclear.ne_nil]
  refine Leaves.bind ((leaves_makeDirectories hbase (fun hmem => hclear.plain (List.dropLast_subset part hmem))
    (fun front hfront => hclear.above front (hfront.trans (List.dropLast_prefix part))) (Or.inl rfl)).mono
    (fun _ _ h => h) fun _ _ hfalse => hfalse.elim) fun _ h hmade => ?_
  cases e with
  | directory => contradiction
  | file bytes executable =>
    exact (copies_file hbase hclear hmade hlocate hl).mono (fun _ _ h => h) fun _ _ hfalse => hfalse.elim
  | pipe => exact (copies_pipe hbase hclear hmade hlocate hl).mono (fun _ _ hfalse => hfalse.elim) fun _ _ h => h
  | link target =>
    -- links are followed
    exact absurd hl (hbase.tree.not_link (locate_eq_ok_iff.mp hlocate) (hbase.tree.directory_start source) target)

/-! ## Taking a copy back -/

/-- What a copy that has failed has left is removed completely, and nothing else is. -/
theorem ends_removeTree_of_broken {fs : Files} (hfills : fs.Fills base b part host.files)
    (hbroken : IsBroken l b part fs host.files) (hne : part ≠ []) (hup : ".." ∉ part) :
    Ends (removeTree (base.under part)) host fun _ => OnlyFiles (host.files.Removes (b ++ part)) host := by
  have hbase := hfills.base
  rw [removeTree, ends_bind, ends_get]
  dsimp only
  rw [hbase.locateLink_under hne hup hfills.above, ends_bind, ends_refusing]
  dsimp only
  rcases hbroken.found with hdirectory | hnone
  · rw [hdirectory]
    dsimp only
    rw [ends_modify]
    refine ⟨_, rfl, removes_eraseTree hbase.tree hbase.once (List.append_ne_nil_of_right_ne_nil b hne) ?_⟩
    exact fun hbegins => hbase.outside ((List.prefix_append b part).trans hbegins)
  · have hmissing := hnone []
    rw [List.append_nil] at hmissing
    rw [hmissing]
    exact ⟨host.files, rfl, hbase.tree, hbase.once, rfl, hnone, fun _ _ => rfl⟩

end Action

end Stopwatch

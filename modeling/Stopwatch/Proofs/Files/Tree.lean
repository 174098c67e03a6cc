/-
  Trees and what is put into them.

  In a tree every entry stands in a directory.  Nearly all changes put a single entry where
  nothing or a file stands; they keep the tree a tree and keep every directory and every
  link, so that a walk that ended before ends at the same location afterwards.
-/
import Mathlib.Data.List.Induction
import Stopwatch.Proofs.Files.Change

namespace Stopwatch.Files

variable {fs fs' : Files}

/-! ## Trees -/

/-- Files in which every entry stands in a directory, under a proper location, and hides no
other entry. -/
structure IsTree (fs : Files) : Prop where
  found : ∀ e ∈ fs.entries, fs.find? e.1 = some e.2
  above : ∀ e ∈ fs.entries, fs.find? e.1.dropLast = some .directory
  plain : ∀ e ∈ fs.entries, ".." ∉ e.1
  here : fs.find? fs.workingDirectory = some .directory

instance (fs : Files) : Decidable fs.IsTree :=
  decidable_of_iff ((∀ e ∈ fs.entries, fs.find? e.1 = some e.2) ∧
      (∀ e ∈ fs.entries, fs.find? e.1.dropLast = some .directory) ∧ (∀ e ∈ fs.entries, ".." ∉ e.1) ∧
      fs.find? fs.workingDirectory = some .directory)
    ⟨fun h => ⟨h.1, h.2.1, h.2.2.1, h.2.2.2⟩, fun h => ⟨h.found, h.above, h.plain, h.here⟩⟩

theorem mem_of_find {l : Location} {e : Entry} (hl : l ≠ []) (hfound : fs.find? l = some e) :
    (l, e) ∈ fs.entries := by
  rw [find?_of_ne_nil fs hl, Option.map_eq_some_iff] at hfound
  obtain ⟨⟨l', e'⟩, hfind, rfl⟩ := hfound
  have heq : l' = l := by simpa using List.find?_some hfind
  exact heq ▸ List.mem_of_find?_eq_some hfind

theorem IsTree.parents (h : fs.IsTree) (l : Location) (e : Entry) (hl : l ≠ [])
    (hfound : fs.find? l = some e) : fs.find? l.dropLast = some .directory :=
  h.above _ (mem_of_find hl hfound)

/-- No double dots stand on the way to an entry. -/
theorem IsTree.not_up (h : fs.IsTree) {l : Location} {e : Entry} (hfound : fs.find? l = some e) :
    ".." ∉ l := by
  by_cases hl : l = []
  · rw [hl]
    exact List.not_mem_nil
  · exact h.plain _ (mem_of_find hl hfound)

/-- All locations above an entry are those of directories. -/
theorem IsTree.directory_of_prefix (h : fs.IsTree) {front l : Location} {e : Entry}
    (hl : fs.find? l = some e) (hfront : front <+: l) (hne : front ≠ l) :
    fs.find? front = some .directory := by
  obtain ⟨rest, rfl⟩ := hfront
  have hrest : rest ≠ [] := fun hnil => hne (by rw [hnil, List.append_nil])
  clear hne
  induction rest using List.reverseRecOn generalizing e with
  | nil => contradiction
  | append_singleton rest name ih =>
    rw [← List.append_assoc] at hl
    have hparent := h.parents _ e (by simp) hl
    rw [List.dropLast_concat] at hparent
    by_cases hnil : rest = []
    · rw [hnil, List.append_nil] at hparent
      exact hparent
    · exact ih hparent hnil

/-- Where nothing stands yet, the directory above is there if names lead there. -/
theorem IsTree.parent_of_leads (h : fs.IsTree) {follow : Bool} {links : Nat} {here l : Location}
    {names : List String} (hleads : Leads fs follow links here names l)
    (hhere : fs.find? here = some .directory) (hl : fs.find? l ≠ some .directory) :
    l ≠ [] ∧ fs.find? l.dropLast = some .directory := by
  induction hleads with
  | done => exact absurd hhere hl
  | @up links here l rest hdirectory hrest ih =>
    refine ih ?_ hl
    by_cases hnil : here = []
    · rw [hnil]
      rfl
    · exact h.parents _ _ hnil hdirectory
  | @into links here l name rest hdirectory hname hlink hrest ih =>
    by_cases hnil : rest = []
    · subst hnil
      cases hrest
      simp [hdirectory]
    · exact ih (hrest.directory_of_ne_nil hnil) hl
  | kept hdirectory hname hlink hfollow => simp [hdirectory]
  | through hdirectory hname hlink hfollow hrest ih =>
    refine ih ?_ hl
    split
    · rfl
    · exact hdirectory

/-- Names lead to proper locations from a proper one. -/
theorem Leads.not_up {follow : Bool} {links : Nat} {here l : Location} {names : List String}
    (h : Leads fs follow links here names l) (hhere : ".." ∉ here) : ".." ∉ l := by
  induction h with
  | done => exact hhere
  | up hdirectory h ih => exact ih fun hmem => hhere (List.dropLast_subset _ hmem)
  | into hdirectory hname hlink h ih =>
    refine ih ?_
    rw [List.mem_append, List.mem_singleton, not_or]
    exact ⟨hhere, Ne.symm hname⟩
  | kept hdirectory hname hlink hfollow =>
    rw [List.mem_append, List.mem_singleton, not_or]
    exact ⟨hhere, Ne.symm hname⟩
  | through hdirectory hname hlink hfollow h ih =>
    refine ih ?_
    split
    · exact List.not_mem_nil
    · exact hhere

/-- A path whose links are all followed does not end at a link. -/
theorem IsTree.not_link (h : fs.IsTree) {links : Nat} {here l : Location} {names : List String}
    (hleads : Leads fs true links here names l) (hhere : fs.find? here = some .directory) (target : String) :
    fs.find? l ≠ some (.link target) := by
  induction hleads with
  | done =>
    rw [hhere]
    exact fun heq => nomatch heq
  | @up links here l rest hdirectory hrest ih =>
    refine ih ?_
    by_cases hnil : here = []
    · rw [hnil]
      rfl
    · exact h.parents _ _ hnil hdirectory
  | @into links here l name rest hdirectory hname hlink hrest ih =>
    by_cases hnil : rest = []
    · subst hnil
      cases hrest
      exact hlink target
    · exact ih (hrest.directory_of_ne_nil hnil)
  | kept _ _ _ hfollow => cases hfollow
  | through hdirectory hname hlink hfollow hrest ih =>
    refine ih ?_
    split
    · rfl
    · exact hdirectory

/-! ## Entries that are put into a tree -/

/-- An entry is put where nothing stands, or a file is put where a file stands. -/
structure Put (fs : Files) (l : Location) (e : Entry) : Prop where
  ne_nil : l ≠ []
  parent : fs.find? l.dropLast = some .directory
  plain : ".." ∉ l
  place : fs.find? l = none ∨ fs.IsPlace l ∧ e.isWay = false

theorem Put.not_directory {l : Location} {e : Entry} (h : fs.Put l e) :
    fs.find? l ≠ some .directory := by
  intro hfound
  rcases h.place with hnone | ⟨hplace, -⟩
  · rw [hfound] at hnone
    cases hnone
  · obtain ⟨bytes, executable, heq⟩ := hplace _ hfound
    cases heq

theorem IsTree.insert (h : fs.IsTree) {l : Location} {e : Entry} (hput : fs.Put l e) :
    (fs.insert l e).IsTree := by
  have hhere : fs.workingDirectory ≠ l := fun heq => hput.not_directory (heq ▸ h.here)
  constructor
  · intro e' he'
    rcases List.mem_cons.mp he' with rfl | he'
    · exact find?_insert_self fs hput.ne_nil e
    · obtain ⟨hmem, hne⟩ := List.mem_filter.mp he'
      rw [find?_insert_of_ne fs (by simpa using hne)]
      exact h.found e' hmem
  · intro e' he'
    rcases List.mem_cons.mp he' with rfl | he'
    · have hne : l.dropLast ≠ l := by
        intro hsame
        have hlength := congrArg List.length hsame
        have hpos := List.length_pos_iff.mpr hput.ne_nil
        rw [List.length_dropLast] at hlength
        omega
      rw [find?_insert_of_ne fs hne]
      exact hput.parent
    · have habove := h.above e' (List.mem_filter.mp he').1
      have hne : e'.1.dropLast ≠ l := fun hsame => hput.not_directory (hsame ▸ habove)
      rw [find?_insert_of_ne fs hne]
      exact habove
  · intro e' he'
    rcases List.mem_cons.mp he' with rfl | he'
    · exact hput.plain
    · exact h.plain e' (List.mem_filter.mp he').1
  · rw [workingDirectory_insert, find?_insert_of_ne fs hhere]
    exact h.here

/-- Where a path starts there is a directory. -/
theorem IsTree.directory_start (h : fs.IsTree) (p : Path) : fs.find? (fs.start p) = some .directory := by
  rw [start]
  split
  · rfl
  · exact h.here

theorem IsTree.not_up_start (h : fs.IsTree) (p : Path) : ".." ∉ fs.start p :=
  h.not_up (h.directory_start p)

/-- What is made is put where nothing stood. -/
theorem IsTree.put_of_make (h : fs.IsTree) {p : Path} {e : Entry} (hmake : fs.make p e = .ok fs') :
    ∃ l, fs.locateLink p = .ok l ∧ fs.Put l e ∧ fs' = fs.insert l e := by
  obtain ⟨l, hlocate, hnone, rfl⟩ := make_eq_ok hmake
  obtain ⟨hne, hparent⟩ := h.parent_of_leads (locateLink_eq_ok_iff.mp hlocate)
    (h.directory_start p) (by simp [hnone])
  have hplain := (locateLink_eq_ok_iff.mp hlocate).not_up (h.not_up_start p)
  exact ⟨l, hlocate, ⟨hne, hparent, hplain, Or.inl hnone⟩, rfl⟩

/-- A file can be put at a place that a path leads to. -/
theorem IsTree.put_file (h : fs.IsTree) {p : Path} {l : Location} (hlocate : fs.locate p = .ok l)
    (hplace : fs.IsPlace l) (bytes : List UInt8) (executable : Bool) :
    fs.Put l (.file bytes executable) := by
  have hother : fs.find? l ≠ some .directory := by
    intro hfound
    obtain ⟨bytes, executable, heq⟩ := hplace _ hfound
    cases heq
  obtain ⟨hne, hparent⟩ :=
    h.parent_of_leads (locate_eq_ok_iff.mp hlocate) (h.directory_start p) hother
  have hplain := (locate_eq_ok_iff.mp hlocate).not_up (h.not_up_start p)
  exact ⟨hne, hparent, hplain, Or.inr ⟨hplace, rfl⟩⟩

/-- A tree stays a tree when an entry is removed that is no directory. -/
theorem IsTree.erase (h : fs.IsTree) {l : Location} (hl : fs.find? l ≠ some .directory) :
    (fs.erase l).IsTree := by
  have hkept {l' : Location} (hfound : fs.find? l' = some .directory) :
      (fs.erase l).find? l' = some .directory := by
    have hne : l' ≠ l := by
      rintro rfl
      exact hl hfound
    rw [find?_erase_of_ne fs hne]
    exact hfound
  refine ⟨fun e he => ?_, fun e he => ?_, fun e he => ?_, hkept h.here⟩
  · obtain ⟨hmem, hne⟩ := List.mem_filter.mp he
    rw [find?_erase_of_ne fs (by simpa using hne)]
    exact h.found e hmem
  · exact hkept (h.above e (List.mem_filter.mp he).1)
  · exact h.plain e (List.mem_filter.mp he).1

/-- A tree stays a tree when a part of it is removed that the working directory is not in. -/
theorem IsTree.eraseTree (h : fs.IsTree) {l : Location} (hl : ¬l <+: fs.workingDirectory) :
    (fs.eraseTree l).IsTree := by
  have hkept {l' : Location} (habove : ¬l <+: l') : (fs.eraseTree l).find? l' = fs.find? l' := by
    rw [find?_eraseTree, if_neg fun hand => habove hand.1]
  have hmem {e : Location × Entry} (he : e ∈ (fs.eraseTree l).entries) : e ∈ fs.entries ∧ ¬l <+: e.1 := by
    obtain ⟨hmem, hnot⟩ := List.mem_filter.mp he
    refine ⟨hmem, fun hbegins => ?_⟩
    rw [List.isPrefixOf_iff_prefix.mpr hbegins] at hnot
    cases hnot
  refine ⟨fun e he => ?_, fun e he => ?_, fun e he => ?_, ?_⟩
  · rw [hkept (hmem he).2]
    exact h.found e (hmem he).1
  · rw [hkept fun hbegins => (hmem he).2 (hbegins.trans (List.dropLast_prefix _))]
    exact h.above e (hmem he).1
  · exact h.plain e (hmem he).1
  · rw [workingDirectory_eraseTree, hkept hl]
    exact h.here

/-! ## Trees without links -/

/-- Files among which there are no links. -/
def NoLinks (fs : Files) : Prop :=
  ∀ l target, fs.find? l ≠ some (.link target)

theorem noLinks_of_entries (h : ∀ e ∈ fs.entries, ∀ target, e.2 ≠ .link target) : fs.NoLinks := by
  intro l target hfound
  have hl : l ≠ [] := by
    rintro rfl
    cases hfound
  exact h _ (mem_of_find hl hfound) target rfl

theorem NoLinks.insert (h : fs.NoLinks) {l : Location} (hl : l ≠ []) {e : Entry}
    (he : ∀ target, e ≠ .link target) : (fs.insert l e).NoLinks := by
  intro l' target hfound
  by_cases heq : l' = l
  · rw [heq, find?_insert_self fs hl] at hfound
    exact he target (Option.some.inj hfound)
  · rw [find?_insert_of_ne fs heq] at hfound
    exact h l' target hfound

theorem NoLinks.eraseTree (h : fs.NoLinks) (l : Location) : (fs.eraseTree l).NoLinks := by
  intro l' target hfound
  rw [find?_eraseTree] at hfound
  split at hfound
  · cases hfound
  · exact h l' target hfound

/-! ## Directories and links that stay -/

/-- All directories and links stay where they are. -/
def Extends (fs fs' : Files) : Prop :=
  ∀ l e, e.isWay = true → fs.find? l = some e → fs'.find? l = some e

theorem Extends.refl (fs : Files) : Extends fs fs := fun _ _ _ h => h

theorem Extends.trans {fs'' : Files} (h : Extends fs fs') (h' : Extends fs' fs'') : Extends fs fs'' :=
  fun l e he hl => h' l e he (h l e he hl)

theorem Put.extends {l : Location} {e : Entry} (h : fs.Put l e) : Extends fs (fs.insert l e) := by
  intro l' e' he' hfound
  by_cases heq : l' = l
  · rcases h.place with hnone | ⟨hplace, -⟩
    · rw [← heq, hfound] at hnone
      cases hnone
    · obtain ⟨bytes, executable, rfl⟩ := hplace e' (heq ▸ hfound)
      cases he'
  · rw [find?_insert_of_ne fs heq]
    exact hfound

/-- Names lead where they led, if all directories and links have stayed and no link has been
put at the end. -/
theorem Leads.of_extends (hext : Extends fs fs') {follow : Bool} {links : Nat} {here l : Location}
    {names : List String} (h : Leads fs follow links here names l)
    (hend : ∀ target, fs'.find? l = some (.link target) → fs.find? l = some (.link target)) :
    Leads fs' follow links here names l := by
  induction h with
  | done => exact .done
  | up hdirectory h ih => exact .up (hext _ _ rfl hdirectory) (ih hend)
  | @into links here l name rest hdirectory hname hlink h ih =>
    refine .into (hext _ _ rfl hdirectory) hname (fun target hfound => ?_) (ih hend)
    by_cases hrest : rest = []
    · subst hrest
      cases h
      exact hlink target (hend target hfound)
    · rw [hext _ _ rfl (h.directory_of_ne_nil hrest)] at hfound
      cases hfound
  | kept hdirectory hname hlink hfollow =>
    exact .kept (hext _ _ rfl hdirectory) hname (hext _ _ rfl hlink) hfollow
  | through hdirectory hname hlink hfollow h ih =>
    exact .through (hext _ _ rfl hdirectory) hname (hext _ _ rfl hlink) hfollow (ih hend)

/-- Nothing that stands somewhere disappears, and what is no way becomes none. -/
def Persists (fs fs' : Files) : Prop :=
  ∀ l, fs.find? l ≠ none → fs'.find? l ≠ none ∧ fs'.way? l = fs.way? l

theorem Persists.refl (fs : Files) : Persists fs fs := fun _ h => ⟨h, rfl⟩

theorem Persists.trans {fs'' : Files} (h : Persists fs fs') (h' : Persists fs' fs'') : Persists fs fs'' := by
  intro l hl
  obtain ⟨hmid, hway⟩ := h l hl
  obtain ⟨hend, hway'⟩ := h' l hmid
  exact ⟨hend, hway'.trans hway⟩

theorem Persists.extends (h : Persists fs fs') : Extends fs fs' := by
  intro l e he hfound
  obtain ⟨-, hway⟩ := h l (by rw [hfound]; exact Option.some_ne_none e)
  rw [← way?_eq_some he] at hfound ⊢
  exact hway.trans hfound

theorem Put.persists {l : Location} {e : Entry} (h : fs.Put l e) : Persists fs (fs.insert l e) := by
  intro l' hl'
  by_cases heq : l' = l
  · subst heq
    have hself := find?_insert_self fs h.ne_nil e
    rcases h.place with hnone | ⟨hplace, he⟩
    · exact absurd hnone hl'
    · refine ⟨by rw [hself]; exact Option.some_ne_none e, ?_⟩
      rw [hplace.way?_eq_none, way?, hself, Option.filter_some, he]
      rfl
  · rw [way?, way?, find?_insert_of_ne fs heq]
    exact ⟨hl', rfl⟩

/-! ## Walks in two parts -/

/-- Names lead to one location only, however many links may be followed. -/
theorem Leads.unique {follow : Bool} {links links' : Nat} {here l l' : Location}
    {names : List String} (h : Leads fs follow links here names l)
    (h' : Leads fs follow links' here names l') : l = l' := by
  induction h generalizing links' with
  | done =>
    cases h'
    rfl
  | up hdirectory h ih =>
    cases h' with
    | up _ h' => exact ih h'
    | into _ hname => exact absurd rfl hname
    | kept _ hname => exact absurd rfl hname
    | through _ hname => exact absurd rfl hname
  | into hdirectory hname hlink h ih =>
    cases h' with
    | up => exact absurd rfl hname
    | into _ _ _ h' => exact ih h'
    | kept _ _ hlink' => exact absurd hlink' (hlink _)
    | through _ _ hlink' => exact absurd hlink' (hlink _)
  | kept hdirectory hname hlink hfollow =>
    cases h' with
    | up => exact absurd rfl hname
    | into _ _ hlink' => exact absurd hlink (hlink' _)
    | kept => rfl
    | through _ _ _ hfollow' => simp [hfollow] at hfollow'
  | through hdirectory hname hlink hfollow h ih =>
    cases h' with
    | up => exact absurd rfl hname
    | into _ _ hlink' => exact absurd hlink (hlink' _)
    | kept _ _ _ hfollow' => simp [hfollow'] at hfollow
    | through _ _ hlink' _ h' =>
      rw [hlink] at hlink'
      cases hlink'
      exact ih h'

/-- The way to a path leads through what its first names lead to. -/
theorem Leads.split {follow : Bool} {links : Nat} {here l : Location} {front rest : List String}
    (hrest : rest ≠ []) (h : Leads fs follow links here (front ++ rest) l) :
    ∃ links' mid, Leads fs true links here front mid ∧ Leads fs follow links' mid rest l := by
  generalize hnames : front ++ rest = names at h
  induction h generalizing front with
  | @done links here =>
    exact absurd (List.append_eq_nil_iff.mp hnames).2 hrest
  | @up links here l tail hdirectory h ih =>
    cases front with
    | nil =>
      rw [List.nil_append] at hnames
      subst hnames
      exact ⟨links, here, .done, .up hdirectory h⟩
    | cons name front =>
      obtain ⟨rfl, htail⟩ := List.cons.inj hnames
      obtain ⟨links', mid, hfront, hmid⟩ := ih htail
      exact ⟨links', mid, .up hdirectory hfront, hmid⟩
  | @into links here l name tail hdirectory hname hlink h ih =>
    cases front with
    | nil =>
      rw [List.nil_append] at hnames
      subst hnames
      exact ⟨links, here, .done, .into hdirectory hname hlink h⟩
    | cons name' front =>
      obtain ⟨rfl, htail⟩ := List.cons.inj hnames
      obtain ⟨links', mid, hfront, hmid⟩ := ih htail
      exact ⟨links', mid, .into hdirectory hname hlink hfront, hmid⟩
  | @kept links here name target hdirectory hname hlink hfollow =>
    cases front with
    | nil =>
      rw [List.nil_append] at hnames
      subst hnames
      exact ⟨links, here, .done, .kept hdirectory hname hlink hfollow⟩
    | cons name' front =>
      obtain ⟨rfl, htail⟩ := List.cons.inj hnames
      exact absurd (List.append_eq_nil_iff.mp htail).2 hrest
  | @through links here l name target tail hdirectory hname hlink hfollow h ih =>
    cases front with
    | nil =>
      rw [List.nil_append] at hnames
      subst hnames
      exact ⟨links + 1, here, .done, .through hdirectory hname hlink hfollow h⟩
    | cons name' front =>
      obtain ⟨rfl, htail⟩ := List.cons.inj hnames
      have hwhole : (Path.ofText target).names ++ front ++ rest = (Path.ofText target).names ++ tail := by
        rw [List.append_assoc]
        exact congrArg _ htail
      obtain ⟨links', mid, hfront, hmid⟩ := ih hwhole
      exact ⟨links', mid, .through hdirectory hname hlink (Or.inr rfl) hfront, hmid⟩

/-- A proper name behind a path that leads to a directory is one more name of the location. -/
theorem Leads.concat {follow : Bool} {links : Nat} {here mid : Location} {front : List String}
    {name : String} (h : Leads fs true links here front mid) (hmid : fs.find? mid = some .directory)
    (hname : name ≠ "..") (hlink : ∀ target, fs.find? (mid ++ [name]) ≠ some (.link target)) :
    Leads fs follow links here (front ++ [name]) (mid ++ [name]) := by
  induction h with
  | done => exact .into hmid hname hlink .done
  | up hdirectory h ih => exact .up hdirectory (ih hmid hlink)
  | into hdirectory hname' hlink' h ih => exact .into hdirectory hname' hlink' (ih hmid hlink)
  | kept hdirectory hname' hlink' hfollow => cases hfollow
  | through hdirectory hname' hlink' hfollow h ih =>
    refine .through hdirectory hname' hlink' (Or.inl (by simp)) ?_
    have hwhole := ih hmid hlink
    rw [List.append_assoc] at hwhole
    exact hwhole

/-- Whatever stands under the last name, the path itself has that location. -/
theorem Leads.concat_own {links : Nat} {here mid : Location} {front : List String} {name : String}
    (h : Leads fs true links here front mid) (hmid : fs.find? mid = some .directory) (hname : name ≠ "..") :
    Leads fs false links here (front ++ [name]) (mid ++ [name]) := by
  by_cases hfound : ∃ target, fs.find? (mid ++ [name]) = some (.link target)
  · obtain ⟨target, htarget⟩ := hfound
    induction h with
    | done => exact .kept hmid hname htarget rfl
    | up hdirectory h ih => exact .up hdirectory (ih hmid htarget)
    | into hdirectory hname' hlink' h ih => exact .into hdirectory hname' hlink' (ih hmid htarget)
    | kept hdirectory hname' hlink' hfollow => cases hfollow
    | through hdirectory hname' hlink' hfollow h ih =>
      refine .through hdirectory hname' hlink' (Or.inl (by simp)) ?_
      have hwhole := ih hmid htarget
      rw [List.append_assoc] at hwhole
      exact hwhole
  · exact h.concat hmid hname fun target htarget => hfound ⟨target, htarget⟩

/-- Names of directories behind a path that leads to a directory are names of the location. -/
theorem Leads.append_directories {links : Nat} {here mid : Location} {front names : List String}
    (h : Leads fs true links here front mid) (hup : ".." ∉ names)
    (hdirectories : ∀ begun, begun <+: names → fs.find? (mid ++ begun) = some .directory) :
    Leads fs true links here (front ++ names) (mid ++ names) := by
  induction names using List.reverseRecOn with
  | nil =>
    rw [List.append_nil, List.append_nil]
    exact h
  | append_singleton names name ih =>
    rw [List.mem_append, List.mem_singleton, not_or] at hup
    have hbefore := ih hup.1 fun begun hbegun => hdirectories begun (hbegun.trans (List.prefix_append _ _))
    have hhere := hdirectories names (List.prefix_append _ _)
    have hlast := hdirectories (names ++ [name]) (List.prefix_refl _)
    rw [← List.append_assoc] at hlast ⊢
    rw [← List.append_assoc]
    refine hbefore.concat hhere (Ne.symm hup.2) fun target hlink => ?_
    rw [hlast] at hlink
    cases hlink

/-- The location of a path itself lies in the directory that the names before the last one
lead to. -/
theorem Leads.concat_inv {links : Nat} {here l : Location} {front : List String} {name : String}
    (h : Leads fs false links here (front ++ [name]) l) :
    ∃ mid, Leads fs true links here front mid ∧ fs.find? mid = some .directory ∧
      (name = ".." ∧ l = mid.dropLast ∨ name ≠ ".." ∧ l = mid ++ [name]) := by
  obtain ⟨links', mid, hfront, hlast⟩ := h.split (by simp)
  refine ⟨mid, hfront, hlast.directory_of_ne_nil (by simp), ?_⟩
  cases hlast with
  | up _ h =>
    cases h
    exact Or.inl ⟨rfl, rfl⟩
  | into _ hname _ h =>
    cases h
    exact Or.inr ⟨hname, rfl⟩
  | kept _ hname => exact Or.inr ⟨hname, rfl⟩
  | through _ _ _ hfollow => simp at hfollow

/-- Names under which no link stands lead to the location that they name. -/
theorem Leads.eq_append {follow : Bool} {links : Nat} {here l : Location} {names : List String}
    (h : Leads fs follow links here names l) (hplain : ".." ∉ names)
    (hlink : ∀ front, front ≠ [] → front <+: names → follow = true ∨ front ≠ names →
      ∀ target, fs.find? (here ++ front) ≠ some (.link target)) : l = here ++ names := by
  induction h with
  | done => rw [List.append_nil]
  | up => exact absurd List.mem_cons_self hplain
  | @into links here l name rest hdirectory hname hnone h ih =>
    rw [List.mem_cons, not_or] at hplain
    rw [ih hplain.2, List.append_assoc, List.singleton_append]
    intro front hne hfront hfollow target
    rw [List.append_assoc, List.singleton_append]
    refine hlink (name :: front) (by simp) (List.cons_prefix_cons.mpr ⟨rfl, hfront⟩) ?_ target
    exact hfollow.imp_right fun hne heq => hne (List.cons.inj heq).2
  | kept => rfl
  | @through links here l name target rest hdirectory hname hfound hfollow h ih =>
    have hstart : [name] <+: name :: rest := ⟨rest, rfl⟩
    refine absurd hfound (hlink [name] (by simp) hstart ?_ target)
    exact hfollow.symm.imp_right fun hne heq => hne (List.cons.inj heq).2.symm

/-! ## Walks when entries are gone -/

/-- Once some entries are gone, names lead where they led, or to the place of one of them. -/
theorem Leads.of_gone {Gone : Location → Prop} (hgone : ∀ l, Gone l → fs'.find? l = none)
    (hkept : ∀ l, ¬Gone l → fs'.find? l = fs.find? l) {follow : Bool} {links : Nat} {here l : Location}
    {names : List String} (h : Leads fs' follow links here names l) :
    Gone l ∨ Leads fs follow links here names l := by
  have hfound {at_ : Location} {e : Entry} (hfound : fs'.find? at_ = some e) : fs.find? at_ = some e := by
    by_cases hat : Gone at_
    · rw [hgone at_ hat] at hfound
      cases hfound
    · rw [← hkept at_ hat]
      exact hfound
  induction h with
  | done => exact Or.inr .done
  | up hdirectory h ih => exact ih.imp_right (.up (hfound hdirectory))
  | @into links here l name rest hdirectory hname hlink h ih =>
    by_cases hat : Gone (here ++ [name])
    · -- nothing is gone into where an entry was, so that is the end of the names
      left
      by_cases hrest : rest = []
      · subst hrest
        cases h
        exact hat
      · have hdirectory' := h.directory_of_ne_nil hrest
        rw [hgone _ hat] at hdirectory'
        cases hdirectory'
    · refine ih.imp_right (.into (hfound hdirectory) hname fun target hthere => ?_)
      apply hlink target
      rw [hkept _ hat]
      exact hthere
  | kept hdirectory hname hlink hfollow => exact Or.inr (.kept (hfound hdirectory) hname (hfound hlink) hfollow)
  | through hdirectory hname hlink hfollow h ih =>
    exact ih.imp_right (.through (hfound hdirectory) hname (hfound hlink) hfollow)

/-- Once an entry is removed, names lead where they led, or to its place. -/
theorem Leads.of_erase {follow : Bool} {links : Nat} {here l gone : Location} {names : List String}
    (h : Leads (fs.erase gone) follow links here names l) :
    (l = gone ∧ l ≠ []) ∨ Leads fs follow links here names l := by
  have hgone (l : Location) (hl : l = gone ∧ l ≠ []) : (fs.erase gone).find? l = none := by
    rw [find?_erase, if_pos hl]
  have hkept (l : Location) (hl : ¬(l = gone ∧ l ≠ [])) : (fs.erase gone).find? l = fs.find? l := by
    rw [find?_erase, if_neg hl]
  exact h.of_gone hgone hkept

/-- Once an entry is removed with all below it, names lead where they led, or to a place there. -/
theorem Leads.of_eraseTree {follow : Bool} {links : Nat} {here l gone : Location} {names : List String}
    (h : Leads (fs.eraseTree gone) follow links here names l) :
    (gone <+: l ∧ l ≠ []) ∨ Leads fs follow links here names l := by
  have hgone (l : Location) (hl : gone <+: l ∧ l ≠ []) : (fs.eraseTree gone).find? l = none := by
    rw [find?_eraseTree, if_pos hl]
  have hkept (l : Location) (hl : ¬(gone <+: l ∧ l ≠ [])) : (fs.eraseTree gone).find? l = fs.find? l := by
    rw [find?_eraseTree, if_neg hl]
  exact h.of_gone hgone hkept

/-- Once an entry is removed, a path itself has the location that it had, if it has one. -/
theorem Leads.own_of_erase {links : Nat} {here l gone : Location} {names : List String}
    (h : Leads (fs.erase gone) false links here names l) : Leads fs false links here names l := by
  have hfound {at_ : Location} {e : Entry} : (fs.erase gone).find? at_ = some e → fs.find? at_ = some e :=
    fs.find?_of_erase
  induction h with
  | done => exact .done
  | up hdirectory h ih => exact .up (hfound hdirectory) ih
  | @into links here l name rest hdirectory hname hlink h ih =>
    by_cases hlink' : ∃ target, fs.find? (here ++ [name]) = some (.link target)
    · -- the link has been removed, so that is the end of the names
      obtain ⟨target, htarget⟩ := hlink'
      have hrest : rest = [] := by
        by_contra hrest
        have hthere := hfound (h.directory_of_ne_nil hrest)
        rw [htarget] at hthere
        cases hthere
      subst hrest
      cases h
      exact .kept (hfound hdirectory) hname htarget rfl
    · exact .into (hfound hdirectory) hname (fun target htarget => hlink' ⟨target, htarget⟩) ih
  | kept hdirectory hname hlink hfollow => exact .kept (hfound hdirectory) hname (hfound hlink) hfollow
  | through hdirectory hname hlink hfollow h ih =>
    exact .through (hfound hdirectory) hname (hfound hlink) hfollow ih

/-- Names that lead to a directory still lead there when the entry of a path to a file has been
removed. -/
theorem Leads.erase_own {links links' : Nat} {here here' own l d : Location} {names names' : List String}
    (h : Leads fs true links here names d) (hd : fs.find? d = some .directory)
    {bytes : List UInt8} {executable : Bool} (hl : fs.find? l = some (.file bytes executable))
    (hown : fs.find? own ≠ some .directory) (hpath : Leads fs true links' here' names' l)
    (hself : Leads fs false links' here' names' own) : Leads (fs.erase own) true links here names d := by
  have hkept {at_ : Location} (hfound : fs.find? at_ = some .directory) :
      (fs.erase own).find? at_ = some .directory := by
    have hne : at_ ≠ own := by
      rintro rfl
      exact hown hfound
    rw [find?_erase_of_ne fs hne]
    exact hfound
  induction h with
  | done => exact .done
  | up hdirectory h ih => exact .up (hkept hdirectory) (ih hd)
  | into hdirectory hname hlink h ih =>
    exact .into (hkept hdirectory) hname (fun target hfound => hlink target (fs.find?_of_erase hfound)) (ih hd)
  | kept _ _ _ hfollow => cases hfollow
  | @through links here d name target rest hdirectory hname hlink hfollow h ih =>
    refine .through (hkept hdirectory) hname ?_ hfollow (ih hd)
    rw [find?_erase_of_ne fs]
    · exact hlink
    · -- a link that leads to a file is not gone through on the way to a directory
      rintro rfl
      obtain ⟨own, hown', hend⟩ := hpath.exists_own
      obtain rfl := hown'.unique hself
      rcases hend with rfl | ⟨target', links', htarget, hleads⟩
      · rw [hlink] at hl
        cases hl
      · rw [hlink] at htarget
        cases htarget
        rw [List.dropLast_concat] at hleads
        have hmid : fs.find? l = some .directory := by
          by_cases hrest : rest = []
          · rw [hrest, List.append_nil] at h
            rw [hleads.unique h]
            exact hd
          · obtain ⟨_, mid, hfront, hback⟩ := h.split hrest
            rw [hleads.unique hfront]
            exact hback.directory_of_ne_nil hrest
        rw [hmid] at hl
        cases hl

end Stopwatch.Files

/-
  What stays the same outside a directory.

  A directory with a name of its own is recognised in every location below it, so a
  location lies outside if the name does not occur in it.  Two trees are the same outside
  if every entry there is the same, except that directories may have been made where
  nothing stood, and that some files may have been written as logs.
-/
import Stopwatch.Proofs.Files.Tree

namespace Stopwatch.Files

variable {w : String} {logs : List Location} {fs fs' fs'' : Files} {l : Location}

/-- No entry has a given name, and none lies below one that has. -/
def Lacks (fs : Files) (w : String) : Prop :=
  ∀ l, w ∈ l → fs.find? l = none

theorem lacks_of_entries (h : ∀ e ∈ fs.entries, w ∉ e.1) : fs.Lacks w := by
  intro l hl
  have hne : l ≠ [] := List.ne_nil_of_mem hl
  by_contra hfound
  obtain ⟨e, he⟩ := Option.ne_none_iff_exists'.mp hfound
  exact h _ (mem_of_find hne he) hl

theorem Lacks.not_mem (h : fs.Lacks w) {e : Entry} (hfound : fs.find? l = some e) : w ∉ l := by
  intro hmem
  rw [h l hmem] at hfound
  cases hfound

/-- The entries outside are the same, but for new directories and for logs. -/
structure SameOutside (w : String) (logs : List Location) (fs fs' : Files) : Prop where
  here : fs'.workingDirectory = fs.workingDirectory
  entries : ∀ l, w ∉ l → fs'.find? l = fs.find? l ∨
    fs.find? l = none ∧ fs'.find? l = some .directory ∨
    l ∈ logs ∧ fs.IsPlace l ∧ ∃ bytes executable, fs'.find? l = some (.file bytes executable)

namespace SameOutside

theorem refl (w : String) (logs : List Location) (fs : Files) : SameOutside w logs fs fs :=
  ⟨rfl, fun _ _ => Or.inl rfl⟩

theorem trans (h : SameOutside w logs fs fs') (h' : SameOutside w logs fs' fs'') :
    SameOutside w logs fs fs'' := by
  refine ⟨h'.here.trans h.here, fun l hl => ?_⟩
  rcases h'.entries l hl with heq' | ⟨hnone', hdirectory'⟩ | ⟨hlog, hplace', hfile'⟩
  · rw [heq']
    exact h.entries l hl
  · rcases h.entries l hl with heq | ⟨hnone, hdirectory⟩ | ⟨-, -, bytes, executable, hfile⟩
    · exact Or.inr (Or.inl ⟨heq ▸ hnone', hdirectory'⟩)
    · rw [hdirectory] at hnone'
      cases hnone'
    · rw [hfile] at hnone'
      cases hnone'
  · refine Or.inr (Or.inr ⟨hlog, ?_, hfile'⟩)
    rcases h.entries l hl with heq | ⟨hnone, hdirectory⟩ | ⟨-, hplace, -⟩
    · intro e he
      exact hplace' e (heq ▸ he)
    · obtain ⟨bytes, executable, heq⟩ := hplace' _ hdirectory
      cases heq
    · exact hplace

/-- More files may be logs. -/
theorem mono {logs' : List Location} (h : SameOutside w logs fs fs') (hlogs : logs ⊆ logs') :
    SameOutside w logs' fs fs' :=
  ⟨h.here, fun l hl => (h.entries l hl).imp_right fun h => h.imp_right fun h => ⟨hlogs h.1, h.2⟩⟩

/-! ## Changes -/

theorem insert_inside (h : SameOutside w logs fs fs') (hl : w ∈ l) (e : Entry) :
    SameOutside w logs fs (fs'.insert l e) := by
  refine ⟨h.here, fun l' hl' => ?_⟩
  have hne : l' ≠ l := fun heq => hl' (heq ▸ hl)
  rw [find?_insert_of_ne fs' hne]
  exact h.entries l' hl'

theorem insert_directory (h : SameOutside w logs fs fs') (hne : l ≠ []) (hl : fs'.find? l = none) :
    SameOutside w logs fs (fs'.insert l .directory) := by
  refine h.trans ⟨rfl, fun l' _ => ?_⟩
  by_cases heq : l' = l
  · subst heq
    exact Or.inr (Or.inl ⟨hl, find?_insert_self fs' hne _⟩)
  · exact Or.inl (find?_insert_of_ne fs' heq _)

theorem insert_log (h : SameOutside w logs fs fs') (hlog : l ∈ logs) (hplace : fs'.IsPlace l)
    (bytes : List UInt8) (executable : Bool) :
    SameOutside w logs fs (fs'.insert l (.file bytes executable)) := by
  refine h.trans ⟨rfl, fun l' _ => ?_⟩
  by_cases heq : l' = l
  · subst heq
    exact Or.inr (Or.inr ⟨hlog, hplace, _, _, find?_insert_self fs' hplace.ne_nil _⟩)
  · exact Or.inl (find?_insert_of_ne fs' heq _)

theorem eraseTree_inside (h : SameOutside w logs fs fs') (hl : w ∈ l) :
    SameOutside w logs fs (fs'.eraseTree l) := by
  refine ⟨h.here, fun l' hl' => ?_⟩
  rw [find?_eraseTree, if_neg fun hbelow => hl' (hbelow.1.subset hl)]
  exact h.entries l' hl'

/-! ## Walks -/

/-- Whatever is gone through on a walk stays where it is. -/
theorem keeps_ways (h : SameOutside w logs fs fs') (hlacks : fs.Lacks w) : fs.Extends fs' := by
  intro l e he hfound
  rcases h.entries l (hlacks.not_mem hfound) with heq | ⟨hnone, -⟩ | ⟨-, hplace, -⟩
  · rw [heq, hfound]
  · rw [hfound] at hnone
    cases hnone
  · obtain ⟨bytes, executable, rfl⟩ := hplace e hfound
    cases he

/-- A walk that ended outside still ends there. -/
theorem leads (h : SameOutside w logs fs fs') (hlacks : fs.Lacks w) (hl : w ∉ l) {follow : Bool}
    {links : Nat} {here : Location} {names : List String} (hleads : Leads fs follow links here names l) :
    Leads fs' follow links here names l := by
  refine hleads.of_extends (h.keeps_ways hlacks) fun target hlink => ?_
  rcases h.entries l hl with heq | ⟨-, hdirectory⟩ | ⟨-, -, bytes, executable, hfile⟩
  · exact heq ▸ hlink
  · rw [hdirectory] at hlink
    cases hlink
  · rw [hfile] at hlink
    cases hlink

theorem locate (h : SameOutside w logs fs fs') (hlacks : fs.Lacks w) (hl : w ∉ l) {p : Path}
    (hlocate : fs.locate p = .ok l) : fs'.locate p = .ok l := by
  rw [locate_eq_ok_iff] at hlocate ⊢
  rw [start_congr h.here]
  exact h.leads hlacks hl hlocate

end SameOutside

variable {b : Location}

/-! ## Changes in one place -/

/-- Nothing has changed but at a location and below it. -/
structure Untouched (b : Location) (fs fs' : Files) : Prop where
  here : fs'.workingDirectory = fs.workingDirectory
  entries : ∀ l, ¬b <+: l → fs'.find? l = fs.find? l

theorem Untouched.refl (b : Location) (fs : Files) : Untouched b fs fs :=
  ⟨rfl, fun _ _ => rfl⟩

theorem Untouched.symm (h : Untouched b fs fs') : Untouched b fs' fs :=
  ⟨h.here.symm, fun l hl => (h.entries l hl).symm⟩

theorem Untouched.trans (h : Untouched b fs fs') (h' : Untouched b fs' fs'') : Untouched b fs fs'' :=
  ⟨h'.here.trans h.here, fun l hl => (h'.entries l hl).trans (h.entries l hl)⟩

/-- Files whose links do not mention a name, but for those below it. -/
def Unmentioned (w : String) (fs : Files) : Prop :=
  ∀ l target, w ∉ l → fs.find? l = some (.link target) → w ∉ (Path.ofText target).names

theorem Untouched.unmentioned (h : Untouched b fs fs') (hw : w ∈ b) (hlinks : fs.Unmentioned w) :
    fs'.Unmentioned w := by
  intro l target hl hlink
  rw [h.entries l fun hbegins => hl (hbegins.subset hw)] at hlink
  exact hlinks l target hl hlink

/-- Names that do not mention what has changed lead where they led. -/
theorem Leads.of_untouched (h : Untouched b fs fs') (hw : w ∈ b) (hlinks : fs.Unmentioned w) {follow : Bool}
    {links : Nat} {here l : Location} {names : List String} (hleads : Leads fs follow links here names l)
    (hhere : w ∉ here) (hnames : w ∉ names) : Leads fs' follow links here names l ∧ w ∉ l := by
  have hkept (l : Location) (hl : w ∉ l) : fs'.find? l = fs.find? l :=
    h.entries l fun hbegins => hl (hbegins.subset hw)
  induction hleads with
  | done => exact ⟨.done, hhere⟩
  | up hdirectory hrest ih =>
    rw [List.mem_cons, not_or] at hnames
    obtain ⟨hleads, hl⟩ := ih (fun hmem => hhere (List.dropLast_subset _ hmem)) hnames.2
    exact ⟨.up (by rw [hkept _ hhere]; exact hdirectory) hleads, hl⟩
  | @into links here l name rest hdirectory hname hlink hrest ih =>
    rw [List.mem_cons, not_or] at hnames
    have hnext : w ∉ here ++ [name] := by simp [hhere, hnames.1]
    obtain ⟨hleads, hl⟩ := ih hnext hnames.2
    exact ⟨.into (by rw [hkept _ hhere]; exact hdirectory) hname (by rw [hkept _ hnext]; exact hlink) hleads, hl⟩
  | @kept links here name target hdirectory hname hlink hfollow =>
    rw [List.mem_singleton] at hnames
    have hnext : w ∉ here ++ [name] := by simp [hhere, hnames]
    exact ⟨.kept (by rw [hkept _ hhere]; exact hdirectory) hname (by rw [hkept _ hnext]; exact hlink) hfollow, hnext⟩
  | @through links here l name target rest hdirectory hname hlink hfollow hrest ih =>
    rw [List.mem_cons, not_or] at hnames
    have hnext : w ∉ here ++ [name] := by simp [hhere, hnames.1]
    have hstart : w ∉ if (Path.ofText target).isAbsolute then [] else here := by
      split
      · exact List.not_mem_nil
      · exact hhere
    have hmore : w ∉ (Path.ofText target).names ++ rest := by
      rw [List.mem_append, not_or]
      exact ⟨hlinks _ target hnext hlink, hnames.2⟩
    obtain ⟨hleads, hl⟩ := ih hstart hmore
    exact ⟨.through (by rw [hkept _ hhere]; exact hdirectory) hname (by rw [hkept _ hnext]; exact hlink) hfollow hleads,
      hl⟩

section Paths

variable {q : Path} (hw : w ∈ b) (hlinks : fs.Unmentioned w) (hhere : w ∉ fs.workingDirectory) (hq : w ∉ q.names)

include hw hlinks hhere hq

theorem Untouched.locate (h : Untouched b fs fs') (hlocate : fs.locate q = .ok l) : fs'.locate q = .ok l ∧ w ∉ l := by
  have hstart : w ∉ fs.start q := by
    rw [start]
    split
    · exact List.not_mem_nil
    · exact hhere
  rw [locate_eq_ok_iff] at hlocate ⊢
  rw [start_congr h.here]
  exact hlocate.of_untouched h hw hlinks hstart hq

theorem Untouched.locate_iff (h : Untouched b fs fs') : fs'.locate q = .ok l ↔ fs.locate q = .ok l := by
  constructor
  · intro hlocate
    exact (h.symm.locate hw (h.unmentioned hw hlinks) (h.here ▸ hhere) hq hlocate).1
  · intro hlocate
    exact (h.locate hw hlinks hhere hq hlocate).1

end Paths

end Stopwatch.Files

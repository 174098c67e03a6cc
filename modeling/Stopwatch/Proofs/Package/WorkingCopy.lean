/-
  The working copy of a package.

  While a package is copied, everything outside the working directory stays as it was, and
  links stand in the working directory only where links have been copied to.  A path below
  which no link has been put leads to the location that it names, so it leads inside.
-/
import Stopwatch.Package.Basic
import Stopwatch.Proofs.Files.Outside

namespace Stopwatch

open Files

/-! ## The place of the working directory -/

/-- Files among which the working directory of a package can be made: its name is new, and
the directory that it is to stand in is there. -/
structure Package.IsRoom (p : Package) (w : String) (fs : Files) (root : Location) : Prop where
  work : p.work = p.config.workRoot.child w
  name : w ≠ ".."
  tree : fs.IsTree
  lacks : fs.Lacks w
  locate : fs.locate p.config.workRoot = .ok root
  directory : fs.find? root = some .directory

/-- The files while a package is copied.  `Link` says where below the working directory a
link may stand. -/
structure Package.IsCopy (w : String) (fs₁ : Files) (root : Location) (Link : List String → Prop)
    (fs : Files) : Prop where
  same : SameOutside w [] fs₁ fs
  tree : fs.IsTree
  work : fs.find? (root ++ [w]) = some .directory
  links : ∀ names target, fs.find? (root ++ [w] ++ names) = some (.link target) → Link names
  free : fs₁.NoLinks → fs.NoLinks

namespace Package

variable {p : Package} {w : String} {fs₁ fs fs' : Files} {root : Location}
  {Link Link' : List String → Prop} {names : List String} {l : Location}

theorem IsRoom.not_mem_root (h : p.IsRoom w fs₁ root) : w ∉ root :=
  h.lacks.not_mem h.directory

/-- A path below the working directory. -/
def below (p : Package) (names : List String) : Path :=
  ⟨p.work.anchor, p.work.names ++ names⟩

theorem mem_inside (names : List String) : w ∈ root ++ [w] ++ names := by
  simp

namespace IsCopy

theorem mono (h : IsCopy w fs₁ root Link fs) (hlink : ∀ names, Link names → Link' names) :
    IsCopy w fs₁ root Link' fs :=
  ⟨h.same, h.tree, h.work, fun names target hfound => hlink names (h.links names target hfound), h.free⟩

/-- Once the working directory is made, nothing stands in it. -/
theorem start (hroom : p.IsRoom w fs root) (hput : fs.Put (root ++ [w]) .directory) :
    IsCopy w fs root Link (fs.insert (root ++ [w]) .directory) := by
  refine ⟨(SameOutside.refl w [] fs).insert_inside (by simp) _, hroom.tree.insert hput,
    find?_insert_self fs hput.ne_nil _, fun names target hfound => ?_,
    fun hfree => hfree.insert hput.ne_nil fun target heq => nomatch heq⟩
  by_cases hnames : names = []
  · rw [hnames, List.append_nil, find?_insert_self fs hput.ne_nil] at hfound
    cases hfound
  · rw [find?_insert_of_ne fs (by simpa using hnames), hroom.lacks _ (mem_inside names)] at hfound
    cases hfound

/-! ## Where paths lead -/

section Walks

variable (hroom : p.IsRoom w fs₁ root) (h : IsCopy w fs₁ root Link fs)

include hroom h

theorem leads_root :
    Leads fs true maxLinks (fs.start p.config.workRoot) p.config.workRoot.names root := by
  have hroot := h.same.locate hroom.lacks hroom.not_mem_root hroom.locate
  exact locate_eq_ok_iff.mp hroot

theorem directory_root : fs.find? root = some .directory :=
  h.same.keeps_ways hroom.lacks root .directory rfl hroom.directory

/-- The path of the working directory leads to it. -/
theorem leads_work (follow : Bool) :
    Leads fs follow maxLinks (fs.start p.work) p.work.names (root ++ [w]) := by
  rw [hroom.work]
  refine (h.leads_root hroom).concat (h.directory_root hroom) hroom.name fun target hlink => ?_
  rw [h.work] at hlink
  cases hlink

/-- A path below the working directory leads to the location that it names, unless a link
stands above it. -/
theorem leads_below {follow : Bool} (hnames : names ≠ []) (hplain : ".." ∉ names)
    (hfree : ∀ front, front ≠ [] → front <+: names → follow = true ∨ front ≠ names → ¬Link front)
    (hleads : Leads fs follow maxLinks (fs.start (p.below names)) (p.below names).names l) :
    l = root ++ [w] ++ names := by
  obtain ⟨links', mid, hfront, hrest⟩ := hleads.split hnames
  obtain rfl : mid = root ++ [w] := hfront.unique (h.leads_work hroom true)
  refine hrest.eq_append hplain fun front hne hfront hfollow target hlink => ?_
  exact hfree front hne hfront hfollow (h.links front target hlink)

theorem locate_below (hnames : names ≠ []) (hplain : ".." ∉ names)
    (hfree : ∀ front, front ≠ [] → front <+: names → ¬Link front)
    (hlocate : fs.locate (p.below names) = .ok l) : l = root ++ [w] ++ names :=
  h.leads_below hroom hnames hplain (fun front hne hfront _ => hfree front hne hfront)
    (locate_eq_ok_iff.mp hlocate)

theorem locateLink_below (hnames : names ≠ []) (hplain : ".." ∉ names)
    (hfree : ∀ front, front ≠ [] → front <+: names → front ≠ names → ¬Link front)
    (hlocate : fs.locateLink (p.below names) = .ok l) : l = root ++ [w] ++ names := by
  refine h.leads_below hroom hnames hplain (fun front hne hfront hother => ?_)
    (locateLink_eq_ok_iff.mp hlocate)
  exact hfree front hne hfront (hother.resolve_left Bool.false_ne_true)

end Walks

/-! ## Changes -/

/-- An entry is put below the working directory. -/
theorem insert (h : IsCopy w fs₁ root Link fs) (hnames : names ≠ []) {e : Entry}
    (hput : fs.Put (root ++ [w] ++ names) e)
    (hlink : ∀ target, e = .link target → Link names ∧ ¬fs₁.NoLinks) :
    IsCopy w fs₁ root Link (fs.insert (root ++ [w] ++ names) e) := by
  refine ⟨h.same.insert_inside (mem_inside names) e, h.tree.insert hput, ?_, fun names' target hfound => ?_,
    fun hfree => (h.free hfree).insert hput.ne_nil fun target heq => (hlink target heq).2 hfree⟩
  · rw [find?_insert_of_ne fs (by simpa using hnames)]
    exact h.work
  · by_cases heq : names' = names
    · subst heq
      rw [find?_insert_self fs hput.ne_nil] at hfound
      exact (hlink target (Option.some.inj hfound)).1
    · rw [find?_insert_of_ne fs (by simpa using heq)] at hfound
      exact h.links names' target hfound

/-- A directory may be made anywhere. -/
theorem makeDirectory (h : IsCopy w fs₁ root Link fs) {q : Path}
    (hmake : fs.makeDirectory q = .ok fs') : IsCopy w fs₁ root Link fs' := by
  obtain ⟨l, -, hput, rfl⟩ := h.tree.put_of_make hmake
  have hnone : fs.find? l = none := by
    rcases hput.place with hnone | ⟨-, hway⟩
    · exact hnone
    · cases hway
  refine ⟨h.same.insert_directory hput.ne_nil hnone, h.tree.insert hput, ?_, fun names target hfound => ?_,
    fun hfree => (h.free hfree).insert hput.ne_nil fun target heq => nomatch heq⟩
  · have hne : root ++ [w] ≠ l := by
      rintro rfl
      rw [h.work] at hnone
      cases hnone
    rw [find?_insert_of_ne fs hne]
    exact h.work
  · by_cases heq : root ++ [w] ++ names = l
    · rw [heq, find?_insert_self fs hput.ne_nil] at hfound
      cases hfound
    · rw [find?_insert_of_ne fs heq] at hfound
      exact h.links names target hfound

section Paths

variable (hroom : p.IsRoom w fs₁ root) (h : IsCopy w fs₁ root Link fs) (hnames : names ≠ [])
  (hplain : ".." ∉ names)

include hroom h hnames hplain

/-- A file is written below the working directory. -/
theorem write (hfree : ∀ front, front ≠ [] → front <+: names → ¬Link front)
    {change : List UInt8 → List UInt8} (hwrite : fs.write (p.below names) change = .ok fs') :
    IsCopy w fs₁ root Link fs' := by
  rcases write_inv hwrite with rfl | ⟨l, bytes, executable, hlocate, hplace, rfl⟩
  · exact h
  · obtain rfl := h.locate_below hroom hnames hplain hfree hlocate
    exact h.insert hnames (h.tree.put_file hlocate hplace bytes executable) fun target heq => nomatch heq

theorem setExecutable (hfree : ∀ front, front ≠ [] → front <+: names → ¬Link front)
    (executable : Bool) : IsCopy w fs₁ root Link (fs.setExecutable (p.below names) executable) := by
  rcases setExecutable_inv fs (p.below names) executable with heq | ⟨l, bytes, hlocate, hplace, heq⟩
  · rw [heq]
    exact h
  · obtain rfl := h.locate_below hroom hnames hplain hfree hlocate
    rw [heq]
    exact h.insert hnames (h.tree.put_file hlocate hplace bytes executable) fun target heq => nomatch heq

/-- A new entry is made below the working directory. -/
theorem make (hfree : ∀ front, front ≠ [] → front <+: names → front ≠ names → ¬Link front) {e : Entry}
    (hlink : ∀ target, e = .link target → Link names ∧ ¬fs₁.NoLinks)
    (hmake : fs.make (p.below names) e = .ok fs') :
    IsCopy w fs₁ root Link fs' := by
  obtain ⟨l, hlocate, hput, rfl⟩ := h.tree.put_of_make hmake
  obtain rfl := h.locateLink_below hroom hnames hplain hfree hlocate
  exact h.insert hnames hput hlink

/-- A part of the working directory is removed. -/
theorem eraseTree (hfree : ∀ front, front ≠ [] → front <+: names → front ≠ names → ¬Link front)
    (hlocate : fs.locateLink (p.below names) = .ok l) : IsCopy w fs₁ root Link (fs.eraseTree l) := by
  obtain rfl := h.locateLink_below hroom hnames hplain hfree hlocate
  have hhere : ¬root ++ [w] ++ names <+: fs.workingDirectory := by
    intro hbegins
    rw [h.same.here] at hbegins
    exact hroom.lacks.not_mem hroom.tree.here (hbegins.subset (mem_inside names))
  refine ⟨h.same.eraseTree_inside (mem_inside names), h.tree.eraseTree hhere, ?_,
    fun names' target hfound => ?_, fun hfree => (h.free hfree).eraseTree _⟩
  · rw [find?_eraseTree, if_neg]
    · exact h.work
    · rintro ⟨hbegins, -⟩
      have hlength := hbegins.length_le
      have hpos := List.length_pos_iff.mpr hnames
      rw [List.length_append] at hlength
      omega
  · rw [find?_eraseTree] at hfound
    split at hfound
    · cases hfound
    · exact h.links names' target hfound

end Paths

end IsCopy

end Package

end Stopwatch

/-
  What is put below a directory.

  A directory that a path leads to is filled entry by entry, every directory before what
  stands in it.  As long as no link stands on the way, names behind the path are names behind
  the location of the directory, so an entry is put just where it belongs; it can be put there
  if the directory above it is there, and it is missed if that is missing.
-/
import Stopwatch.Files.Copy
import Stopwatch.Proofs.Files.Sources

namespace Stopwatch

/-- A path with more names behind it. -/
def Path.under (p : Path) (names : List String) : Path :=
  ⟨p.anchor, p.names ++ names⟩

theorem Path.parent_under {p : Path} {names : List String} (hne : names ≠ []) :
    (p.under names).parent = p.under names.dropLast := by
  rw [parent, under, under, List.dropLast_append_of_ne_nil hne]

/-- Names that others begin with come before them. -/
theorem Path.partsLe_of_prefix {front names : List String} (h : front <+: names) : partsLe front names = true := by
  obtain ⟨rest, rfl⟩ := h
  have hle := partsLe_append_left front [] rest
  rw [List.append_nil] at hle
  rw [hle, partsLe]

namespace Files

variable {fs fs' files : Files} {base : Path} {b l at_ : Location} {names part : List String} {e : Entry}
  {x : List String × Entry} {entries rest : List (List String × Entry)}

/-! ## Names that lead nowhere -/

/-- The last names of a path are taken from where the first ones lead to. -/
theorem Leads.walk_append {follow : Bool} {links : Nat} {here mid : Location} {front rest : List String}
    (h : Leads fs true links here front mid) (hrest : rest ≠ []) :
    ∃ through, fs.walk follow links here (front ++ rest) = fs.walkThrough follow through mid rest := by
  induction h with
  | @done links here =>
    obtain ⟨through, heq⟩ := fs.exists_walk_eq follow links
    exact ⟨through, by rw [heq, List.nil_append]⟩
  | @up links here l tail hdirectory h ih =>
    obtain ⟨through, heq⟩ := fs.exists_walk_eq follow links
    obtain ⟨through', hwalk⟩ := ih
    refine ⟨through', ?_⟩
    rw [heq] at hwalk ⊢
    rw [List.cons_append, walkThrough, hdirectory]
    exact hwalk
  | @into links here l name tail hdirectory hname hlink h ih =>
    obtain ⟨through, heq⟩ := fs.exists_walk_eq follow links
    obtain ⟨through', hwalk⟩ := ih
    refine ⟨through', ?_⟩
    rw [heq] at hwalk ⊢
    rw [List.cons_append, walkThrough, hdirectory]
    simp only [if_neg hname]
    exact hwalk
  | kept _ _ _ hfollow => cases hfollow
  | @through links here l name target tail hdirectory hname hlink hfollow h ih =>
    obtain ⟨through', hwalk⟩ := ih
    refine ⟨through', ?_⟩
    have hmore : (tail ++ rest).isEmpty = false := by simp [hrest]
    rw [List.cons_append, walk, walkThrough, hdirectory]
    simp only [if_neg hname, hlink, hmore, Bool.false_and, Bool.false_eq_true, if_false]
    rw [List.append_assoc] at hwalk
    exact hwalk

/-- Where the directories end before the last name, the names lead to nothing. -/
theorem walkThrough_missing {follow : Bool} {through : Location → List String → Except SystemFault Location}
    {here : Location} (hhere : fs.find? here = some .directory) (hup : ".." ∉ names)
    (hclear : ∀ begun, begun <+: names →
      fs.find? (here ++ begun) = none ∨ fs.find? (here ++ begun) = some .directory)
    (hnone : fs.find? (here ++ names.dropLast) = none) :
    fs.walkThrough follow through here names = .error .missing := by
  induction names generalizing here with
  | nil =>
    rw [List.dropLast_nil, List.append_nil, hhere] at hnone
    cases hnone
  | cons name rest ih =>
    rw [List.mem_cons, not_or] at hup
    have hname : fs.find? (here ++ [name]) = none ∨ fs.find? (here ++ [name]) = some .directory :=
      hclear [name] ⟨rest, rfl⟩
    have hstep : fs.walkThrough follow through here (name :: rest) =
        fs.walkThrough follow through (here ++ [name]) rest := by
      rw [walkThrough, hhere]
      simp only [if_neg (Ne.symm hup.1)]
      rcases hname with hname | hname <;> rw [hname]
    rw [hstep]
    cases rest with
    | nil =>
      -- the last name is looked for in a directory that is there
      rw [List.dropLast_singleton, List.append_nil, hhere] at hnone
      cases hnone
    | cons next rest =>
      rcases hname with hname | hname
      · rw [walkThrough, hname]
      · apply ih hname hup.2
        · intro begun hbegun
          rw [List.append_assoc, List.singleton_append]
          exact hclear (name :: begun) (List.cons_prefix_cons.mpr ⟨rfl, hbegun⟩)
        · rw [List.append_assoc, List.singleton_append]
          exact hnone

/-! ## Directories that a path leads to -/

/-- A directory that a path leads to by itself, in a tree in which no location is listed twice.  The
working directory does not lie in it. -/
structure IsBase (fs : Files) (base : Path) (b : Location) : Prop where
  tree : fs.IsTree
  once : fs.IsListing
  locate : fs.locate base = .ok b
  own : fs.locateLink base = .ok b
  directory : fs.find? b = some .directory
  outside : ¬b <+: fs.workingDirectory

namespace IsBase

theorem insert (h : fs.IsBase base b) (hput : fs.Put l e) (hnone : fs.find? l = none) :
    (fs.insert l e).IsBase base b := by
  have hne : b ≠ l := by
    rintro rfl
    rw [h.directory] at hnone
    cases hnone
  have hdirectory : (fs.insert l e).find? b = some .directory := by
    rw [find?_insert_of_ne fs hne]
    exact h.directory
  have hend : ∀ target, (fs.insert l e).find? b = some (.link target) → fs.find? b = some (.link target) := by
    intro target hlink
    rw [hdirectory] at hlink
    cases hlink
  refine ⟨h.tree.insert hput, h.once.insert l e, ?_, ?_, hdirectory, h.outside⟩
  · exact locate_eq_ok_iff.mpr ((locate_eq_ok_iff.mp h.locate).of_extends hput.extends hend)
  · exact locateLink_eq_ok_iff.mpr ((locateLink_eq_ok_iff.mp h.own).of_extends hput.extends hend)

/-- Behind names of directories, a path itself has the location that it names. -/
theorem locateLink_under (h : fs.IsBase base b) (hne : names ≠ []) (hup : ".." ∉ names)
    (hparent : fs.find? (b ++ names.dropLast) = some .directory) :
    fs.locateLink (base.under names) = .ok (b ++ names) := by
  obtain rfl | ⟨front, name, rfl⟩ := List.eq_nil_or_concat names
  · contradiction
  rw [List.concat_eq_append] at hup hparent ⊢
  rw [List.dropLast_concat] at hparent
  rw [List.mem_append, List.mem_singleton, not_or] at hup
  have hfront : Leads fs true maxLinks (fs.start base) (base.names ++ front) (b ++ front) := by
    apply Leads.append_directories (locate_eq_ok_iff.mp h.locate) hup.1
    intro begun hbegun
    by_cases hwhole : begun = front
    · rw [hwhole]
      exact hparent
    · refine h.tree.directory_of_prefix hparent ((List.prefix_append_right_inj b).mpr hbegun) fun heq => hwhole ?_
      exact List.append_cancel_left heq
  have hown : Leads fs false maxLinks (fs.start base) (base.names ++ front ++ [name]) (b ++ front ++ [name]) :=
    hfront.concat_own hparent (Ne.symm hup.2)
  rw [List.append_assoc, List.append_assoc] at hown
  exact locateLink_eq_ok_iff.mpr hown

/-- If no link stands at its end, the path also leads there. -/
theorem locate_under (h : fs.IsBase base b) (hne : names ≠ []) (hup : ".." ∉ names)
    (hparent : fs.find? (b ++ names.dropLast) = some .directory)
    (hlink : ∀ target, fs.find? (b ++ names) ≠ some (.link target)) :
    fs.locate (base.under names) = .ok (b ++ names) := by
  have hown := locateLink_eq_ok_iff.mp (h.locateLink_under hne hup hparent)
  exact locate_eq_ok_iff.mpr (hown.of_own hlink)

/-- Where nothing stands, an entry can be put below. -/
theorem put (h : fs.IsBase base b) (hne : names ≠ []) (hup : ".." ∉ names)
    (hparent : fs.find? (b ++ names.dropLast) = some .directory) (hnone : fs.find? (b ++ names) = none) :
    fs.Put (b ++ names) e := by
  refine ⟨List.append_ne_nil_of_right_ne_nil b hne, ?_, ?_, Or.inl hnone⟩
  · rw [List.dropLast_append_of_ne_nil hne]
    exact hparent
  · rw [List.mem_append, not_or]
    exact ⟨h.tree.not_up h.directory, hup⟩

/-- An entry is made where nothing stands. -/
theorem make_under (h : fs.IsBase base b) (hne : names ≠ []) (hup : ".." ∉ names)
    (hparent : fs.find? (b ++ names.dropLast) = some .directory) (hnone : fs.find? (b ++ names) = none) (e : Entry) :
    fs.make (base.under names) e = .ok (fs.insert (b ++ names) e) := by
  rw [make, h.locateLink_under hne hup hparent]
  simp only [bind, Except.bind, hnone]

/-- An entry is not made where another one stands. -/
theorem make_present (h : fs.IsBase base b) (hup : ".." ∉ names)
    (hparent : names ≠ [] → fs.find? (b ++ names.dropLast) = some .directory) {other : Entry}
    (hfound : fs.find? (b ++ names) = some other) (e : Entry) : fs.make (base.under names) e = .error .present := by
  have hlocate : fs.locateLink (base.under names) = .ok (b ++ names) := by
    by_cases hnil : names = []
    · subst hnil
      rw [Path.under, List.append_nil, List.append_nil]
      exact h.own
    · exact h.locateLink_under hnil hup (hparent hnil)
  rw [make, hlocate]
  simp only [bind, Except.bind, hfound]

/-- Behind names of directories, an entry is made, or another one is in the way. -/
theorem make_ne_missing (h : fs.IsBase base b) (hup : ".." ∉ names)
    (hparent : names ≠ [] → fs.find? (b ++ names.dropLast) = some .directory) (e : Entry) :
    fs.make (base.under names) e ≠ .error .missing := by
  cases hfound : fs.find? (b ++ names) with
  | some other =>
    rw [h.make_present hup hparent hfound]
    intro heq
    cases heq
  | none =>
    have hne : names ≠ [] := by
      rintro rfl
      rw [List.append_nil, h.directory] at hfound
      cases hfound
    rw [h.make_under hne hup (hparent hne) hfound]
    intro heq
    cases heq

/-- An entry is not made where the directory above is missing. -/
theorem make_missing (h : fs.IsBase base b) (hup : ".." ∉ names)
    (hclear : ∀ begun, begun <+: names → fs.find? (b ++ begun) = none ∨ fs.find? (b ++ begun) = some .directory)
    (hnone : fs.find? (b ++ names.dropLast) = none) (e : Entry) : fs.make (base.under names) e = .error .missing := by
  have hne : names ≠ [] := by
    rintro rfl
    rw [List.dropLast_nil, List.append_nil, h.directory] at hnone
    cases hnone
  obtain ⟨through, hwalk⟩ := Leads.walk_append (locate_eq_ok_iff.mp h.locate) hne
  have hlocate : fs.locateLink (base.under names) = .error .missing :=
    hwalk.trans (walkThrough_missing h.directory hup hclear hnone)
  rw [make, hlocate]
  rfl

end IsBase

/-! ## Filling a directory -/

/-- Puts an entry below a location.  A pipe is left out. -/
def place (fs : Files) (at_ : Location) (x : List String × Entry) : Files :=
  if x.2 = .pipe then fs else fs.insert (at_ ++ x.1) x.2

/-- Puts entries below a location one after the other. -/
def placeAll (fs : Files) (at_ : Location) : List (List String × Entry) → Files
  | [] => fs
  | x :: rest => (fs.place at_ x).placeAll at_ rest

/-- Entries that can be put below a location one after the other.  Nothing stands there yet, and the directory
above an entry is there or is put first. -/
structure Awaits (fs : Files) (at_ : Location) (entries : List (List String × Entry)) : Prop where
  absent : ∀ x ∈ entries, fs.find? (at_ ++ x.1) = none
  ne_nil : ∀ x ∈ entries, x.1 ≠ []
  plain : ∀ x ∈ entries, ".." ∉ x.1
  above : ∀ x ∈ entries, fs.find? (at_ ++ x.1.dropLast) = some .directory ∨ (x.1.dropLast, .directory) ∈ entries
  order : entries.Pairwise fun x y => x.1 ≠ y.1 ∧ Path.partsLe x.1 y.1 = true

/-- Where no entry is put, everything stays. -/
theorem find?_place_of_ne (hne : l ≠ at_ ++ x.1) : (fs.place at_ x).find? l = fs.find? l := by
  rw [place]
  split
  · rfl
  · exact find?_insert_of_ne fs hne x.2

theorem find?_placeAll_of_ne (hne : ∀ x ∈ entries, l ≠ at_ ++ x.1) :
    (fs.placeAll at_ entries).find? l = fs.find? l := by
  induction entries generalizing fs with
  | nil => rfl
  | cons x rest ih =>
    rw [List.forall_mem_cons] at hne
    rw [placeAll, ih hne.2, find?_place_of_ne hne.1]

/-- The working directory stays the same. -/
theorem workingDirectory_placeAll (fs : Files) (at_ : Location) (entries : List (List String × Entry)) :
    (fs.placeAll at_ entries).workingDirectory = fs.workingDirectory := by
  induction entries generalizing fs with
  | nil => rfl
  | cons x rest ih =>
    rw [placeAll, ih, place]
    split <;> rfl

namespace Awaits

/-- The directory above the first entry is there: it comes before all that stands in it. -/
theorem parent (h : fs.Awaits at_ (x :: rest)) : fs.find? (at_ ++ x.1.dropLast) = some .directory := by
  refine (h.above x List.mem_cons_self).resolve_right fun hmem => ?_
  have hne := h.ne_nil x List.mem_cons_self
  have hother : x.1.dropLast ≠ x.1 := by
    intro heq
    have hlength := congrArg List.length heq
    have hpos := List.length_pos_iff.mpr hne
    rw [List.length_dropLast] at hlength
    omega
  rcases List.mem_cons.mp hmem with heq | hrest
  · exact hother (congrArg Prod.fst heq)
  · have hle := ((List.pairwise_cons.mp h.order).1 _ hrest).2
    exact hother (Path.partsLe_antisymm _ _ (Path.partsLe_of_prefix (List.dropLast_prefix _)) hle)

/-- When the first entry has been put, the others can be put. -/
theorem step (h : fs.Awaits at_ (x :: rest)) : (fs.place at_ x).Awaits at_ rest := by
  have hother : ∀ y ∈ rest, at_ ++ y.1 ≠ at_ ++ x.1 := by
    intro y hy heq
    exact ((List.pairwise_cons.mp h.order).1 y hy).1 (List.append_cancel_left heq).symm
  refine ⟨fun y hy => ?_, fun y hy => h.ne_nil y (List.mem_cons_of_mem x hy),
    fun y hy => h.plain y (List.mem_cons_of_mem x hy), fun y hy => ?_, (List.pairwise_cons.mp h.order).2⟩
  · rw [find?_place_of_ne (hother y hy)]
    exact h.absent y (List.mem_cons_of_mem x hy)
  · have hkept (hthere : fs.find? (at_ ++ y.1.dropLast) = some .directory) :
        (fs.place at_ x).find? (at_ ++ y.1.dropLast) = some .directory := by
      rw [find?_place_of_ne]
      · exact hthere
      · intro heq
        rw [heq, h.absent x List.mem_cons_self] at hthere
        cases hthere
    rcases h.above y (List.mem_cons_of_mem x hy) with hthere | hmem
    · exact Or.inl (hkept hthere)
    · rcases List.mem_cons.mp hmem with heq | hrest
      · -- the directory above is what has been put
        have hne : at_ ++ x.1 ≠ [] := List.append_ne_nil_of_right_ne_nil at_ (h.ne_nil x List.mem_cons_self)
        left
        subst heq
        rw [place, if_neg Entry.noConfusion]
        exact find?_insert_self fs hne _
      · exact Or.inr hrest

/-- Entries stand where they have been put, but for pipes. -/
theorem find?_placeAll (h : fs.Awaits at_ entries) (hx : x ∈ entries) :
    (fs.placeAll at_ entries).find? (at_ ++ x.1) = if x.2 = .pipe then none else some x.2 := by
  induction entries generalizing fs with
  | nil => cases hx
  | cons y rest ih =>
    rw [placeAll]
    rcases List.mem_cons.mp hx with rfl | hx
    · have hrest : ∀ y ∈ rest, at_ ++ x.1 ≠ at_ ++ y.1 := by
        intro y hy heq
        exact ((List.pairwise_cons.mp h.order).1 y hy).1 (List.append_cancel_left heq)
      rw [find?_placeAll_of_ne hrest, place]
      split
      · exact h.absent x List.mem_cons_self
      · exact find?_insert_self fs (List.append_ne_nil_of_right_ne_nil at_ (h.ne_nil x List.mem_cons_self)) _
    · exact ih h.step hx

/-- A directory that a path leads to stays one while it is filled. -/
theorem isBase_place (h : fs.Awaits (b ++ part) (x :: rest)) (hbase : fs.IsBase base b) (hup : ".." ∉ part) :
    (fs.place (b ++ part) x).IsBase base b := by
  rw [place]
  split
  · exact hbase
  · have hnone := h.absent x List.mem_cons_self
    have hparent := h.parent
    have hne := h.ne_nil x List.mem_cons_self
    rw [List.append_assoc] at hnone hparent ⊢
    rw [← List.dropLast_append_of_ne_nil hne] at hparent
    refine hbase.insert (hbase.put (List.append_ne_nil_of_right_ne_nil part hne) ?_ hparent hnone) hnone
    rw [List.mem_append, not_or]
    exact ⟨hup, h.plain x List.mem_cons_self⟩

theorem isBase_placeAll (h : fs.Awaits (b ++ part) entries) (hbase : fs.IsBase base b) (hup : ".." ∉ part) :
    (fs.placeAll (b ++ part) entries).IsBase base b := by
  induction entries generalizing fs with
  | nil => exact hbase
  | cons x rest ih => exact ih h.step (h.isBase_place hbase hup)

end Awaits

/-! ## All that is below a directory -/

/-- Nothing stands below what is no directory. -/
theorem IsTree.find?_below (h : fs.IsTree) (hl : fs.find? l ≠ some .directory) (hne : names ≠ []) :
    fs.find? (l ++ names) = none := by
  by_contra hfound
  obtain ⟨e, he⟩ := Option.ne_none_iff_exists'.mp hfound
  exact hl (h.directory_of_prefix he (List.prefix_append l names) fun heq => hne (List.self_eq_append_right.mp heq))

/-- Nothing stands below where nothing stands. -/
theorem IsTree.find?_below_of_missing (h : fs.IsTree) (hl : fs.find? l = none) (names : List String) :
    fs.find? (l ++ names) = none := by
  by_cases hnil : names = []
  · rw [hnil, List.append_nil]
    exact hl
  · exact h.find?_below (by simp [hl]) hnil

/-- What is below a directory is what stands under more names. -/
theorem mem_below (htree : fs.IsTree) : x ∈ fs.below l ↔ x.1 ≠ [] ∧ fs.find? (l ++ x.1) = some x.2 := by
  rw [below, List.mem_mergeSort, List.mem_filterMap]
  constructor
  · rintro ⟨e, he, hnames⟩
    split at hnames
    · cases hnames
    · rename_i names hnil hafter
      cases hnames
      refine ⟨hnil, ?_⟩
      rw [← Path.namesAfter_eq_some.mp hafter]
      exact htree.found e he
    · cases hnames
  · rintro ⟨hne, hfound⟩
    refine ⟨(l ++ x.1, x.2), mem_of_find (List.append_ne_nil_of_right_ne_nil l hne) hfound, ?_⟩
    have hafter : Path.namesAfter? l (l ++ x.1) = some x.1 := Path.namesAfter_eq_some.mpr rfl
    dsimp only
    split
    · rename_i hnil
      rw [hafter] at hnil
      exact absurd (Option.some.inj hnil) hne
    · rename_i names hother hnames
      rw [hafter] at hnames
      rw [← Option.some.inj hnames]
    · rename_i hnone
      rw [hafter] at hnone
      cases hnone

/-- What is below a directory is listed in order, and once. -/
theorem pairwise_below (honce : fs.IsListing) (l : Location) :
    (fs.below l).Pairwise fun x y => x.1 ≠ y.1 ∧ Path.partsLe x.1 y.1 = true := by
  have hsorted : (fs.below l).Pairwise fun x y => Path.partsLe x.1 y.1 = true :=
    List.pairwise_mergeSort (fun x y z => Path.partsLe_trans x.1 y.1 z.1) (fun x y => Path.partsLe_total x.1 y.1) _
  have hentries : fs.entries.Pairwise fun x y => x.1 ≠ y.1 := List.pairwise_map.mp honce
  have hother : (fs.below l).Pairwise fun x y => x.1 ≠ y.1 := by
    rw [below]
    refine (List.mergeSort_perm _ _).symm.pairwise ?_ fun h => Ne.symm h
    refine List.Pairwise.filterMap _ ?_ hentries
    -- the names below the directory make up the whole location
    intro e e' hne x hx y hy heq
    split at hx
    · cases hx
    · rename_i names hnil hafter
      split at hy
      · cases hy
      · rename_i names' hnil' hafter'
        cases hx
        cases hy
        have hnames : names = names' := heq
        apply hne
        rw [Path.namesAfter_eq_some.mp hafter, Path.namesAfter_eq_some.mp hafter', hnames]
      · cases hy
    · cases hx
  exact hother.and hsorted

/-- All that is below a directory can be put into an empty one. -/
theorem awaits_below (htree : files.IsTree) (honce : files.IsListing) (hdirectory : fs.find? at_ = some .directory)
    (hempty : ∀ names, names ≠ [] → fs.find? (at_ ++ names) = none) : fs.Awaits at_ (files.below l) := by
  refine ⟨fun x hx => hempty x.1 ((mem_below htree).mp hx).1, fun x hx => ((mem_below htree).mp hx).1, fun x hx => ?_,
    fun x hx => ?_, pairwise_below honce l⟩
  · intro hmem
    exact htree.not_up ((mem_below htree).mp hx).2 (List.mem_append_right l hmem)
  · obtain ⟨hne, hfound⟩ := (mem_below htree).mp hx
    by_cases hnil : x.1.dropLast = []
    · rw [hnil, List.append_nil]
      exact Or.inl hdirectory
    · refine Or.inr ((mem_below htree).mpr ⟨hnil, ?_⟩)
      rw [← List.dropLast_append_of_ne_nil hne]
      exact htree.parents _ _ (List.append_ne_nil_of_right_ne_nil l hne) hfound

/-- Whether a pipe stands at a location or below it. -/
def hasPipe (fs : Files) (l : Location) : Bool :=
  fs.entries.any fun e => l.isPrefixOf e.1 && e.2 = .pipe

theorem hasPipe_iff (htree : fs.IsTree) : fs.hasPipe l = true ↔ ∃ names, fs.find? (l ++ names) = some .pipe := by
  rw [hasPipe, List.any_eq_true]
  constructor
  · rintro ⟨⟨at_, e⟩, he, hpipe⟩
    rw [Bool.and_eq_true, List.isPrefixOf_iff_prefix, decide_eq_true_eq] at hpipe
    obtain ⟨⟨names, rfl⟩, rfl⟩ := hpipe
    exact ⟨names, htree.found _ he⟩
  · rintro ⟨names, hfound⟩
    have hne : l ++ names ≠ [] := by
      intro hnil
      rw [hnil] at hfound
      cases hfound
    refine ⟨_, mem_of_find hne hfound, ?_⟩
    rw [Bool.and_eq_true, List.isPrefixOf_iff_prefix, decide_eq_true_eq]
    exact ⟨List.prefix_append l names, rfl⟩

/-- Whether there is a pipe depends on what stands at the location and below it only. -/
theorem hasPipe_congr (htree : fs.IsTree) (htree' : fs'.IsTree)
    (hsame : ∀ names, fs'.find? (l ++ names) = fs.find? (l ++ names)) : fs'.hasPipe l = fs.hasPipe l := by
  rw [Bool.eq_iff_iff, hasPipe_iff htree, hasPipe_iff htree']
  exact exists_congr fun names => by rw [hsame names]

/-- An empty directory that is filled with all that is below another one comes to be the same, if there
is no pipe. -/
theorem find?_placeAll_below (htree : files.IsTree) (honce : files.IsListing) (hl : files.find? l = some .directory)
    (hpipe : files.hasPipe l = false) (hdirectory : fs.find? at_ = some .directory)
    (hempty : ∀ names, names ≠ [] → fs.find? (at_ ++ names) = none) (names : List String) :
    (fs.placeAll at_ (files.below l)).find? (at_ ++ names) = files.find? (l ++ names) := by
  by_cases hnil : names = []
  · subst hnil
    rw [List.append_nil, List.append_nil, hl, find?_placeAll_of_ne, hdirectory]
    intro x hx heq
    exact ((mem_below htree).mp hx).1 (List.self_eq_append_right.mp heq)
  · cases hfound : files.find? (l ++ names) with
    | none =>
      rw [find?_placeAll_of_ne, hempty names hnil]
      intro x hx heq
      rw [List.append_cancel_left heq, ((mem_below htree).mp hx).2] at hfound
      cases hfound
    | some e =>
      have hmem : (names, e) ∈ files.below l := (mem_below htree).mpr ⟨hnil, hfound⟩
      rw [(awaits_below htree honce hdirectory hempty).find?_placeAll hmem, if_neg]
      rintro rfl
      rw [(hasPipe_iff htree).mpr ⟨names, hfound⟩] at hpipe
      cases hpipe

end Files

end Stopwatch

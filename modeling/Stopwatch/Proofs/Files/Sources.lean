/-
  Where sources stand.

  The sources under a directory are paths below it, whose names are those of entries below
  its location.  They are listed in order, so it only matters which entries there are.
-/
import Mathlib.Data.String.Basic
import Stopwatch.Files.Sources
import Stopwatch.Proofs.Files.Tree

namespace Stopwatch

/-! ## The order of names -/

theorem Path.partsLe_cons {a b : String} {as bs : List String} :
    partsLe (a :: as) (b :: bs) = true ↔ a < b ∨ a = b ∧ partsLe as bs = true := by
  rw [partsLe]
  split
  · rename_i heq
    simp [heq]
  · rename_i hne
    simp [hne]

theorem Path.partsLe_trans (as bs cs : List String) (h : partsLe as bs = true) (h' : partsLe bs cs = true) :
    partsLe as cs = true := by
  induction as generalizing bs cs with
  | nil => rfl
  | cons a as ih =>
    cases bs with
    | nil => cases h
    | cons b bs =>
      cases cs with
      | nil => cases h'
      | cons c cs =>
        rw [partsLe_cons] at h h' ⊢
        rcases h with hab | ⟨rfl, hrest⟩
        · rcases h' with hbc | ⟨rfl, -⟩
          · exact Or.inl (hab.trans hbc)
          · exact Or.inl hab
        · rcases h' with hbc | ⟨rfl, hrest'⟩
          · exact Or.inl hbc
          · exact Or.inr ⟨rfl, ih bs cs hrest hrest'⟩

theorem Path.partsLe_total (as bs : List String) : (partsLe as bs || partsLe bs as) = true := by
  rw [Bool.or_eq_true]
  induction as generalizing bs with
  | nil => exact Or.inl rfl
  | cons a as ih =>
    cases bs with
    | nil => exact Or.inr rfl
    | cons b bs =>
      rw [partsLe_cons, partsLe_cons]
      rcases lt_trichotomy a b with hlt | rfl | hgt
      · exact Or.inl (Or.inl hlt)
      · exact (ih bs).imp (fun h => Or.inr ⟨rfl, h⟩) fun h => Or.inr ⟨rfl, h⟩
      · exact Or.inr (Or.inl hgt)

theorem Path.partsLe_antisymm (as bs : List String) (h : partsLe as bs = true) (h' : partsLe bs as = true) :
    as = bs := by
  induction as generalizing bs with
  | nil =>
    cases bs with
    | nil => rfl
    | cons b bs => cases h'
  | cons a as ih =>
    cases bs with
    | nil => cases h
    | cons b bs =>
      rw [partsLe_cons] at h h'
      rcases h with hlt | ⟨rfl, hrest⟩
      · rcases h' with hgt | ⟨rfl, -⟩
        · exact absurd hgt (lt_asymm hlt)
        · exact absurd hlt (lt_irrefl _)
      · rcases h' with hgt | ⟨-, hrest'⟩
        · exact absurd hgt (lt_irrefl _)
        · rw [ih bs hrest hrest']

theorem Path.partsLe_append_left (front as bs : List String) :
    partsLe (front ++ as) (front ++ bs) = partsLe as bs := by
  induction front with
  | nil => rfl
  | cons name front ih => rw [List.cons_append, List.cons_append, partsLe, if_pos rfl, ih]

/-- Paths below one path are in the order of what they have below it. -/
theorem Path.le_below (root : Path) (as bs : List String) :
    Path.le ⟨root.anchor, root.names ++ as⟩ ⟨root.anchor, root.names ++ bs⟩ = partsLe as bs := by
  rw [le, parts, parts]
  cases hanchor : root.isAbsolute with
  | true =>
    have habsolute (names : List String) : Path.isAbsolute ⟨root.anchor, names⟩ = true := hanchor
    rw [habsolute, habsolute, if_pos rfl, if_pos rfl, partsLe, if_pos rfl, partsLe_append_left]
  | false =>
    have hrelative (names : List String) : Path.isAbsolute ⟨root.anchor, names⟩ = false := hanchor
    rw [hrelative, hrelative, if_neg Bool.false_ne_true, if_neg Bool.false_ne_true, partsLe_append_left]

namespace Files

variable {fs : Files} {root path : Path} {suffix : String} {names : List String} {l : Location}

theorem mem_sourceNames :
    names ∈ fs.sourceNames l suffix ↔ isSource suffix names = true ∧ ∃ e, (l ++ names, e) ∈ fs.entries := by
  rw [sourceNames, List.mem_mergeSort, List.mem_filter, List.mem_filterMap, and_comm]
  refine and_congr_right fun _ => ?_
  constructor
  · rintro ⟨⟨l', e⟩, he, hafter⟩
    rw [Path.namesAfter_eq_some] at hafter
    exact ⟨e, hafter ▸ he⟩
  · rintro ⟨e, he⟩
    exact ⟨_, he, Path.namesAfter_eq_some.mpr rfl⟩

/-- A source is the root itself, if that is a file, or a path below it. -/
theorem mem_sources :
    path ∈ fs.sources root suffix ↔
      fs.isFile root = true ∧ path = root ∨
      fs.isFile root = false ∧ ∃ l names, fs.locate root = .ok l ∧ fs.find? l = some .directory ∧
        names ∈ fs.sourceNames l suffix ∧ path = ⟨root.anchor, root.names ++ names⟩ := by
  rw [sources]
  cases hfile : fs.isFile root with
  | true => simp
  | false =>
    cases hlocate : fs.locate root with
    | error fault => simp
    | ok l =>
      by_cases hfound : fs.find? l = some .directory
      · simp [hfound, eq_comm]
      · simp [hfound]

/-- No source is written with double dots, but for those of the root. -/
theorem IsTree.not_up_of_mem_sourceNames (h : fs.IsTree) (hnames : names ∈ fs.sourceNames l suffix) :
    ".." ∉ names := by
  obtain ⟨-, e, he⟩ := mem_sourceNames.mp hnames
  exact fun hmem => h.plain _ he (List.mem_append_right _ hmem)

/-- The names above a source are those of directories. -/
theorem IsTree.directory_above (h : fs.IsTree) {dirs begun : List String} {name : String} {e : Entry}
    (he : (l ++ (dirs ++ [name]), e) ∈ fs.entries) (hbegun : begun <+: dirs) :
    fs.find? (l ++ begun) = some .directory := by
  obtain ⟨rest, rfl⟩ := hbegun
  refine h.directory_of_prefix (h.found _ he) ⟨rest ++ [name], by simp⟩ fun heq => ?_
  have hlength := congrArg List.length heq
  simp only [List.length_append, List.length_singleton] at hlength
  omega

/-! ## Which entries there are -/

/-- Files in which no location is listed twice. -/
def IsListing (fs : Files) : Prop :=
  (fs.entries.map Prod.fst).Nodup

instance (fs : Files) : Decidable fs.IsListing :=
  inferInstanceAs (Decidable (List.Nodup _))

theorem IsListing.erase (h : fs.IsListing) (l : Location) : (fs.erase l).IsListing := by
  have hsublist : ((fs.erase l).entries.map Prod.fst).Sublist (fs.entries.map Prod.fst) :=
    (List.filter_sublist).map Prod.fst
  exact List.Nodup.sublist hsublist h

theorem IsListing.insert (h : fs.IsListing) (l : Location) (e : Entry) : (fs.insert l e).IsListing := by
  rw [IsListing, Files.insert, List.map_cons, List.nodup_cons]
  refine ⟨fun hmem => ?_, h.erase l⟩
  obtain ⟨e', he', heq⟩ := List.mem_map.mp hmem
  obtain ⟨-, hne⟩ := List.mem_filter.mp he'
  exact absurd heq (by simpa using hne)

/-- Names lie below a location if there is an entry. -/
theorem exists_mem_entries_iff (h : fs.IsTree) (hne : l ≠ []) :
    (∃ e, (l, e) ∈ fs.entries) ↔ fs.find? l ≠ none := by
  constructor
  · rintro ⟨e, he⟩ hnone
    rw [h.found _ he] at hnone
    cases hnone
  · intro hfound
    obtain ⟨e, he⟩ := Option.ne_none_iff_exists'.mp hfound
    exact ⟨e, mem_of_find hne he⟩

theorem nodup_below (h : fs.IsListing) (l : Location) :
    (fs.entries.filterMap fun e => Path.namesAfter? l e.1).Nodup := by
  have hmap : (fs.entries.filterMap fun e => Path.namesAfter? l e.1) =
      (fs.entries.map Prod.fst).filterMap (Path.namesAfter? l) := by
    rw [List.filterMap_map]
    rfl
  rw [hmap]
  refine List.Pairwise.filterMap _ ?_ h
  intro at_ at_' hne names hnames names' hnames' heq
  rw [Path.namesAfter_eq_some.mp hnames, Path.namesAfter_eq_some.mp hnames', heq] at hne
  exact hne rfl

theorem nodup_sourceNames (h : fs.IsListing) (l : Location) (suffix : String) : (fs.sourceNames l suffix).Nodup :=
  (List.mergeSort_perm _ _).nodup_iff.mpr ((nodup_below h l).filter _)

/-- No source is listed twice. -/
theorem nodup_sources (h : fs.IsListing) (root : Path) (suffix : String) : (fs.sources root suffix).Nodup := by
  rw [sources]
  split
  · exact List.pairwise_singleton _ _
  · split
    · exact List.Pairwise.nil
    · split
      · refine List.pairwise_map.mpr ((nodup_sourceNames h _ suffix).imp fun hne heq => hne ?_)
        exact List.append_cancel_left (Path.mk.inj heq).2
      · exact List.Pairwise.nil

/-- Source names are listed in order. -/
theorem pairwise_sourceNames (fs : Files) (l : Location) (suffix : String) :
    (fs.sourceNames l suffix).Pairwise fun a b => Path.partsLe a b = true :=
  List.pairwise_mergeSort Path.partsLe_trans Path.partsLe_total _

/-- Sources are listed in the order of their paths. -/
theorem pairwise_sources (fs : Files) (root : Path) (suffix : String) :
    (fs.sources root suffix).Pairwise fun p q => p.le q = true := by
  rw [sources]
  split
  · exact List.pairwise_singleton _ _
  · split
    · exact List.Pairwise.nil
    · split
      · refine List.pairwise_map.mpr ((pairwise_sourceNames fs _ suffix).imp fun hle => ?_)
        rw [Path.le_below]
        exact hle
      · exact List.Pairwise.nil

/-- The sources below a location are the same if entries stand at the same source names. -/
theorem sourceNames_congr {fs' : Files} (h : fs.IsTree) (h' : fs'.IsTree) (honce : fs.IsListing)
    (honce' : fs'.IsListing)
    (hsame : ∀ names, isSource suffix names = true → (fs'.find? (l ++ names) ≠ none ↔ fs.find? (l ++ names) ≠ none)) :
    fs'.sourceNames l suffix = fs.sourceNames l suffix := by
  have hmem (names : List String) : names ∈ fs'.sourceNames l suffix ↔ names ∈ fs.sourceNames l suffix := by
    rw [mem_sourceNames, mem_sourceNames]
    refine and_congr_right fun hsource => ?_
    have hne : l ++ names ≠ [] := by
      intro hnil
      rw [(List.append_eq_nil_iff.mp hnil).2] at hsource
      cases hsource
    rw [exists_mem_entries_iff h' hne, exists_mem_entries_iff h hne]
    exact hsame names hsource
  exact List.Perm.eq_of_pairwise (fun a b _ _ => Path.partsLe_antisymm a b) (pairwise_sourceNames fs' l suffix)
    (pairwise_sourceNames fs l suffix)
    ((List.perm_ext_iff_of_nodup (nodup_sourceNames honce' l suffix) (nodup_sourceNames honce l suffix)).mpr hmem)

end Files

end Stopwatch

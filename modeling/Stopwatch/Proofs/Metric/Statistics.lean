/-
  Rankings.

  Both rankings of statistics are the first items of a list after a stable sort.  They are
  described by positions: a ranking takes distinct positions of the list, in the order of their
  items and, where items are equal, in the order of the list, and it leaves out only positions
  that come after all those that it takes.
-/
import Mathlib.Algebra.BigOperators.Group.List.Lemmas
import Mathlib.Data.Finset.Card
import Mathlib.Data.List.FinRange
import Mathlib.Data.List.Sort
import Stopwatch.Metric.Statistics
import Stopwatch.Proofs.Number.Order

namespace Stopwatch.Statistics

/-! ## Stable rankings -/

section Ranking

variable {α : Type} {le : α → α → Bool} {items : List α}

/-- A position comes before another one: its item does, and among equal items the list decides. -/
def Precedes (le : α → α → Bool) (items : List α) (i j : Fin items.length) : Prop :=
  le items[i] items[j] = true ∧ (le items[j] items[i] = true → i < j)

/-- Positions are the first ones of a ranking. -/
structure AreFirst (le : α → α → Bool) (items : List α) (n : Nat) (positions : List (Fin items.length)) : Prop where
  length : positions.length = min n items.length
  nodup : positions.Nodup
  ordered : positions.Pairwise (Precedes le items)
  leftOut : ∀ i ∉ positions, ∀ j ∈ positions, Precedes le items j i

/-- All positions of a list, in the order of a ranking. -/
def ranked (le : α → α → Bool) (items : List α) : List (Fin items.length) :=
  (List.finRange items.length).mergeSort fun i j => le items[i] items[j]

theorem map_ranked (le : α → α → Bool) (items : List α) : (ranked le items).map items.get = items.mergeSort le := by
  have hsort : (ranked le items).map items.get = ((List.finRange items.length).map items.get).mergeSort le :=
    List.map_mergeSort fun _ _ _ _ => rfl
  rw [hsort, List.map_get_finRange]

theorem ranked_perm (le : α → α → Bool) (items : List α) : (ranked le items).Perm (List.finRange items.length) :=
  List.mergeSort_perm _ _

theorem nodup_ranked (le : α → α → Bool) (items : List α) : (ranked le items).Nodup :=
  (ranked_perm le items).nodup_iff.mpr (List.nodup_finRange _)

/-- In a list without repetitions two items stand in one order only. -/
theorem not_sublist_swap {l : List α} {a b : α} (hl : l.Nodup) (h : [a, b].Sublist l) : ¬[b, a].Sublist l := by
  intro hswap
  obtain ⟨front, back, rfl, ha, hb⟩ := List.cons_sublist_iff.mp h
  obtain ⟨front', back', heq, hb', ha'⟩ := List.cons_sublist_iff.mp hswap
  rw [List.singleton_sublist] at hb ha'
  rcases List.append_eq_append_iff.mp heq with ⟨middle, rfl, rfl⟩ | ⟨middle, rfl, rfl⟩
  · rw [heq] at hl
    exact List.disjoint_of_nodup_append hl (List.mem_append_left _ ha) ha'
  · exact List.disjoint_of_nodup_append hl (List.mem_append_left _ hb') hb

/-- Positions stand in their own order in the list of all positions. -/
theorem sublist_finRange {n : Nat} {i j : Fin n} (h : i < j) : [i, j].Sublist (List.finRange n) :=
  List.sublist_of_subperm_of_pairwise (List.subperm_of_subset (by simp [h.ne]) fun _ _ => List.mem_finRange _)
    (by simpa using h) (List.pairwise_lt_finRange n)

variable (htrans : ∀ a ∈ items, ∀ b ∈ items, ∀ c ∈ items, le a b = true → le b c = true → le a c = true)
  (htotal : ∀ a ∈ items, ∀ b ∈ items, (le a b || le b a) = true)

include htrans htotal

/-- The sort puts positions in the order of their items and keeps the order of the list among equal items. -/
theorem pairwise_ranked : (ranked le items).Pairwise (Precedes le items) := by
  have htrans' (i j k : Fin items.length) : le items[i] items[j] = true → le items[j] items[k] = true →
      le items[i] items[k] = true :=
    htrans _ (List.getElem_mem i.2) _ (List.getElem_mem j.2) _ (List.getElem_mem k.2)
  have htotal' (i j : Fin items.length) : (le items[i] items[j] || le items[j] items[i]) = true :=
    htotal _ (List.getElem_mem i.2) _ (List.getElem_mem j.2)
  rw [List.pairwise_iff_forall_sublist]
  intro i j hij
  have hsorted := List.pairwise_mergeSort htrans' htotal' (List.finRange items.length)
  refine ⟨List.pairwise_iff_forall_sublist.mp hsorted hij, fun hback => ?_⟩
  -- if `j` stood earlier in the list, the sort would have kept it in front of `i`
  have hne : i ≠ j := by
    have hnodup := hij.nodup (nodup_ranked le items)
    simpa using hnodup
  refine lt_of_not_ge fun hge => not_sublist_swap (nodup_ranked le items) hij ?_
  exact List.pair_sublist_mergeSort htrans' htotal' hback (sublist_finRange (lt_of_le_of_ne hge hne.symm))

/-- The first items of a ranking are those at its first positions. -/
theorem exists_areFirst (n : Nat) :
    ∃ positions, firstItems n (items.mergeSort le) = positions.map items.get ∧ AreFirst le items n positions := by
  have hordered := pairwise_ranked htrans htotal
  refine ⟨(ranked le items).take n, ?_, ?_, ?_, ?_, ?_⟩
  · rw [List.map_take, map_ranked]
    rfl
  · rw [List.length_take, (ranked_perm le items).length_eq, List.length_finRange]
  · exact (nodup_ranked le items).sublist (List.take_sublist _ _)
  · exact hordered.sublist (List.take_sublist _ _)
  · intro i hi j hj
    have hmem : i ∈ ranked le items := (ranked_perm le items).mem_iff.mpr (List.mem_finRange i)
    rw [← List.take_append_drop n (ranked le items)] at hmem hordered
    exact (List.pairwise_append.mp hordered).2.2 j hj i ((List.mem_append.mp hmem).resolve_left hi)

end Ranking

/-! ## Slowness -/

/-- A metric comes before another one of a list in the ranking by time: it took no less time, and
among equal times it stands earlier in the list. -/
def IsSlower (metrics : List Metric) (i j : Fin metrics.length) : Prop :=
  metrics[j].totalTime ≤ metrics[i].totalTime ∧
    ((metrics[i].totalTime == metrics[j].totalTime) = true → i < j)

section Slowness

variable {metrics : List Metric} (hnumbers : ∀ m ∈ metrics, m.totalTime.isNaN = false)

include hnumbers

theorem precedes_iff_isSlower (i j : Fin metrics.length) :
    Precedes (fun a b => a.totalTime ≥ b.totalTime) metrics i j ↔ IsSlower metrics i j := by
  have hi := hnumbers _ (List.getElem_mem i.2)
  have hj := hnumbers _ (List.getElem_mem j.2)
  simp only [Precedes, IsSlower, decide_eq_true_eq, ge_iff_le, Fin.getElem_fin, Number.le_iff_place hi hj,
    Number.le_iff_place hj hi, Number.beq_iff_place hi hj]
  exact and_congr_right fun hle => ⟨fun h heq => h heq.le, fun h hge => h (le_antisymm hge hle)⟩

/-- The slowest calls are those at distinct positions of the list of metrics, as many as are asked for or
as there are.  They stand in the order of their times, the longest first, and among equal times in the order
of the list; what is left out took no longer than any of them and, if it took as long, stands later. -/
theorem slowest_ofMetrics (n : Nat) :
    ∃ positions : List (Fin metrics.length),
      (ofMetrics metrics n).slowest = positions.map metrics.get ∧ positions.Nodup ∧
        positions.length = min n metrics.length ∧ positions.Pairwise (IsSlower metrics) ∧
        ∀ i ∉ positions, ∀ j ∈ positions, IsSlower metrics j i := by
  have htrans : ∀ a ∈ metrics, ∀ b ∈ metrics, ∀ c ∈ metrics, decide (a.totalTime ≥ b.totalTime) = true →
      decide (b.totalTime ≥ c.totalTime) = true → decide (a.totalTime ≥ c.totalTime) = true := by
    intro a ha b hb c hc hab hbc
    simp only [decide_eq_true_eq, ge_iff_le, Number.le_iff_place (hnumbers _ hb) (hnumbers _ ha),
      Number.le_iff_place (hnumbers _ hc) (hnumbers _ hb),
      Number.le_iff_place (hnumbers _ hc) (hnumbers _ ha)] at hab hbc ⊢
    exact hbc.trans hab
  have htotal : ∀ a ∈ metrics, ∀ b ∈ metrics,
      (decide (a.totalTime ≥ b.totalTime) || decide (b.totalTime ≥ a.totalTime)) = true := by
    intro a ha b hb
    simp only [Bool.or_eq_true, decide_eq_true_eq, ge_iff_le, Number.le_iff_place (hnumbers _ hb) (hnumbers _ ha),
      Number.le_iff_place (hnumbers _ ha) (hnumbers _ hb)]
    exact le_total _ _
  obtain ⟨positions, hslowest, hfirst⟩ := exists_areFirst htrans htotal n
  refine ⟨positions, hslowest, hfirst.nodup, hfirst.length, ?_, fun i hi j hj => ?_⟩
  · exact hfirst.ordered.imp fun h => (precedes_iff_isSlower hnumbers _ _).mp h
  · exact (precedes_iff_isSlower hnumbers _ _).mp (hfirst.leftOut i hi j hj)

end Slowness

/-- The same on four calls of which two are kept: of the two that took equally long, the earlier one. -/
theorem slowest_ofMetrics_tied :
    let metrics := [Metric.ofCall "x" 0.25, Metric.ofCall "y" 0.5, Metric.ofCall "z" 0.25, Metric.ofCall "w" (-0.0)]
    (∀ m ∈ metrics, m.totalTime.isNaN = false) ∧
      (ofMetrics metrics 2).slowest.map (·.name) = ["y", "x"] ∧
      ∃ positions : List (Fin metrics.length),
        (ofMetrics metrics 2).slowest = positions.map metrics.get ∧ positions.Nodup ∧
          positions.length = min 2 metrics.length ∧ positions.Pairwise (IsSlower metrics) ∧
          ∀ i ∉ positions, ∀ j ∈ positions, IsSlower metrics j i := by
  intro metrics
  have hnumbers : ∀ m ∈ metrics, m.totalTime.isNaN = false := by
    have hall : (metrics.all fun m => m.totalTime.isNaN = false) = true := by decide +kernel
    simpa using hall
  have hnames : (ofMetrics metrics 2).slowest.map (·.name) = ["y", "x"] := by
    have hslower : (0.25 : Float) ≤ 0.5 := by decide +kernel
    have hfaster : ¬(0.5 : Float) ≤ 0.25 := by decide +kernel
    have hequal : (0.25 : Float) ≤ 0.25 := by decide +kernel
    have hzero : (-0.0 : Float) ≤ 0.25 := by decide +kernel
    simp [metrics, ofMetrics, firstItems, bySlowness, List.mergeSort, Metric.ofCall, hslower, hfaster, hequal, hzero]
  exact ⟨hnumbers, hnames, slowest_ofMetrics hnumbers 2⟩

/-! ## Counted names -/

theorem eraseDups_concat {names : List String} (name : String) :
    (names ++ [name]).eraseDups = if name ∈ names then names.eraseDups else names.eraseDups ++ [name] := by
  rw [List.eraseDups_append, List.removeAll, List.filter_singleton]
  by_cases hold : name ∈ names
  · simp [hold]
  · simp [hold, List.eraseDups_cons]

theorem nodup_eraseDups (names : List String) : names.eraseDups.Nodup := by
  induction names using List.reverseRecOn with
  | nil => simp
  | append_singleton names name ih =>
    rw [eraseDups_concat]
    split
    · exact ih
    · rename_i hnew
      refine List.nodup_append.mpr ⟨ih, List.nodup_singleton _, fun other hother _ hname => ?_⟩
      obtain rfl := List.mem_singleton.mp hname
      rintro rfl
      exact hnew (List.mem_eraseDups.mp hother)

/-- The first occurrences of names stand in the order of the list. -/
theorem pairwise_idxOf_eraseDups (names : List String) :
    names.eraseDups.Pairwise fun a b => names.idxOf a < names.idxOf b := by
  induction names using List.reverseRecOn with
  | nil => simp
  | append_singleton names name ih =>
    have hold {a : String} (ha : a ∈ names) : (names ++ [name]).idxOf a = names.idxOf a := by
      rw [List.idxOf_append, if_pos ha]
    have hbefore : names.eraseDups.Pairwise fun a b => (names ++ [name]).idxOf a < (names ++ [name]).idxOf b := by
      refine ih.imp_of_mem fun ha hb hlt => ?_
      rwa [hold (List.mem_eraseDups.mp ha), hold (List.mem_eraseDups.mp hb)]
    rw [eraseDups_concat]
    split
    · exact hbefore
    · rename_i hnew
      refine List.pairwise_append.mpr ⟨hbefore, List.pairwise_singleton _ _, fun a ha b hb => ?_⟩
      obtain rfl := List.mem_singleton.mp hb
      have hmem := List.mem_eraseDups.mp ha
      rw [hold hmem, List.idxOf_append, if_neg hnew]
      exact Nat.lt_add_left _ (List.idxOf_lt_length_of_mem hmem)

/-- Counting a name once more changes its own count only. -/
theorem countName_map {keys : List String} (hkeys : keys.Nodup) (count : String → Nat) (name : String) :
    countName name (keys.map fun key => (key, count key)) =
      if name ∈ keys then keys.map fun key => (key, count key + if key = name then 1 else 0)
      else (keys.map fun key => (key, count key)) ++ [(name, 1)] := by
  induction keys with
  | nil => rfl
  | cons key keys ih =>
    obtain ⟨hkey, hrest⟩ := List.nodup_cons.mp hkeys
    rw [List.map_cons, countName, ih hrest]
    by_cases heq : key = name
    · subst heq
      -- the key occurs once, so the counts behind it stay as they are
      have hothers : keys.map (fun key' => (key', count key' + if key' = key then 1 else 0)) =
          keys.map fun key' => (key', count key') := by
        refine List.map_congr_left fun key' hkey' => ?_
        rw [if_neg fun h : key' = key => hkey (h ▸ hkey'), Nat.add_zero]
      simp [hothers]
    · by_cases hmem : name ∈ keys
      · simp [heq, hmem]
      · simp [heq, hmem, Ne.symm heq]

/-- Every name is counted, in the order of first occurrences. -/
theorem countNames_eq (names : List String) :
    countNames names = names.eraseDups.map fun name => (name, names.count name) := by
  -- names are counted from the front, so the last one is what the induction takes away
  induction names using List.reverseRecOn with
  | nil => rfl
  | append_singleton names name ih =>
    have hstep : countNames (names ++ [name]) = countName name (countNames names) := by
      rw [countNames, List.foldl_append]
      rfl
    rw [hstep, ih, countName_map (nodup_eraseDups names), eraseDups_concat]
    simp only [List.mem_eraseDups, List.count_append, List.count_singleton, beq_iff_eq]
    split
    · simp only [eq_comm]
    · rename_i hnew
      rw [List.map_append, List.map_singleton, if_pos rfl, List.count_eq_zero_of_not_mem hnew]
      congr 1
      refine List.map_congr_left fun other hother => ?_
      rw [if_neg, Nat.add_zero]
      rintro rfl
      exact hnew (List.mem_eraseDups.mp hother)

theorem map_fst_countNames (names : List String) : (countNames names).map Prod.fst = names.eraseDups := by
  rw [countNames_eq, List.map_map]
  exact List.map_id _

theorem map_snd_countNames (names : List String) :
    (countNames names).map Prod.snd = names.eraseDups.map fun name => names.count name := by
  rw [countNames_eq, List.map_map]
  rfl

theorem mem_countNames {names : List String} {c : String × Nat} :
    c ∈ countNames names ↔ c.1 ∈ names ∧ c.2 = names.count c.1 := by
  obtain ⟨name, count⟩ := c
  simp only [countNames_eq, List.mem_map, List.mem_eraseDups, Prod.mk.injEq]
  constructor
  · rintro ⟨_, hname, rfl, rfl⟩
    exact ⟨hname, rfl⟩
  · rintro ⟨hname, rfl⟩
    exact ⟨name, hname, rfl, rfl⟩

theorem length_countNames (names : List String) : (countNames names).length = names.toFinset.card := by
  rw [← List.length_map Prod.fst, map_fst_countNames, ← List.toFinset_card_of_nodup (nodup_eraseDups names)]
  congr 1
  ext name
  simp

/-- All counts together are as many as the names. -/
theorem sum_countNames (names : List String) : ((countNames names).map Prod.snd).sum = names.length := by
  have hperm : names.eraseDups.Perm names.dedup := by
    rw [List.perm_ext_iff_of_nodup (nodup_eraseDups names) names.nodup_dedup]
    simp
  rw [map_snd_countNames, (hperm.map _).sum_eq, List.sum_map_count_dedup_eq_length]

/-- Names are counted in the order of their first occurrences. -/
theorem pairwise_countNames (names : List String) :
    (countNames names).Pairwise fun c d => names.idxOf c.1 < names.idxOf d.1 := by
  rw [countNames_eq, List.pairwise_map]
  exact pairwise_idxOf_eraseDups names

/-! ## Calls -/

/-- The `n` names that occur most often among some names, each with how often it occurs.  Of names that
occur equally often the one that occurs first comes first. -/
structure IsTally (names : List String) (n : Nat) (tally : List (String × Nat)) : Prop where
  length : tally.length = min n names.toFinset.card
  distinct : (tally.map Prod.fst).Nodup
  counted : ∀ c ∈ tally, c.1 ∈ names ∧ c.2 = names.count c.1
  descending : tally.Pairwise fun c d => d.2 ≤ c.2
  firstSeen : tally.Pairwise fun c d => c.2 = d.2 → names.idxOf c.1 < names.idxOf d.1
  leftOut : ∀ name ∈ names, name ∉ tally.map Prod.fst → ∀ c ∈ tally, names.count name ≤ c.2 ∧
    (names.count name = c.2 → names.idxOf c.1 < names.idxOf name)

/-- The first of the counted names, by how often they occur, are a tally. -/
theorem isTally_firstItems (names : List String) (n : Nat) :
    IsTally names n (firstItems n (byCalls (countNames names))) := by
  have htrans : ∀ a ∈ countNames names, ∀ b ∈ countNames names, ∀ c ∈ countNames names,
      decide (a.2 ≥ b.2) = true → decide (b.2 ≥ c.2) = true → decide (a.2 ≥ c.2) = true := by
    intro a _ b _ c _
    simp only [decide_eq_true_eq]
    omega
  have htotal : ∀ a ∈ countNames names, ∀ b ∈ countNames names,
      (decide (a.2 ≥ b.2) || decide (b.2 ≥ a.2)) = true := by
    intro a _ b _
    simp only [Bool.or_eq_true, decide_eq_true_eq]
    omega
  obtain ⟨positions, htally, hfirst⟩ := exists_areFirst htrans htotal n
  have hseen {i j : Fin (countNames names).length} (hij : i < j) :
      names.idxOf (countNames names)[i].1 < names.idxOf (countNames names)[j].1 :=
    List.pairwise_iff_get.mp (pairwise_countNames names) i j hij
  have hprecedes {i j : Fin (countNames names).length}
      (hij : Precedes (fun a b => decide (a.2 ≥ b.2)) (countNames names) i j) :
      (countNames names)[j].2 ≤ (countNames names)[i].2 ∧
        ((countNames names)[i].2 = (countNames names)[j].2 →
          names.idxOf (countNames names)[i].1 < names.idxOf (countNames names)[j].1) :=
    ⟨of_decide_eq_true hij.1, fun heq => hseen (hij.2 (decide_eq_true heq.le))⟩
  -- no two positions have the same name, since each has its own first occurrence
  have hinjective {i j : Fin (countNames names).length}
      (heq : (countNames names)[i].1 = (countNames names)[j].1) : i = j := by
    rcases lt_trichotomy i j with hlt | heq' | hlt
    · exact absurd (hseen hlt) (by rw [heq]; exact lt_irrefl _)
    · exact heq'
    · exact absurd (hseen hlt) (by rw [heq]; exact lt_irrefl _)
  rw [byCalls, htally]
  refine ⟨?_, ?_, ?_, ?_, ?_, ?_⟩
  · rw [List.length_map, hfirst.length, length_countNames]
  · rw [List.map_map]
    exact hfirst.nodup.map fun i j heq => hinjective heq
  · intro c hc
    obtain ⟨i, -, rfl⟩ := List.mem_map.mp hc
    exact mem_countNames.mp (List.getElem_mem i.2)
  · exact List.pairwise_map.mpr (hfirst.ordered.imp fun hij => (hprecedes hij).1)
  · exact List.pairwise_map.mpr (hfirst.ordered.imp fun hij => (hprecedes hij).2)
  · -- a name that is left out has been counted too, and stands at a position that is left out
    intro name hname hleft c hc
    obtain ⟨j, hj, rfl⟩ := List.mem_map.mp hc
    obtain ⟨i, hi⟩ := List.mem_iff_get.mp (mem_countNames (c := (name, names.count name)).mpr ⟨hname, rfl⟩)
    have hi' : i ∉ positions := by
      intro hmem
      refine hleft (List.mem_map.mpr ⟨_, List.mem_map_of_mem hmem, ?_⟩)
      rw [hi]
    have hji := hprecedes (hfirst.leftOut i hi' j hj)
    have hitem : (countNames names)[i] = (name, names.count name) := hi
    rw [hitem] at hji
    exact ⟨hji.1, fun heq => hji.2 heq.symm⟩

/-- A ranking that is long enough has all counted names. -/
theorem firstItems_byCalls_perm {names : List String} {n : Nat} (h : names.toFinset.card ≤ n) :
    (firstItems n (byCalls (countNames names))).Perm (countNames names) := by
  have hperm := List.mergeSort_perm (countNames names) fun a b => a.2 ≥ b.2
  have hlength : (byCalls (countNames names)).length ≤ n := by
    rw [byCalls, hperm.length_eq, length_countNames]
    exact h
  rw [show firstItems n (byCalls (countNames names)) = byCalls (countNames names) from List.take_of_length_le hlength]
  exact hperm

/-- The names that are called most are a tally of the names of all metrics.  If none is left out, the counts
add up to the number of metrics, and there are as many of them as there are names. -/
theorem mostCalled_ofMetrics (metrics : List Metric) (n : Nat) :
    let statistics := ofMetrics metrics n
    IsTally (metrics.map (·.name)) n statistics.mostCalled ∧
      statistics.names = (metrics.map (·.name)).toFinset.card ∧
      (statistics.names ≤ n → (statistics.mostCalled.map Prod.snd).sum = statistics.calls ∧
        statistics.mostCalled.length = statistics.names) := by
  have htally := isTally_firstItems (metrics.map (·.name)) n
  have hnames : (ofMetrics metrics n).names = (metrics.map (·.name)).toFinset.card := length_countNames _
  refine ⟨htally, hnames, fun hall => ?_⟩
  rw [hnames] at hall ⊢
  refine ⟨?_, htally.length.trans (min_eq_right hall)⟩
  have hsum := ((firstItems_byCalls_perm hall).map Prod.snd).sum_eq
  rw [sum_countNames, List.length_map] at hsum
  exact hsum

/-- The same on four calls of three names, of which all are listed. -/
theorem mostCalled_ofMetrics_tied :
    let metrics := [Metric.ofCall "b" 1.0, Metric.ofCall "c" 1.0, Metric.ofCall "a" 1.0, Metric.ofCall "a" 1.0]
    let statistics := ofMetrics metrics 3
    statistics.mostCalled = [("a", 2), ("b", 1), ("c", 1)] ∧ statistics.names ≤ 3 ∧
      (statistics.mostCalled.map Prod.snd).sum = statistics.calls := by
  intro metrics statistics
  have hmost : statistics.mostCalled = [("a", 2), ("b", 1), ("c", 1)] := by
    simp [statistics, metrics, ofMetrics, firstItems, byCalls, List.mergeSort, Metric.ofCall, countNames, countName]
  have hnames : statistics.names ≤ 3 := by decide +kernel
  exact ⟨hmost, hnames, ((mostCalled_ofMetrics metrics 3).2.2 hnames).1⟩

end Stopwatch.Statistics

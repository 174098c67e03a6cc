/-
  Paths and their texts.

  The names of a path that has been read from a text are proper: they are neither empty
  nor a dot, and hold no slash.  A path with proper names is read back from its text.
-/
import Stopwatch.Path

namespace Stopwatch.Path

/-! ## Proper names -/

/-- A name that can stand in a path. -/
structure IsName (name : String) : Prop where
  ne_empty : name ≠ ""
  ne_dot : name ≠ "."
  no_slash : '/' ∉ name.toList

/-- A path whose names are proper. -/
def IsProper (p : Path) : Prop :=
  ∀ name ∈ p.names, IsName name

theorem not_mem_of_mem_splitSlashes {cs part : List Char} (h : part ∈ splitSlashes cs) : '/' ∉ part := by
  induction cs using splitSlashes.induct generalizing part with
  | case1 =>
    rw [splitSlashes, List.mem_singleton] at h
    rw [h]
    exact List.not_mem_nil
  | case2 rest ih =>
    rw [splitSlashes] at h
    rcases List.mem_cons.mp h with rfl | h
    · exact List.not_mem_nil
    · exact ih h
  | case3 c rest hc hsplit ih =>
    rw [splitSlashes, hsplit] at h
    · rw [List.mem_singleton.mp h, List.mem_singleton]
      exact fun heq => hc heq.symm
    · exact hc
  | case4 c rest hc first parts hsplit ih =>
    rw [hsplit] at ih
    rw [splitSlashes, hsplit] at h
    · rcases List.mem_cons.mp h with rfl | h
      · rw [List.mem_cons, not_or]
        exact ⟨fun heq => hc heq.symm, ih List.mem_cons_self⟩
      · exact ih (List.mem_cons_of_mem first h)
    · exact hc

/-- The names of a path that is read from a text are proper. -/
theorem ofText_isProper (text : String) : (ofText text).IsProper := by
  intro name hname
  obtain ⟨part, hpart, rfl⟩ := List.mem_map.mp hname
  obtain ⟨hmem, hkept⟩ := List.mem_filter.mp hpart
  rw [Bool.and_eq_true, decide_eq_true_eq, decide_eq_true_eq] at hkept
  constructor
  · intro h
    exact hkept.1 (by simpa using congrArg String.toList h)
  · intro h
    exact hkept.2 (by simpa using congrArg String.toList h)
  · rw [String.toList_ofList]
    exact not_mem_of_mem_splitSlashes hmem

/-- Names without double dots are settled. -/
theorem settle_of_not_mem {names : List String} (h : ".." ∉ names) : settle names = names := by
  have hfold (settled : List String) :
      names.foldl (fun settled name => if name = ".." then settled.dropLast else settled ++ [name])
        settled = settled ++ names := by
    induction names generalizing settled with
    | nil => rw [List.foldl_nil, List.append_nil]
    | cons name names ih =>
      rw [List.mem_cons, not_or] at h
      rw [List.foldl_cons, if_neg (Ne.symm h.1), ih h.2, List.append_assoc, List.singleton_append]
  exact hfold []

/-! ## Texts -/

theorem splitSlashes_of_not_mem {cs : List Char} (h : '/' ∉ cs) : splitSlashes cs = [cs] := by
  induction cs with
  | nil => rfl
  | cons c cs ih =>
    rw [List.mem_cons, not_or] at h
    rw [splitSlashes, ih h.2]
    exact fun heq => h.1 heq.symm

theorem splitSlashes_append {cs : List Char} (h : '/' ∉ cs) (rest : List Char) :
    splitSlashes (cs ++ '/' :: rest) = cs :: splitSlashes rest := by
  induction cs with
  | nil => rfl
  | cons c cs ih =>
    rw [List.mem_cons, not_or] at h
    rw [List.cons_append, splitSlashes, ih h.2]
    exact fun heq => h.1 heq.symm

/-- Names between slashes are the parts of their text. -/
theorem splitSlashes_intercalate {names : List String} (hne : names ≠ [])
    (h : ∀ name ∈ names, '/' ∉ name.toList) :
    splitSlashes (String.intercalate "/" names).toList = names.map String.toList := by
  induction names with
  | nil => contradiction
  | cons first names ih =>
    have hfirst := h first List.mem_cons_self
    cases names with
    | nil =>
      rw [String.intercalate_singleton, splitSlashes_of_not_mem hfirst]
      rfl
    | cons second names =>
      have hrest := ih (by simp) fun name hname => h name (List.mem_cons_of_mem first hname)
      rw [String.intercalate_cons_cons, String.toList_append, String.toList_append, List.append_assoc]
      change splitSlashes (first.toList ++ '/' :: (String.intercalate "/" (second :: names)).toList) = _
      rw [splitSlashes_append hfirst, hrest]
      rfl

/-- The first character of names between slashes is no slash. -/
theorem head_intercalate {names : List String} (h : ∀ name ∈ names, IsName name) :
    ∀ c ∈ (String.intercalate "/" names).toList.head?, c ≠ '/' := by
  cases names with
  | nil =>
    intro c hc
    rw [String.intercalate_nil] at hc
    cases hc
  | cons first names =>
    have hfirst := h first List.mem_cons_self
    obtain ⟨d, ds, hd⟩ : ∃ d ds, first.toList = d :: ds :=
      List.exists_cons_of_ne_nil fun hnil => hfirst.ne_empty (String.toList_eq_nil_iff.mp hnil)
    have hslash : d ≠ '/' := by
      intro heq
      exact hfirst.no_slash (by rw [hd, heq]; exact List.mem_cons_self)
    intro c hc
    cases names with
    | nil =>
      rw [String.intercalate_singleton, hd, List.head?_cons, Option.mem_some_iff] at hc
      exact hc ▸ hslash
    | cons second names =>
      rw [String.intercalate_cons_cons, String.toList_append, String.toList_append, hd,
        List.cons_append, List.cons_append, List.head?_cons, Option.mem_some_iff] at hc
      exact hc ▸ hslash

/-- What stands in front of names says where the path starts. -/
theorem anchorOf_text (anchor : Anchor) {joined : List Char} (h : ∀ c ∈ joined.head?, c ≠ '/') :
    anchorOf (anchor.text.toList ++ joined) = anchor := by
  cases joined with
  | nil => cases anchor <;> rfl
  | cons c joined =>
    have hc : c ≠ '/' := h c rfl
    cases anchor with
    | relative =>
      change anchorOf (c :: joined) = .relative
      rw [anchorOf]
      all_goals
        intros
        simp_all
    | root =>
      change anchorOf ('/' :: c :: joined) = .root
      rw [anchorOf]
      all_goals
        intros
        simp_all
    | doubleRoot =>
      change anchorOf ('/' :: '/' :: c :: joined) = .doubleRoot
      rw [anchorOf]
      intro rest heq
      exact hc (List.cons.inj heq).1

/-- The parts of a text are the names behind the anchor. -/
theorem splitSlashes_anchor (anchor : Anchor) (joined : List Char) :
    (splitSlashes (anchor.text.toList ++ joined)).filter (fun part => part ≠ [] && part ≠ ['.']) =
      (splitSlashes joined).filter (fun part => part ≠ [] && part ≠ ['.']) := by
  cases anchor <;> rfl

/-- A proper path is read back from its text. -/
theorem ofText_text {p : Path} (h : p.IsProper) : ofText p.text = p := by
  obtain ⟨anchor, names⟩ := p
  have hback : (names.map String.toList).map String.ofList = names := by
    rw [List.map_map]
    have hid : String.ofList ∘ String.toList = id := funext fun _ => String.ofList_toList
    rw [hid, List.map_id]
  by_cases hempty : names = []
  · subst hempty
    cases anchor <;> rfl
  · have hkept : (names.map String.toList).filter (fun part => part ≠ [] && part ≠ ['.']) =
        names.map String.toList := by
      rw [List.filter_eq_self]
      intro part hpart
      obtain ⟨name, hname, rfl⟩ := List.mem_map.mp hpart
      have hn := h name hname
      rw [Bool.and_eq_true, decide_eq_true_eq, decide_eq_true_eq]
      refine ⟨fun hnil => hn.ne_empty (String.toList_eq_nil_iff.mp hnil), fun hdot => hn.ne_dot ?_⟩
      rw [← String.ofList_toList (s := name), hdot]
    have hsplit := splitSlashes_intercalate hempty fun name hname => (h name hname).no_slash
    have htext : (Path.text ⟨anchor, names⟩).toList =
        anchor.text.toList ++ (String.intercalate "/" names).toList := by
      have hnames : names.isEmpty = false := by simpa using hempty
      simp only [text, hnames, Bool.and_false, Bool.false_eq_true, if_false, String.toList_append]
    simp only [ofText, htext]
    rw [anchorOf_text anchor (head_intercalate h), splitSlashes_anchor, hsplit, hkept, hback]

/-- The last name of a path is what its text ends with. -/
theorem child_text_inj {p : Path} {a b : String} (h : (p.child a).text = (p.child b).text) : a = b := by
  obtain ⟨front, hfront⟩ : ∃ front, ∀ name, (p.child name).text = front ++ name := by
    by_cases hnil : p.names = []
    · exact ⟨p.anchor.text, fun name => by simp [text, child, hnil]⟩
    · refine ⟨p.anchor.text ++ (String.intercalate "/" p.names ++ "/"), fun name => ?_⟩
      simp [text, child, String.intercalate_append_of_ne_nil hnil, String.append_assoc]
  rw [hfront, hfront, String.append_right_inj] at h
  exact h

/-- A proper name is a path of its own. -/
theorem ofText_name {name : String} (h : IsName name) : ofText name = ⟨.relative, [name]⟩ := by
  have hproper : IsProper ⟨.relative, [name]⟩ := by
    intro other hother
    rw [List.mem_singleton.mp hother]
    exact h
  have htext : text ⟨.relative, [name]⟩ = name := by
    simp [text, Anchor.text]
  have hback := ofText_text hproper
  rwa [htext] at hback

theorem namesAfter_eq_some {front names rest : List String} :
    namesAfter? front names = some rest ↔ names = front ++ rest := by
  induction front generalizing names with
  | nil => rw [namesAfter?, Option.some_inj, List.nil_append]
  | cons a front ih =>
    cases names with
    | nil => simp [namesAfter?]
    | cons b names =>
      rw [namesAfter?, List.cons_append, List.cons.injEq]
      split
      · rename_i heq
        rw [ih, heq, and_iff_right rfl]
      · rename_i hne
        simp [Ne.symm hne]

/-! ## Absolute paths -/

theorem isAbsolute_slash {p : Path} (h : p.isAbsolute = true) (text : String) : (p.slash text).isAbsolute = true := by
  rw [slash, join]
  split
  · assumption
  · exact h

/-- The text of an absolute path says that it is absolute, whatever its names are. -/
theorem isAbsolute_ofText_text {p : Path} (h : p.isAbsolute = true) : (ofText p.text).isAbsolute = true := by
  obtain ⟨anchor, names⟩ := p
  have hfront (rest : List Char) : anchorOf ('/' :: rest) ≠ .relative := by
    rw [anchorOf.eq_def]
    split <;> simp_all
  have htext : (text ⟨anchor, names⟩).toList = anchor.text.toList ++ (String.intercalate "/" names).toList := by
    have hanchor : decide (anchor = .relative) = false := decide_eq_false (of_decide_eq_true h)
    simp only [text, hanchor, Bool.false_and, Bool.false_eq_true, if_false, String.toList_append]
  rw [isAbsolute, decide_eq_true_eq]
  change anchorOf (text ⟨anchor, names⟩).toList ≠ .relative
  rw [htext]
  cases anchor with
  | relative => cases h
  | root => exact hfront _
  | doubleRoot => exact hfront _

end Stopwatch.Path

/-
  Copies as inputs.

  Instrumented copies are kept out of a run in two places.  The guard of the input looks for the
  suffix anywhere in its name; the search of a directory looks for it at the end of the stem.  So
  all that the search leaves out the guard refuses as well, but not the other way round.  The
  name that a copy gets is always refused by the guard, and it is left out by the search unless
  the source is nothing but an extension and the suffix holds dots.
-/
import Stopwatch.Proofs.Files.Discovered
import Stopwatch.Proofs.Run.Events
import Stopwatch.Proofs.Text.Search

namespace Stopwatch

/-! ## Names -/

theorem Text.contains_iff {text pattern : String} : contains text pattern = true ↔ pattern.toList <:+: text.toList := by
  rw [contains, ← Bool.not_eq_false, occursIn_eq_false, not_not]

/-- What ends the stem of a name occurs in the name. -/
theorem infix_of_suffix_stem {suffix name : List Char} (h : suffix <:+ (Path.splitExtension name).1) : suffix <:+: name := by
  have hstem : (Path.splitExtension name).1 <+: name := ⟨_, Path.splitExtension_append name⟩
  exact h.isInfix.trans hstem.isInfix

theorem infix_copyName (suffix name : List Char) : suffix <:+: copyName suffix name :=
  ⟨(Path.splitExtension name).1, (Path.splitExtension name).2, rfl⟩

/-- The extension of sources, some times. -/
def extensions (n : Nat) : List Char :=
  (List.replicate n sourceExtension).flatten

theorem extensions_succ (n : Nat) : extensions (n + 1) = sourceExtension ++ extensions n := by
  rw [extensions, List.replicate_succ, List.flatten_cons, extensions]

theorem extensions_succ' (n : Nat) : extensions (n + 1) = extensions n ++ sourceExtension := by
  rw [extensions, List.replicate_succ', List.flatten_concat, extensions]

/-- What comes back behind an extension that is put in front consists of extensions. -/
theorem exists_extensions {front ext : List Char} (h : front ++ '.' :: ext = sourceExtension ++ front) :
    ∃ n, front = extensions n := by
  match front, h with
  | [], _ => exact ⟨0, rfl⟩
  | [_], h => simp [sourceExtension] at h
  | [_, _], h => simp [sourceExtension] at h
  | a :: b :: c :: rest, h =>
    -- the front begins with the extension, and what follows comes back behind it as well
    obtain ⟨rfl, rfl, rfl, hrest⟩ : a = '.' ∧ b = 'p' ∧ c = 'y' ∧ rest ++ '.' :: ext = a :: b :: c :: rest := by
      simpa [sourceExtension] using h
    obtain ⟨n, hn⟩ := exists_extensions hrest
    exact ⟨n + 1, by rw [extensions_succ, hn]; rfl⟩

/-- A suffix that ends the stem even behind a mere extension: it has no dot, or ends with one, or consists
of such extensions itself. -/
def EndsStem (suffix : List Char) : Prop :=
  '.' ∉ suffix ∨ ['.'] <:+ suffix ∨ ∃ n, suffix = extensions n

theorem suffix_stem_of_endsStem {suffix : List Char} (h : EndsStem suffix) :
    suffix <:+ (Path.splitExtension (copyName suffix sourceExtension)).1 := by
  rw [copyName_extension]
  have hwhole : suffix <:+ sourceExtension ++ suffix := List.suffix_append _ _
  rcases h with hdot | ⟨front, rfl⟩ | ⟨n, rfl⟩
  · -- the only dot stands first, so the stem is the whole name
    have hsplit := Path.splitExtension_of_dot (by simp [hdot] : '.' ∉ ['p', 'y'] ++ suffix) []
    rw [if_neg fun hand => hand.1 rfl] at hsplit
    have hname : sourceExtension ++ suffix = [] ++ '.' :: (['p', 'y'] ++ suffix) := rfl
    rw [hname] at hwhole ⊢
    rw [hsplit]
    exact hwhole
  · -- the last dot stands last, so the stem is the whole name
    have hname : sourceExtension ++ (front ++ ['.']) = sourceExtension ++ front ++ '.' :: [] :=
      (List.append_assoc _ _ _).symm
    rw [hname] at hwhole ⊢
    rw [Path.splitExtension_of_dot List.not_mem_nil, if_neg fun hand => hand.2 rfl]
    exact hwhole
  · cases n with
    | zero => exact List.nil_suffix
    | succ n =>
      have hsplit := Path.splitExtension_of_dot (by decide : '.' ∉ ['p', 'y']) (extensions (n + 1))
      have hne : extensions (n + 1) ≠ [] := by simp [extensions_succ, sourceExtension]
      rw [if_pos ⟨hne, by decide⟩] at hsplit
      have hname : sourceExtension ++ extensions (n + 1) = extensions (n + 1) ++ '.' :: ['p', 'y'] :=
        (extensions_succ (n + 1)).symm.trans (extensions_succ' (n + 1))
      rw [hname, hsplit]

theorem endsStem_of_suffix_stem {suffix : List Char}
    (h : suffix <:+ (Path.splitExtension (copyName suffix sourceExtension)).1) : EndsStem suffix := by
  by_cases hdot : '.' ∈ suffix
  · obtain ⟨front, ext, rfl, hext⟩ := Path.exists_last_dot hdot
    by_cases hnil : ext = []
    · exact Or.inr (Or.inl ⟨front, by rw [hnil]⟩)
    · rw [copyName_extension, ← List.append_assoc, Path.splitExtension_of_dot hext,
        if_pos ⟨by simp [sourceExtension], hnil⟩] at h
      obtain ⟨gap, hgap⟩ := h
      -- there are as many dots in the suffix as in the stem, so nothing stands in front of it
      have hcount : gap.count '.' = 0 := by
        have hall := congrArg (List.count '.') hgap
        simp only [List.count_append, List.count_cons_self, List.count_eq_zero.mpr hext] at hall
        have hone : sourceExtension.count '.' = 1 := by decide
        omega
      cases gap with
      | nil =>
        rw [List.nil_append] at hgap
        obtain ⟨n, hn⟩ := exists_extensions hgap
        exact Or.inr (Or.inr ⟨n + 1, by rw [hgap, hn, extensions_succ]⟩)
      | cons c gap =>
        obtain rfl : c = '.' := (List.cons.inj hgap).1
        simp at hcount
  · exact Or.inl hdot

/-- The copy of a source that is nothing but an extension has a stem that ends in the suffix if the suffix
is one that ends the stem. -/
theorem suffix_stem_extension_iff {suffix : List Char} :
    suffix <:+ (Path.splitExtension (copyName suffix sourceExtension)).1 ↔ EndsStem suffix :=
  ⟨endsStem_of_suffix_stem, suffix_stem_of_endsStem⟩

/-- A path with the extension of a source has a last name, which leads down. -/
theorem Path.exists_names_of_extension {p : Path} (h : sourceExtension <:+ p.name.toList) :
    ∃ front name, p = ⟨p.anchor, front ++ [name]⟩ ∧ p.name = name ∧ name ≠ ".." := by
  obtain ⟨anchor, names⟩ := p
  rcases List.eq_nil_or_concat names with rfl | ⟨front, name, rfl⟩
  · have hnil : ¬sourceExtension <:+ "".toList := by decide
    exact absurd h hnil
  · have hname : Path.name ⟨anchor, front ++ [name]⟩ = name := by
      rw [Path.name, List.getLast?_concat, Option.getD_some]
    rw [List.concat_eq_append] at h ⊢
    refine ⟨front, name, rfl, hname, ?_⟩
    rintro rfl
    rw [hname] at h
    exact absurd h (by decide)

/-! ## The search of a directory -/

namespace Files

variable {fs : Files} {root p : Path} {suffix : String}

/-- An entry stands below a directory, and no directory on the way to it is hidden or holds caches. -/
def Reaches (fs : Files) (root p : Path) : Prop :=
  ∃ l dirs name e, fs.locate root = .ok l ∧ fs.find? l = some .directory ∧
    p = ⟨root.anchor, root.names ++ (dirs ++ [name])⟩ ∧ fs.find? (l ++ (dirs ++ [name])) = some e ∧
    dirs.any isSkipped = false

/-- An entry that the search of a directory reaches is found or left out by its name. -/
theorem Reaches.mem_sources_iff (h : fs.IsTree) (hreaches : fs.Reaches root p) :
    p ∈ fs.sources root suffix ↔ sourceExtension <:+ p.name.toList ∧ ¬suffix.toList <:+ p.stem.toList := by
  obtain ⟨l, dirs, name, e, hroot, hdirectory, rfl, he, hdirs⟩ := hreaches
  have hname : Path.name ⟨root.anchor, root.names ++ (dirs ++ [name])⟩ = name := by
    rw [Path.name, ← List.append_assoc, List.getLast?_concat, Option.getD_some]
  rw [mem_sources_below h hroot hdirectory, Path.stem, hname, String.toList_ofList]
  constructor
  · rintro ⟨dirs', name', e', hpath, -, hsource⟩
    obtain ⟨-, hnames⟩ := Path.mk.inj hpath
    obtain ⟨rfl, hlast⟩ := List.append_inj' (List.append_cancel_left hnames) rfl
    obtain rfl := List.singleton_inj.mp hlast
    exact ⟨hsource.extension, hsource.own⟩
  · rintro ⟨hextension, hown⟩
    exact ⟨dirs, name, e, rfl, he, hextension, hown, not_any_isSkipped.mp hdirs⟩

/-- What exists is reached from the directory that it stands in. -/
theorem reaches_parent {anchor : Anchor} {front : List String} {name : String}
    (hexists : fs.exists? ⟨anchor, front ++ [name]⟩ = true) (hname : name ≠ "..") :
    fs.Reaches ⟨anchor, front⟩ ⟨anchor, front ++ [name]⟩ := by
  obtain ⟨l, e, hlocate, he⟩ := exists_iff.mp hexists
  obtain ⟨own, hown, hend⟩ := (locate_eq_ok_iff.mp hlocate).exists_own
  obtain ⟨mid, hfront, hdirectory, hcases⟩ := hown.concat_inv
  obtain ⟨-, rfl⟩ := hcases.resolve_left fun hup => hname hup.1
  -- the path leads to its own location, or a link stands there
  obtain ⟨e', he'⟩ : ∃ e', fs.find? (mid ++ [name]) = some e' := by
    rcases hend with rfl | ⟨target, links, hlink, -⟩
    · exact ⟨e, he⟩
    · exact ⟨.link target, hlink⟩
  exact ⟨mid, [], name, e', locate_eq_ok_iff.mpr hfront, hdirectory, rfl, he', rfl⟩

end Files

/-! ## The guard of the input -/

namespace Run

variable {r : Run} {host : Host}

/-- A run refuses its input as an instrumented copy. -/
def Refuses (r : Run) (host : Host) : Prop :=
  (r.validate host).1 = .error (.problem (.derivedPath r.input.name))

/-- What the guard makes of an input that exists. -/
theorem validate_cases (hexists : host.files.exists? r.input = true) :
    r.config.instrumentedSuffix.toList <:+: r.input.name.toList ∧ r.Refuses host ∨
    ¬r.config.instrumentedSuffix.toList <:+: r.input.name.toList ∧ (r.validate host).1 = .ok () := by
  have hends : Action.Ends r.validate host fun result _ =>
      r.config.instrumentedSuffix.toList <:+: r.input.name.toList ∧
        result = .error (.problem (.derivedPath r.input.name)) ∨
      ¬r.config.instrumentedSuffix.toList <:+: r.input.name.toList ∧ result = .ok () := by
    rw [ends_validate, inputProblem?, hexists]
    by_cases hname : r.config.instrumentedSuffix.toList <:+: r.input.name.toList
    · rw [if_neg (by simp), if_pos (Text.contains_iff.mpr hname)]
      exact Or.inl ⟨hname, rfl⟩
    · rw [if_neg (by simp), if_neg (Text.contains_iff.not.mpr hname)]
      exact Or.inr ⟨hname, rfl⟩
  exact hends

theorem refuses_iff (hexists : host.files.exists? r.input = true) :
    r.Refuses host ↔ r.config.instrumentedSuffix.toList <:+: r.input.name.toList := by
  rcases validate_cases hexists with ⟨hname, hrefused⟩ | ⟨hname, haccepted⟩
  · exact iff_of_true hrefused hname
  · refine iff_of_false (fun hrefused => ?_) hname
    rw [Refuses, haccepted] at hrefused
    cases hrefused

theorem accepted_iff (hexists : host.files.exists? r.input = true) :
    (r.validate host).1 = .ok () ↔ ¬r.Refuses host := by
  rcases validate_cases hexists with ⟨-, hrefused⟩ | ⟨hname, haccepted⟩
  · refine iff_of_false (fun haccepted => ?_) fun hnot => hnot hrefused
    rw [Refuses, haccepted] at hrefused
    cases hrefused
  · exact iff_of_true haccepted fun hrefused => hname ((refuses_iff hexists).mp hrefused)

/-- The name of a copy. -/
theorem name_copyPath {p : Path} (h : sourceExtension <:+ p.name.toList) :
    (r.copyPath p).name.toList = copyName r.config.instrumentedSuffix.toList p.name.toList := by
  obtain ⟨front, name, hp, hname, -⟩ := Path.exists_names_of_extension h
  rw [hname, hp, copyPath_eq, Path.name, List.getLast?_concat, Option.getD_some, String.toList_ofList]

/-- The stem of a copy ends in the suffix, but for copies of mere extensions. -/
theorem suffix_stem_copyPath_iff {p : Path} (h : sourceExtension <:+ p.name.toList) :
    r.config.instrumentedSuffix.toList <:+ (r.copyPath p).stem.toList ↔
      p.name ≠ ".py" ∨ EndsStem r.config.instrumentedSuffix.toList := by
  rw [Path.stem, String.toList_ofList, name_copyPath h]
  by_cases hname : p.name = ".py"
  · have hpy : p.name.toList = sourceExtension := congrArg String.toList hname
    rw [hpy, suffix_stem_extension_iff]
    exact ⟨Or.inr, fun hor => hor.resolve_left fun hne => hne hname⟩
  · obtain ⟨front, hfront⟩ := h
    have hne : front ≠ [] := fun hnil => hname (String.toList_inj.mp (by rw [← hfront, hnil]; rfl))
    refine iff_of_true ?_ (Or.inl hname)
    by_cases hsuffix : r.config.instrumentedSuffix.toList = []
    · rw [hsuffix]
      exact List.nil_suffix
    · rw [← hfront]
      exact suffix_stem_copyName hsuffix hne

/-- Of all copies the search of a directory finds only those of mere extensions, and those only if the suffix
looks like such a name itself. -/
theorem copyPath_mem_sources_iff {p root : Path} {fs : Files} (h : sourceExtension <:+ p.name.toList) (htree : fs.IsTree)
    (hreaches : fs.Reaches root (r.copyPath p)) :
    r.copyPath p ∈ fs.sources root r.config.instrumentedSuffix ↔
      p.name = ".py" ∧ sourceExtension <:+ r.config.instrumentedSuffix.toList ∧
        ¬EndsStem r.config.instrumentedSuffix.toList := by
  rw [hreaches.mem_sources_iff htree, suffix_stem_copyPath_iff h, not_or, not_not, name_copyPath h]
  constructor
  · rintro ⟨hextension, hname, hstem⟩
    refine ⟨hname, ?_, hstem⟩
    have hpy : p.name.toList = sourceExtension := congrArg String.toList hname
    rw [hpy] at hextension
    by_contra hother
    have hne : r.config.instrumentedSuffix.toList ≠ [] := fun hnil => hstem (Or.inl (by simp [hnil]))
    exact not_suffix_copyName_extension hne hother hextension
  · rintro ⟨hname, hextension, hstem⟩
    have hpy : p.name.toList = sourceExtension := congrArg String.toList hname
    refine ⟨?_, hname, hstem⟩
    rw [hpy, copyName_extension]
    exact hextension.trans (List.suffix_append _ _)

/-! ## Both together -/

/-- A source file given as the input is refused if the suffix occurs anywhere in its name, and the search
of a directory that reaches it leaves it out if its stem ends in the suffix.  So the guard refuses all that
the search leaves out, and the search leaves out all that the guard refuses unless the suffix occurs
elsewhere only.  The name of the file's copy is always refused by the guard, and left out by the search
unless the file is nothing but an extension and the suffix does not end the stem behind that. -/
theorem guards_of_source (htree : host.files.IsTree) (hfile : host.files.isFile r.input = true)
    (hsource : sourceExtension <:+ r.input.name.toList) :
    let suffix := r.config.instrumentedSuffix
    (r.Refuses host ↔ suffix.toList <:+: r.input.name.toList) ∧
    ((r.validate host).1 = .ok () ↔ ¬r.Refuses host) ∧
    host.files.Reaches r.input.parent r.input ∧
    (∀ root, host.files.Reaches root r.input →
      (r.input ∉ host.files.sources root suffix ↔ suffix.toList <:+ r.input.stem.toList) ∧
      (r.input ∉ host.files.sources root suffix → r.Refuses host) ∧
      ((r.Refuses host ↔ r.input ∉ host.files.sources root suffix) ↔
        (suffix.toList <:+: r.input.name.toList → suffix.toList <:+ r.input.stem.toList))) ∧
    (∀ h entry, (r.instrument? r.input h).1 = .ok (some entry) → entry.written = (r.copyPath r.input).text) ∧
    (∀ h, h.files.exists? (r.copyPath r.input) = true → { r with input := r.copyPath r.input }.Refuses h) ∧
    ((r.copyPath r.input).isInstrumented suffix = true ↔ r.input.name ≠ ".py" ∨ EndsStem suffix.toList) ∧
    ∀ (fs : Files) (root : Path), fs.IsTree → fs.Reaches root (r.copyPath r.input) →
      (r.copyPath r.input ∈ fs.sources root suffix ↔
        r.input.name = ".py" ∧ sourceExtension <:+ suffix.toList ∧ ¬EndsStem suffix.toList) := by
  intro suffix
  have hexists : host.files.exists? r.input = true := by
    obtain ⟨l, bytes, executable, hlocate, he⟩ := Files.isFile_iff.mp hfile
    exact Files.exists_iff.mpr ⟨l, _, hlocate, he⟩
  have hrefuses := refuses_iff hexists
  have hreaches : host.files.Reaches r.input.parent r.input := by
    obtain ⟨front, name, hinput, -, hname⟩ := Path.exists_names_of_extension hsource
    rw [hinput] at hexists ⊢
    rw [Path.parent, List.dropLast_concat]
    exact Files.reaches_parent hexists hname
  have hout (root : Path) (hroot : host.files.Reaches root r.input) :
      r.input ∉ host.files.sources root suffix ↔ suffix.toList <:+ r.input.stem.toList := by
    rw [hroot.mem_sources_iff htree, and_iff_right hsource, not_not]
  have hstem : suffix.toList <:+ r.input.stem.toList → suffix.toList <:+: r.input.name.toList := by
    rw [Path.stem, String.toList_ofList]
    exact infix_of_suffix_stem
  refine ⟨hrefuses, accepted_iff hexists, hreaches, fun root hroot => ⟨hout root hroot, ?_, ?_⟩, ?_, ?_, ?_, ?_⟩
  · rw [hout root hroot, hrefuses]
    exact hstem
  · rw [hout root hroot, hrefuses]
    exact ⟨Iff.mp, fun hends => ⟨hends, hstem⟩⟩
  · intro h entry hentry
    exact (ends_instrument?_names r r.input entry hentry).2
  · intro h hcopy
    refine (refuses_iff hcopy).mpr ?_
    change r.config.instrumentedSuffix.toList <:+: (r.copyPath r.input).name.toList
    rw [name_copyPath hsource]
    exact infix_copyName _ _
  · rw [Path.isInstrumented, Text.endsWith_iff, suffix_stem_copyPath_iff hsource]
  · intro fs root hcopies hcopy
    exact copyPath_mem_sources_iff hsource hcopies hcopy

/-- A directory with a source that has the suffix in the middle of its name. -/
def notesFiles : Files where
  entries := [(["a"], .directory), (["a", "my_instrumented_notes.py"], .file [] false)]
  workingDirectory := []

def notesHost : Host :=
  { smallHost with files := notesFiles }

def notesRun : Run :=
  { smallRun with input := ⟨.relative, ["a", "my_instrumented_notes.py"]⟩ }

theorem guards_of_source_notes :
    (notesHost.files.IsTree ∧ notesHost.files.isFile notesRun.input = true ∧
      sourceExtension <:+ notesRun.input.name.toList) ∧
    notesRun.Refuses notesHost ∧
    notesRun.input ∈ notesHost.files.sources notesRun.input.parent notesRun.config.instrumentedSuffix ∧
    (notesRun.copyPath notesRun.input).isInstrumented notesRun.config.instrumentedSuffix = true := by
  have hname : sourceExtension <:+ notesRun.input.name.toList := by decide +kernel
  have htree : notesHost.files.IsTree := by decide +kernel
  have hfile : notesHost.files.isFile notesRun.input = true := by decide +kernel
  obtain ⟨hrefuses, -, hreaches, hout, -, -, hcopy, -⟩ := guards_of_source htree hfile hname
  refine ⟨⟨htree, hfile, hname⟩, hrefuses.mpr (by decide +kernel), ?_, hcopy.mpr (Or.inl (by decide +kernel))⟩
  exact not_not.mp ((hout _ hreaches).1.not.mpr (by decide +kernel))

/-- A source may be refused as the input though the search of its directory finds it. -/
theorem refuses_found :
    notesRun.config.instrumentedSuffix ≠ "" ∧ notesHost.files.isFile notesRun.input = true ∧
      sourceExtension <:+ notesRun.input.name.toList ∧ notesRun.Refuses notesHost ∧
      notesRun.input ∈ notesHost.files.sources notesRun.input.parent notesRun.config.instrumentedSuffix ∧
      notesRun.input.isInstrumented notesRun.config.instrumentedSuffix = false :=
  ⟨by decide, by decide +kernel, by decide +kernel, (refuses_iff (by decide +kernel)).mpr (by decide +kernel),
    by decide +kernel, by decide +kernel⟩

/-- The copy of a mere extension may look like a source itself. -/
example : String.ofList (copyName "_x.py".toList ".py".toList) = ".py_x.py" ∧ isSource "_x.py" [".py_x.py"] = true := by
  decide +kernel

end Run

end Stopwatch

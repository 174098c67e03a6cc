/-
  Where paths lead to.

  `Leads` is the relation that `walk` decides: one rule for every way in which a name is
  taken.  A walk looks at directories and links only, so it ends at the same location
  after any change that leaves these as they are.
-/
import Stopwatch.Proofs.Files.Basic
import Stopwatch.Proofs.Path

namespace Stopwatch

/-- Whether a walk looks at an entry: directories are gone through and links are followed. -/
def Entry.isWay : Entry → Bool
  | .directory | .link _ => true
  | .file .. | .pipe => false

namespace Files

/-! ## The relation -/

/-- Names lead from a location to another one.  At most `links` links are followed, and one
under the last name only if `follow` says so. -/
inductive Leads (fs : Files) (follow : Bool) : Nat → Location → List String → Location → Prop
  | done {links : Nat} {here : Location} : Leads fs follow links here [] here
  | up {links : Nat} {here l : Location} {rest : List String}
      (hdirectory : fs.find? here = some .directory)
      (h : Leads fs follow links here.dropLast rest l) : Leads fs follow links here (".." :: rest) l
  | into {links : Nat} {here l : Location} {name : String} {rest : List String}
      (hdirectory : fs.find? here = some .directory) (hname : name ≠ "..")
      (hlink : ∀ target, fs.find? (here ++ [name]) ≠ some (.link target))
      (h : Leads fs follow links (here ++ [name]) rest l) : Leads fs follow links here (name :: rest) l
  | kept {links : Nat} {here : Location} {name target : String}
      (hdirectory : fs.find? here = some .directory) (hname : name ≠ "..")
      (hlink : fs.find? (here ++ [name]) = some (.link target)) (hfollow : follow = false) :
      Leads fs follow links here [name] (here ++ [name])
  | through {links : Nat} {here l : Location} {name target : String} {rest : List String}
      (hdirectory : fs.find? here = some .directory) (hname : name ≠ "..")
      (hlink : fs.find? (here ++ [name]) = some (.link target)) (hfollow : rest ≠ [] ∨ follow = true)
      (h : Leads fs follow links (if (Path.ofText target).isAbsolute then [] else here)
        ((Path.ofText target).names ++ rest) l) :
      Leads fs follow (links + 1) here (name :: rest) l

/-- A walk is led to its end, if what it goes through links with is. -/
theorem leads_of_walkThrough {fs : Files} {follow : Bool} {links : Nat}
    {through : Location → List String → Except SystemFault Location}
    (hthrough : ∀ {here l : Location} {name target : String} {rest : List String},
      fs.find? here = some .directory → name ≠ ".." → fs.find? (here ++ [name]) = some (.link target) →
      rest ≠ [] ∨ follow = true →
      through (if (Path.ofText target).isAbsolute then [] else here) ((Path.ofText target).names ++ rest) = .ok l →
      Leads fs follow links here (name :: rest) l)
    {here l : Location} {names : List String} (h : fs.walkThrough follow through here names = .ok l) :
    Leads fs follow links here names l := by
  induction names generalizing here with
  | nil =>
    rw [walkThrough] at h
    cases h
    exact .done
  | cons name rest ih =>
    rw [walkThrough] at h
    split at h
    · cases h
    · rename_i hdirectory
      split at h
      · rename_i hname
        subst hname
        exact .up hdirectory (ih h)
      · rename_i hname
        split at h
        · rename_i target hlink
          split at h
          · rename_i hlast
            cases h
            rw [Bool.and_eq_true, List.isEmpty_iff, Bool.not_eq_true'] at hlast
            rw [hlast.1]
            exact .kept hdirectory hname hlink hlast.2
          · rename_i hlast
            refine hthrough hdirectory hname hlink ?_ h
            cases rest with
            | cons _ _ => exact Or.inl (by simp)
            | nil =>
              cases follow with
              | true => exact Or.inr rfl
              | false => exact absurd rfl hlast
        · rename_i hlink
          exact .into hdirectory hname hlink (ih h)
    · cases h

/-- A walk that ends has been led to its end. -/
theorem leads_of_walk {fs : Files} {follow : Bool} {links : Nat} {here l : Location}
    {names : List String} (h : fs.walk follow links here names = .ok l) :
    Leads fs follow links here names l := by
  induction links generalizing here l names with
  | zero => exact leads_of_walkThrough (fun _ _ _ _ h => by cases h) h
  | succ links ih =>
    exact leads_of_walkThrough (fun hdirectory hname hlink hfollow h =>
      .through hdirectory hname hlink hfollow (ih h)) h

/-- A walk takes one name after the other, however many links may be followed. -/
theorem exists_walk_eq (fs : Files) (follow : Bool) (links : Nat) :
    ∃ through, fs.walk follow links = fs.walkThrough follow through := by
  cases links with
  | zero => exact ⟨_, rfl⟩
  | succ links => exact ⟨_, rfl⟩

/-- A walk ends where the names lead to. -/
theorem Leads.walk_eq {fs : Files} {follow : Bool} {links : Nat} {here l : Location}
    {names : List String} (h : Leads fs follow links here names l) :
    fs.walk follow links here names = .ok l := by
  induction h with
  | @done links =>
    obtain ⟨through, heq⟩ := fs.exists_walk_eq follow links
    rw [heq, walkThrough]
  | @up links here l rest hdirectory h ih =>
    obtain ⟨through, heq⟩ := fs.exists_walk_eq follow links
    rw [heq] at ih ⊢
    rw [walkThrough, hdirectory]
    exact ih
  | @into links here l name rest hdirectory hname hlink h ih =>
    obtain ⟨through, heq⟩ := fs.exists_walk_eq follow links
    rw [heq] at ih ⊢
    rw [walkThrough, hdirectory]
    simp only [if_neg hname]
    exact ih
  | @kept links here name target hdirectory hname hlink hfollow =>
    obtain ⟨through, heq⟩ := fs.exists_walk_eq follow links
    rw [heq, walkThrough, hdirectory]
    simp only [if_neg hname, hlink, hfollow]
    rfl
  | through hdirectory hname hlink hfollow h ih =>
    rw [walk, walkThrough, hdirectory]
    simp only [if_neg hname, hlink]
    rw [if_neg]
    · exact ih
    · rw [Bool.and_eq_true, List.isEmpty_iff, Bool.not_eq_true']
      rintro ⟨hrest, hnot⟩
      rcases hfollow with hne | hyes
      · exact hne hrest
      · rw [hyes] at hnot
        cases hnot

theorem walk_eq_ok_iff {fs : Files} {follow : Bool} {links : Nat} {here l : Location}
    {names : List String} :
    fs.walk follow links here names = .ok l ↔ Leads fs follow links here names l :=
  ⟨leads_of_walk, Leads.walk_eq⟩

theorem locate_eq_ok_iff {fs : Files} {p : Path} {l : Location} :
    fs.locate p = .ok l ↔ Leads fs true maxLinks (fs.start p) p.names l :=
  walk_eq_ok_iff

theorem locateLink_eq_ok_iff {fs : Files} {p : Path} {l : Location} :
    fs.locateLink p = .ok l ↔ Leads fs false maxLinks (fs.start p) p.names l :=
  walk_eq_ok_iff

/-! ## Changes that walks do not see -/

/-- The directory or link at a location. -/
def way? (fs : Files) (l : Location) : Option Entry :=
  (fs.find? l).filter Entry.isWay

theorem way?_eq_some {fs : Files} {l : Location} {e : Entry} (he : e.isWay = true) :
    fs.way? l = some e ↔ fs.find? l = some e := by
  rw [way?, Option.filter_eq_some_iff]
  exact and_iff_left he

/-- Two trees with the same directories and links. -/
def SameWays (fs fs' : Files) : Prop :=
  ∀ l, fs.way? l = fs'.way? l

theorem SameWays.symm {fs fs' : Files} (h : SameWays fs fs') : SameWays fs' fs :=
  fun l => (h l).symm

theorem SameWays.find?_eq {fs fs' : Files} (h : SameWays fs fs') {l : Location} {e : Entry}
    (he : e.isWay = true) : fs.find? l = some e ↔ fs'.find? l = some e := by
  rw [← way?_eq_some he, ← way?_eq_some he, h l]

/-- Names lead to the same location in every tree with the same directories and links. -/
theorem Leads.of_sameWays {fs fs' : Files} (hways : SameWays fs fs') {follow : Bool} {links : Nat}
    {here l : Location} {names : List String} (h : Leads fs follow links here names l) :
    Leads fs' follow links here names l := by
  induction h with
  | done => exact .done
  | up hdirectory h ih => exact .up ((hways.find?_eq rfl).mp hdirectory) ih
  | into hdirectory hname hlink h ih =>
    refine .into ((hways.find?_eq rfl).mp hdirectory) hname (fun target hfound => ?_) ih
    exact hlink target ((hways.find?_eq rfl).mpr hfound)
  | kept hdirectory hname hlink hfollow =>
    exact .kept ((hways.find?_eq rfl).mp hdirectory) hname ((hways.find?_eq rfl).mp hlink) hfollow
  | through hdirectory hname hlink hfollow h ih =>
    exact .through ((hways.find?_eq rfl).mp hdirectory) hname ((hways.find?_eq rfl).mp hlink)
      hfollow ih

/-- Where a path starts depends on the working directory only. -/
theorem start_congr {fs fs' : Files} (hhere : fs'.workingDirectory = fs.workingDirectory) (p : Path) :
    fs'.start p = fs.start p := by
  rw [start, start, hhere]

theorem SameWays.locate {fs fs' : Files} (h : SameWays fs fs')
    (hhere : fs'.workingDirectory = fs.workingDirectory) {p : Path} {l : Location} :
    fs'.locate p = .ok l ↔ fs.locate p = .ok l := by
  rw [locate_eq_ok_iff, locate_eq_ok_iff, start_congr hhere]
  exact ⟨Leads.of_sameWays h.symm, Leads.of_sameWays h⟩

/-- Putting a file where no walk goes through leaves all walks as they are. -/
theorem sameWays_insert {fs : Files} {l : Location} {e : Entry} (hl : fs.way? l = none)
    (he : e.isWay = false) : SameWays fs (fs.insert l e) := by
  intro l'
  have hne : l ≠ [] := by
    rintro rfl
    cases hl
  by_cases heq : l' = l
  · rw [heq, hl, way?, find?_insert_self fs hne, Option.filter_some, he]
    rfl
  · rw [way?, way?, find?_insert_of_ne fs heq]

/-! ## The path itself -/

/-- Names lead on only from a directory. -/
theorem Leads.directory_of_ne_nil {fs : Files} {follow : Bool} {links : Nat} {here l : Location}
    {names : List String} (h : Leads fs follow links here names l) (hne : names ≠ []) :
    fs.find? here = some .directory := by
  cases h with
  | done => contradiction
  | up hdirectory | into hdirectory | kept hdirectory | through hdirectory => exact hdirectory

/-- A path that leads somewhere has a location of its own, where its end or a link to it
stands. -/
theorem Leads.exists_own {fs : Files} {follow : Bool} {links : Nat} {here l : Location}
    {names : List String} (h : Leads fs follow links here names l) :
    ∃ own, Leads fs false links here names own ∧
      (own = l ∨ ∃ target links', fs.find? own = some (.link target) ∧
        Leads fs follow links' (if (Path.ofText target).isAbsolute then [] else own.dropLast)
          (Path.ofText target).names l) := by
  induction h with
  | done => exact ⟨_, .done, Or.inl rfl⟩
  | up hdirectory h ih =>
    obtain ⟨own, hown, hend⟩ := ih
    exact ⟨own, .up hdirectory hown, hend⟩
  | into hdirectory hname hlink h ih =>
    obtain ⟨own, hown, hend⟩ := ih
    exact ⟨own, .into hdirectory hname hlink hown, hend⟩
  | kept hdirectory hname hlink hfollow =>
    exact ⟨_, .kept hdirectory hname hlink rfl, Or.inl rfl⟩
  | @through links here l name target rest hdirectory hname hlink hfollow h ih =>
    by_cases hrest : rest = []
    · subst hrest
      rw [List.append_nil] at h
      refine ⟨_, .kept hdirectory hname hlink rfl, Or.inr ⟨target, links, hlink, ?_⟩⟩
      rw [List.dropLast_concat]
      exact h
    · obtain ⟨own, hown, hend⟩ := ih
      exact ⟨own, .through hdirectory hname hlink (Or.inl hrest) hown, hend⟩

/-- A path leads to its own location if no link stands there. -/
theorem Leads.of_own {fs : Files} {links : Nat} {here own : Location} {names : List String}
    (h : Leads fs false links here names own) (hlink : ∀ target, fs.find? own ≠ some (.link target)) :
    Leads fs true links here names own := by
  induction h with
  | done => exact .done
  | up hdirectory h ih => exact .up hdirectory (ih hlink)
  | into hdirectory hname hother h ih => exact .into hdirectory hname hother (ih hlink)
  | kept hdirectory hname hfound _ => exact absurd hfound (hlink _)
  | through hdirectory hname hfound _ h ih => exact .through hdirectory hname hfound (Or.inr rfl) (ih hlink)

/-- Once the entry at its own location is removed, a path leads nowhere else. -/
theorem Leads.eq_of_erase {fs : Files} {links : Nat} {here own l : Location} {names : List String}
    (h : Leads fs false links here names own) (h' : Leads (fs.erase own) true links here names l) :
    l = own := by
  have hfound {l' : Location} {e : Entry} : (fs.erase own).find? l' = some e → fs.find? l' = some e := fs.find?_of_erase
  generalize hfs : fs.erase own = fs' at h' hfound
  induction h generalizing l with
  | done =>
    cases h'
    rfl
  | up hdirectory h ih =>
    cases h' with
    | up _ h' => exact ih hfs h'
    | into _ hname => exact absurd rfl hname
    | kept _ hname => exact absurd rfl hname
    | through _ hname => exact absurd rfl hname
  | into hdirectory hname hlink h ih =>
    cases h' with
    | up => exact absurd rfl hname
    | into _ _ _ h' => exact ih hfs h'
    | kept _ _ hlink' => exact absurd (hfound hlink') (hlink _)
    | through _ _ hlink' => exact absurd (hfound hlink') (hlink _)
  | kept hdirectory hname hlink _ =>
    cases h' with
    | up => exact absurd rfl hname
    | into _ _ _ h' =>
      cases h'
      rfl
    | kept => rfl
    | through _ _ hlink' =>
      rw [← hfs, find?_erase_self fs (by simp)] at hlink'
      cases hlink'
  | @through links here own name target rest hdirectory hname hlink hfollow h ih =>
    have hrest : rest ≠ [] := hfollow.resolve_right (by simp)
    cases h' with
    | up => exact absurd rfl hname
    | into _ _ hlink' h' =>
      -- the link is the entry that has been removed, so nothing is left to go through
      by_cases hgone : here ++ [name] = own
      · have hdirectory' := h'.directory_of_ne_nil hrest
        rw [hgone, ← hfs, find?_erase_self fs (by simp [← hgone])] at hdirectory'
        cases hdirectory'
      · rw [← hfs, find?_erase_of_ne fs hgone] at hlink'
        exact absurd hlink (hlink' target)
    | kept => contradiction
    | through _ _ hlink' _ h' =>
      have htarget := hfound hlink'
      rw [hlink] at htarget
      cases htarget
      exact ih hfs h'

/-! ## Absolute paths -/

/-- A location that is reached name by name: directories all the way, under proper names. -/
structure IsGrounded (fs : Files) (l : Location) : Prop where
  directories : ∀ front, front <+: l → fs.find? front = some .directory
  not_up : ".." ∉ l
  names : ∀ name ∈ l, Path.IsName name

/-- A name under which no link stands is gone into. -/
theorem leads_cons_iff {fs : Files} {here : Location} {name : String}
    (hdirectory : fs.find? here = some .directory) (hname : name ≠ "..")
    (hlink : ∀ target, fs.find? (here ++ [name]) ≠ some (.link target)) {follow : Bool}
    {links : Nat} {rest : List String} {l : Location} :
    Leads fs follow links here (name :: rest) l ↔ Leads fs follow links (here ++ [name]) rest l := by
  constructor
  · intro h
    cases h with
    | up => exact absurd rfl hname
    | into _ _ _ h => exact h
    | kept _ _ hlink' => exact absurd hlink' (hlink _)
    | through _ _ hlink' => exact absurd hlink' (hlink _)
  · exact .into hdirectory hname hlink

theorem IsGrounded.of_sameWays {fs fs' : Files} (hways : SameWays fs fs') {l : Location}
    (h : fs.IsGrounded l) : fs'.IsGrounded l :=
  ⟨fun front hfront => (hways.find?_eq rfl).mp (h.directories front hfront), h.not_up, h.names⟩

/-- Going to a grounded location first makes no difference. -/
theorem leads_append_iff {fs : Files} {base : Location} (hbase : fs.IsGrounded base) {follow : Bool}
    {links : Nat} {names : List String} {l : Location} :
    Leads fs follow links [] (base ++ names) l ↔ Leads fs follow links base names l := by
  suffices hmain : ∀ rest front, front ++ rest = base →
      (Leads fs follow links front (rest ++ names) l ↔ Leads fs follow links base names l) from
    hmain base [] rfl
  intro rest
  induction rest with
  | nil =>
    intro front hfront
    rw [List.append_nil] at hfront
    rw [hfront, List.nil_append]
  | cons name rest ih =>
    intro front hfront
    have hstep : front ++ [name] ++ rest = base := by rw [List.append_assoc, ← hfront]; rfl
    have hhere := hbase.directories front ⟨name :: rest, hfront⟩
    have hnext := hbase.directories (front ++ [name]) ⟨rest, hstep⟩
    have hname : name ≠ ".." := by
      rintro rfl
      exact hbase.not_up (hfront ▸ by simp)
    rw [← ih (front ++ [name]) hstep, List.cons_append, leads_cons_iff hhere hname (by simp [hnext])]

/-- Where names lead to depends on the entries alone, and not on the working directory. -/
theorem walkThrough_congr {fs fs' : Files} (hentries : fs'.entries = fs.entries) (follow : Bool)
    {through through' : Location → List String → Except SystemFault Location} (hthrough : through' = through)
    (here : Location) (names : List String) :
    fs'.walkThrough follow through' here names = fs.walkThrough follow through here names := by
  have hfind (l : Location) : fs'.find? l = fs.find? l := by
    rw [find?, find?, hentries]
  subst hthrough
  induction names generalizing here with
  | nil => rfl
  | cons name rest ih => simp only [walkThrough, hfind, ih]

theorem walk_congr {fs fs' : Files} (hentries : fs'.entries = fs.entries) (follow : Bool) (links : Nat)
    (here : Location) (names : List String) : fs'.walk follow links here names = fs.walk follow links here names := by
  induction links generalizing here names with
  | zero => exact walkThrough_congr hentries follow rfl here names
  | succ links ih => exact walkThrough_congr hentries follow (funext fun next => funext (ih next)) here names

theorem isAbsolute_absolute (fs : Files) (p : Path) : (fs.absolute p).isAbsolute = true := by
  rw [absolute]
  split
  · assumption
  · rfl

/-- An absolute path without double dots leads where the path itself leads. -/
theorem leads_absolute_iff {fs : Files} (hbase : fs.IsGrounded fs.workingDirectory) {p : Path}
    (hp : ".." ∉ p.names) {follow : Bool} {links : Nat} {l : Location} :
    Leads fs follow links (fs.start (fs.absolute p)) (fs.absolute p).names l ↔
      Leads fs follow links (fs.start p) p.names l := by
  by_cases habsolute : p.isAbsolute
  · have heq : fs.absolute p = p := by
      rw [absolute, if_pos habsolute, Path.settle_of_not_mem hp]
    rw [heq]
  · have hall : ".." ∉ fs.workingDirectory ++ p.names := by
      rw [List.mem_append, not_or]
      exact ⟨hbase.not_up, hp⟩
    have heq : fs.absolute p = ⟨.root, fs.workingDirectory ++ p.names⟩ := by
      rw [absolute, if_neg habsolute, Path.settle_of_not_mem hall]
    have hstart : fs.start p = fs.workingDirectory := by rw [start, if_neg habsolute]
    rw [heq, hstart, ← leads_append_iff hbase]
    rfl

/-- An absolute path is read back from its text. -/
theorem ofText_text_absolute {fs : Files} (hbase : fs.IsGrounded fs.workingDirectory) {p : Path}
    (hp : ".." ∉ p.names) (hproper : p.IsProper) :
    Path.ofText (fs.absolute p).text = fs.absolute p := by
  apply Path.ofText_text
  have hall : ".." ∉ fs.workingDirectory ++ p.names := by
    rw [List.mem_append, not_or]
    exact ⟨hbase.not_up, hp⟩
  rw [absolute, Path.settle_of_not_mem hp, Path.settle_of_not_mem hall]
  split
  · exact hproper
  · intro name hname
    rcases List.mem_append.mp hname with hname | hname
    · exact hbase.names name hname
    · exact hproper name hname

end Files

end Stopwatch

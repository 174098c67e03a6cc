/-
  Copying a package.

  Each step of the copy writes below the path that it copies to.  The paths of a layout lie
  apart from each other, and links are copied to where nothing is written later, so no step
  writes through a link that another step, or the same step before, has put there.
-/
import Stopwatch.Proofs.Files.Placed
import Stopwatch.Proofs.Host.Files
import Stopwatch.Proofs.Package.WorkingCopy

namespace Stopwatch

/-! ## Layouts -/

/-- A text that is a relative path without double dots. -/
def Path.IsPlain (text : String) : Prop :=
  (Path.ofText text).anchor = .relative ∧ (Path.ofText text).names ≠ [] ∧ ".." ∉ (Path.ofText text).names

/-- Two texts of which neither is a path below that of the other. -/
def Path.Apart (a b : String) : Prop :=
  ¬(Path.ofText a).names <+: (Path.ofText b).names ∧ ¬(Path.ofText b).names <+: (Path.ofText a).names

instance (text : String) : Decidable (Path.IsPlain text) := inferInstanceAs (Decidable (_ ∧ _ ∧ _))

instance (a b : String) : Decidable (Path.Apart a b) := inferInstanceAs (Decidable (_ ∧ _))

theorem Path.Apart.symm {a b : String} (h : Path.Apart a b) : Path.Apart b a :=
  ⟨h.2, h.1⟩

/-- The parts of a package besides its lock files. -/
def Config.parts (c : Config) : List String :=
  [c.manifestName, c.sourceDirectory, c.testsDirectory, c.buildCacheDirectory]

/-- The parts of a package lie apart from each other. -/
structure Config.IsApart (c : Config) : Prop where
  plain : ∀ part ∈ c.parts ++ c.lockFiles, Path.IsPlain part
  parts : c.parts.Pairwise Path.Apart
  locks : ∀ lock ∈ c.lockFiles, ∀ part ∈ c.parts, Path.Apart lock part

instance (c : Config) : Decidable c.IsApart :=
  decidable_of_iff ((∀ part ∈ c.parts ++ c.lockFiles, Path.IsPlain part) ∧ c.parts.Pairwise Path.Apart ∧
      ∀ lock ∈ c.lockFiles, ∀ part ∈ c.parts, Path.Apart lock part)
    ⟨fun h => ⟨h.1, h.2.1, h.2.2⟩, fun h => ⟨h.plain, h.parts, h.locks⟩⟩

namespace Package

open Files Action

variable {p : Package} {w : String} {fs₁ : Files} {root : Location} {Link : List String → Prop}
  {host h : Host} {F : Failure → Prop} {names : List String} {text : String}

/-- What is copied by a plan: the parts of the package, and a lock file if there is one. -/
theorem relative_copyPlan (p : Package) (fs : Files) :
    ∃ lock : Option String, (∀ file, lock = some file → file ∈ p.config.lockFiles) ∧
      (p.copyPlan fs).map (·.relative) =
        [p.config.manifestName, p.config.sourceDirectory, p.config.testsDirectory] ++ lock.toList ++
          [p.config.buildCacheDirectory] := by
  refine ⟨p.config.lockFiles.find? fun file => fs.exists? (p.path.slash file),
    fun file hfile => List.mem_of_find?_eq_some hfile, ?_⟩
  rw [copyPlan]
  cases p.config.lockFiles.find? fun file => fs.exists? (p.path.slash file) <;> rfl

/-- The steps of a plan copy the parts of the layout. -/
theorem relative_mem_parts {fs : Files} {step : CopyStep} (hstep : step ∈ p.copyPlan fs) :
    step.relative ∈ p.config.parts ++ p.config.lockFiles := by
  obtain ⟨lock, hlock, hrelative⟩ := relative_copyPlan p fs
  have hpart : step.relative ∈ (p.copyPlan fs).map (·.relative) := List.mem_map_of_mem hstep
  rw [hrelative] at hpart
  cases lock with
  | none =>
    simp only [Option.toList_none, List.append_nil, List.mem_append, List.mem_cons, List.not_mem_nil,
      or_false] at hpart
    simp only [Config.parts, List.mem_append, List.mem_cons, List.not_mem_nil, or_false]
    tauto
  | some file =>
    have hfile := hlock file rfl
    simp only [Option.toList_some, List.mem_append, List.mem_cons, List.not_mem_nil, or_false] at hpart
    simp only [Config.parts, List.mem_append, List.mem_cons, List.not_mem_nil, or_false]
    rcases hpart with (hpart | hlast) | hpart
    · tauto
    · exact Or.inr (hlast ▸ hfile)
    · tauto

/-- The steps of a plan copy parts that lie apart. -/
theorem apart_copyPlan (happart : p.config.IsApart) (fs : Files) :
    ((p.copyPlan fs).map (·.relative)).Pairwise Path.Apart ∧
      ∀ step ∈ p.copyPlan fs, Path.IsPlain step.relative := by
  obtain ⟨lock, hlock, hrelative⟩ := relative_copyPlan p fs
  have hparts := happart.parts
  constructor
  · rw [hrelative]
    cases lock with
    | none => exact hparts
    | some file =>
      have hfile := happart.locks file (hlock file rfl)
      simp only [Config.parts, List.forall_mem_cons, List.pairwise_cons] at hparts hfile
      obtain ⟨⟨hms, hmt, hmc, -⟩, ⟨hst, hsc, -⟩, ⟨htc, -⟩, -⟩ := hparts
      obtain ⟨hm, hs, ht, hc, -⟩ := hfile
      simp [hms, hmt, hmc, hst, hsc, htc, hm.symm, hs.symm, ht.symm, hc]
  · intro step hstep
    exact happart.plain _ (relative_mem_parts hstep)

theorem slash_work (hplain : Path.IsPlain text) :
    p.work.slash text = p.below (Path.ofText text).names := by
  have habsolute : (Path.ofText text).isAbsolute = false := by
    simp [Path.isAbsolute, hplain.1]
  rw [Path.slash, Path.join, habsolute]
  rfl

/-! ## Where links may stand -/

/-- Nothing that is made under some names goes through a link. -/
structure IsFreeAbove (Link : List String → Prop) (names : List String) : Prop where
  ne_nil : names ≠ []
  plain : ".." ∉ names
  above : ∀ front, front ≠ [] → front <+: names → front ≠ names → ¬Link front

/-- Nothing that is written under some names goes through a link. -/
structure IsFree (Link : List String → Prop) (names : List String) : Prop where
  ne_nil : names ≠ []
  plain : ".." ∉ names
  front : ∀ front, front ≠ [] → front <+: names → ¬Link front

theorem IsFree.isFreeAbove (h : IsFree Link names) : IsFreeAbove Link names :=
  ⟨h.ne_nil, h.plain, fun front hne hfront _ => h.front front hne hfront⟩

/-- The names that lie under one of some parts. -/
def Below (done : List (List String)) (names : List String) : Prop :=
  ∃ part ∈ done, part <+: names

/-- A part that lies apart from all that has been copied. -/
structure IsNew (done : List (List String)) (part : List String) : Prop where
  ne_nil : part ≠ []
  plain : ".." ∉ part
  apart : ∀ other ∈ done, ¬other <+: part ∧ ¬part <+: other

variable {done : List (List String)} {part : List String} {files : Files} {l : Location}

/-- What lies under a new part does not lie under another one. -/
theorem IsNew.not_below (hnew : IsNew done part) {front : List String} (hfront : front <+: part ++ names) :
    ¬Below done front := by
  rintro ⟨other, hother, hbegins⟩
  rcases List.prefix_or_prefix_of_prefix (hbegins.trans hfront) (List.prefix_append part names)
    with hshort | hlong
  · exact (hnew.apart other hother).1 hshort
  · exact (hnew.apart other hother).2 hlong

/-- While a part is copied from a location, links stand under what has been copied before, and
under the part where there are links in what is copied. -/
def Linked (done : List (List String)) (part : List String) (files : Files) (l : Location)
    (names : List String) : Prop :=
  Below done names ∨ ∃ rest target, names = part ++ rest ∧ files.find? (l ++ rest) = some (.link target)

/-- No entry is made through a link that has been copied before: above an entry there are only
directories. -/
theorem IsNew.isFreeAbove (hnew : IsNew done part) (htree : files.IsTree) {e : Entry}
    (hfound : files.find? (l ++ names) = some e) : IsFreeAbove (Linked done part files l) (part ++ names) := by
  refine ⟨by simp [hnew.ne_nil], ?_, ?_⟩
  · have hup := htree.not_up hfound
    rw [List.mem_append, not_or] at hup ⊢
    exact ⟨hnew.plain, hup.2⟩
  · rintro front - hfront hother (hbelow | ⟨rest, target, rfl, hlink⟩)
    · exact hnew.not_below hfront hbelow
    · have hrest : rest <+: names := (List.prefix_append_right_inj part).mp hfront
      have hne : l ++ rest ≠ l ++ names := by simpa using hother
      have hdirectory := htree.directory_of_prefix hfound ((List.prefix_append_right_inj l).mpr hrest) hne
      rw [hlink] at hdirectory
      cases hdirectory

theorem IsNew.isFree (hnew : IsNew done part) (htree : files.IsTree) {e : Entry}
    (hfound : files.find? (l ++ names) = some e) (hfile : ∀ target, e ≠ .link target) :
    IsFree (Linked done part files l) (part ++ names) := by
  have habove := hnew.isFreeAbove htree hfound
  refine ⟨habove.ne_nil, habove.plain, fun front hne hfront => ?_⟩
  by_cases hwhole : front = part ++ names
  · rintro (hbelow | ⟨rest, target, heq, hlink⟩)
    · exact hnew.not_below hfront hbelow
    · obtain rfl : rest = names := List.append_cancel_left (heq.symm.trans hwhole)
      rw [hfound] at hlink
      exact hfile target (Option.some.inj hlink)
  · exact habove.above front hne hfront hwhole

/-! ## Single entries -/

/-- The host while a package is copied. -/
abbrev Copying (w : String) (fs₁ : Files) (root : Location) (host : Host) (Link : List String → Prop) :
    Host → Prop :=
  During host (IsCopy w fs₁ root Link)

theorem grows_copying : Grows (Copying w fs₁ root host Link) := by
  intro h q files _ hi hmake
  exact hi.change (hi.2.makeDirectory hmake)

section Steps

variable (hF : ∀ e, F (.system e)) (hroom : p.IsRoom w fs₁ root)

include hF hroom

theorem stays_putFile (hfree : IsFree Link names) (hi : Copying w fs₁ root host Link h)
    (bytes : List UInt8) (executable : Bool) :
    Stays (Copying w fs₁ root host Link) F (putFile (p.below names) bytes executable) h := by
  rw [putFile]
  refine (Stays.changeFiles hF hi fun files hwrite => ?_).bind fun _ h hi => ?_
  · exact hi.change (hi.2.write hroom hfree.ne_nil hfree.plain hfree.front hwrite)
  · exact .modify (hi.change (hi.2.setExecutable hroom hfree.ne_nil hfree.plain hfree.front executable))

theorem stays_copyEntry {e : Entry} (hfree : IsFreeAbove Link names)
    (hfile : (∀ target, e ≠ .link target) → IsFree Link names)
    (hlink : ∀ target, e = .link target → Link names ∧ ¬fs₁.NoLinks)
    (hi : Copying w fs₁ root host Link h) (source : String) :
    Stays (Copying w fs₁ root host Link) F (copyEntry source e (p.below names)) h := by
  cases e with
  | file bytes executable => exact stays_putFile hF hroom (hfile fun _ heq => nomatch heq) hi bytes executable
  | directory =>
    refine Stays.changeFiles hF hi fun files hmake => hi.change ?_
    exact hi.2.make hroom hfree.ne_nil hfree.plain hfree.above hlink hmake
  | link target =>
    rw [copyEntry]
    refine .get_bind ?_
    cases hmake : h.files.makeLink (p.below names) target with
    | ok files => exact .modify (hi.change (hi.2.make hroom hfree.ne_nil hfree.plain hfree.above hlink hmake))
    | error fault => exact .fail hi (hF _)
  | pipe => exact .fail hi (hF _)

/-- Entries are copied one after the other; those that cannot be copied are left out. -/
theorem stays_copyEntries (hnew : IsNew done part) (htree : files.IsTree)
    (hnolinks : fs₁.NoLinks → files.NoLinks) {entries : List (List String × Entry)}
    (hentries : ∀ x ∈ entries, files.find? (l ++ x.1) = some x.2)
    (hi : Copying w fs₁ root host (Linked done part files l) h) (source : Path) :
    Stays (Copying w fs₁ root host (Linked done part files l)) F
      (copyEntries source (p.below part) entries) h := by
  induction entries generalizing h with
  | nil => exact .pure hi []
  | cons first rest ih =>
    obtain ⟨names, e⟩ := first
    have hfound := hentries (names, e) List.mem_cons_self
    have hrest {h : Host} (hi : Copying w fs₁ root host (Linked done part files l) h) :=
      ih (fun x hx => hentries x (List.mem_cons_of_mem _ hx)) hi
    have hdestination : (⟨(p.below part).anchor, (p.below part).names ++ names⟩ : Path) =
        p.below (part ++ names) := by
      simp only [Package.below, List.append_assoc]
    rw [copyEntries, hdestination]
    have hcopy : Stays (Copying w fs₁ root host (Linked done part files l)) F
        (copyEntry (textBelow source names) e (p.below (part ++ names))) h := by
      refine stays_copyEntry hF hroom (hnew.isFreeAbove htree hfound) (hnew.isFree htree hfound)
        (fun target heq => ?_) hi _
      have hlink : files.find? (l ++ names) = some (.link target) := heq ▸ hfound
      exact ⟨Or.inr ⟨names, target, rfl, hlink⟩, fun hfree => hnolinks hfree _ _ hlink⟩
    refine Stays.attempt_bind hcopy (fun _ h hi => hrest hi) fun f h hi _ => ?_
    exact (hrest hi).bind fun _ h hi => .pure hi _

/-! ## Files and trees -/

/-- A part that is a directory is copied with all that is below it. -/
theorem stays_copyTree (hnew : IsNew done part) (hi : Copying w fs₁ root host (Below done) h)
    (source : Path) :
    Stays (Copying w fs₁ root host (Below (part :: done))) F (copyTree source (p.below part)) h := by
  have hdone {h : Host} (hi : Copying w fs₁ root host (Below done) h) :
      Copying w fs₁ root host (Below (part :: done)) h :=
    hi.mono fun files hfiles => hfiles.mono fun names ⟨other, hother, hbegins⟩ =>
      ⟨other, List.mem_cons_of_mem _ hother, hbegins⟩
  have hlinked {files : Files} {l : Location} {h : Host}
      (hi : Copying w fs₁ root host (Linked done part files l) h) :
      Copying w fs₁ root host (Below (part :: done)) h := by
    refine hi.mono fun files hfiles => hfiles.mono fun names hlink => ?_
    rcases hlink with ⟨other, hother, hbegins⟩ | ⟨rest, target, rfl, -⟩
    · exact ⟨other, List.mem_cons_of_mem _ hother, hbegins⟩
    · exact ⟨part, List.mem_cons_self, List.prefix_append _ _⟩
  rw [copyTree]
  refine .get_bind ?_
  dsimp only
  have htree := hi.2.tree
  have hnolinks := hi.2.free
  rw [Stays, ends_bind, ends_refusing]
  cases hlocate : h.files.locate source with
  | error fault => exact ⟨hdone hi, hF _⟩
  | ok l =>
    have hstart : Copying w fs₁ root host (Linked done part h.files l) h :=
      hi.mono fun files hfiles => hfiles.mono fun names hbelow => Or.inl hbelow
    refine Stays.mono (I := Copying w fs₁ root host (Linked done part h.files l)) ?_ (fun _ => hlinked) fun _ hf => hf
    refine (Stays.makeDirectories hF grows_copying hstart _ false).bind fun _ h' hi => ?_
    refine (stays_copyEntries hF hroom hnew htree hnolinks (fun x hx => ((mem_below htree).mp hx).2) hi
      source).bind fun parts h' hi => ?_
    split
    · exact .pure hi ()
    · exact .fail hi (hF _)

/-- A part that is a file is copied under its path, or into a directory there. -/
theorem stays_copyFile (hfree : IsFree Link part)
    (hinside : ∀ name, Path.IsName name → part.getLast? = some name → IsFree Link (part ++ [name]))
    (hproper : ∀ name ∈ part, Path.IsName name)
    (hi : Copying w fs₁ root host Link h) {source : Path} (hsource : source.name = part.getLast?.getD "") :
    Stays (Copying w fs₁ root host Link) F (copyFile source (p.below part)) h := by
  obtain ⟨name, hlast⟩ : ∃ name, part.getLast? = some name :=
    ⟨_, List.getLast?_eq_some_getLast hfree.ne_nil⟩
  have hname : Path.IsName name := hproper name (List.mem_of_getLast? hlast)
  have hslash : (p.below part).slash source.name = p.below (part ++ [name]) := by
    rw [hsource, hlast, Option.getD_some, Path.slash, Path.ofText_name hname, Path.join]
    simp [Path.isAbsolute, Package.below]
  obtain ⟨names, hnames, htarget⟩ : ∃ names, IsFree Link names ∧
      (if h.files.isDirectory (p.below part) then (p.below part).slash source.name else p.below part) =
        p.below names := by
    split
    · exact ⟨_, hinside name hname hlast, hslash⟩
    · exact ⟨part, hfree, rfl⟩
  rw [copyFile]
  refine .get_bind ?_
  dsimp only
  rw [htarget]
  have hpipe (q : Path) (files : Files) {h : Host} (hi : Copying w fs₁ root host Link h) :
      Stays (Copying w fs₁ root host Link) F (refusePipe files q) h := by
    rw [refusePipe]
    split
    · exact .fail hi (hF _)
    · exact .pure hi ()
  refine (hpipe _ _ hi).bind fun _ h hi => (hpipe _ _ hi).bind fun _ h hi => ?_
  rw [Stays, ends_bind, ends_readBytes]
  cases h.files.read source with
  | error fault => exact ⟨hi, hF _⟩
  | ok bytes => exact stays_putFile hF hroom hnames hi _ _

/-! ## Steps -/

omit hF hroom in
theorem Copying.cons (hi : Copying w fs₁ root host (Below done) h) (part : List String) :
    Copying w fs₁ root host (Below (part :: done)) h :=
  hi.mono fun _ hfiles => hfiles.mono fun _ ⟨other, hother, hbegins⟩ =>
    ⟨other, List.mem_cons_of_mem _ hother, hbegins⟩

omit hF hroom in
theorem IsNew.isFree_below (hnew : IsNew done part) (hplain : ".." ∉ names) :
    IsFree (Below done) (part ++ names) := by
  refine ⟨by simp [hnew.ne_nil], ?_, fun front _ hfront => hnew.not_below hfront⟩
  rw [List.mem_append, not_or]
  exact ⟨hnew.plain, hplain⟩

theorem stays_copy (hnew : IsNew done part) (hproper : ∀ name ∈ part, Path.IsName name)
    (hi : Copying w fs₁ root host (Below done) h) {source : Path}
    (hsource : source.name = part.getLast?.getD "") :
    Stays (Copying w fs₁ root host (Below (part :: done))) F (Action.copy source (p.below part)) h := by
  rw [Action.copy]
  refine .get_bind ?_
  split
  · exact stays_copyTree hF hroom hnew hi source
  · have hfile : Stays (Copying w fs₁ root host (Below done)) F (do
        makeDirectories (p.below part).parent true
        copyFile source (p.below part)) h := by
      refine (Stays.makeDirectories hF grows_copying hi _ true).bind fun _ h hi => ?_
      refine stays_copyFile hF hroom ?_ (fun name hname hlast => ?_) hproper hi hsource
      · have hfree : IsFree (Below done) (part ++ []) := hnew.isFree_below List.not_mem_nil
        rwa [List.append_nil] at hfree
      · refine hnew.isFree_below fun hmem => hnew.plain ?_
        rw [List.mem_singleton.mp hmem]
        exact List.mem_of_getLast? hlast
    exact hfile.mono (fun _ hi => Copying.cons hi part) fun _ hf => hf

/-- A step that has failed is taken back; nothing outside is removed. -/
theorem stays_skipStep (hnew : IsNew done part)
    (hi : Copying w fs₁ root host (Below (part :: done)) h) (step : CopyStep) (f : Failure) :
    Stays (Copying w fs₁ root host (Below (part :: done))) F (skipStep step (p.below part) f) h := by
  have habove : ∀ front, front ≠ [] → front <+: part → front ≠ part → ¬Below (part :: done) front := by
    rintro front - hfront hne ⟨other, hother, hbegins⟩
    rcases List.mem_cons.mp hother with rfl | hother
    · exact hne (hfront.eq_of_length (Nat.le_antisymm hfront.length_le hbegins.length_le))
    · exact (hnew.apart other hother).1 (hbegins.trans hfront)
  have hremove : Stays (Copying w fs₁ root host (Below (part :: done))) F (removeTree (p.below part)) h := by
    refine Stays.removeTree hF hi fun l hlocate _ => hi.change ?_
    exact hi.2.eraseTree hroom hnew.ne_nil hnew.plain habove hlocate
  rw [skipStep]
  exact hremove.attempt.discard.bind fun _ h hi => Stays.advance (quiet_during host _) hi _

variable (hproblem : ∀ q : Problem, q.kind.isA .package = true → F (.problem q))

include hproblem

theorem stays_copyStep {step : CopyStep} (hplain : Path.IsPlain step.relative)
    (hnew : IsNew done (Path.ofText step.relative).names) (hi : Copying w fs₁ root host (Below done) h) :
    Stays (Copying w fs₁ root host (Below ((Path.ofText step.relative).names :: done))) F
      (p.copyStep step) h := by
  have hsource : (p.path.slash step.relative).name = (Path.ofText step.relative).names.getLast?.getD "" := by
    have habsolute : (Path.ofText step.relative).isAbsolute = false := by
      simp [Path.isAbsolute, hplain.1]
    obtain ⟨name, hlast⟩ : ∃ name, (Path.ofText step.relative).names.getLast? = some name :=
      ⟨_, List.getLast?_eq_some_getLast hplain.2.1⟩
    rw [Path.slash, Path.join, habsolute, Path.name]
    simp [hlast]
  rw [copyStep, slash_work hplain]
  refine Stays.observe_bind ?_
  split
  · refine Stays.attempt_bind (stays_copy hF hroom hnew (Path.ofText_isProper _) hi hsource)
      (fun _ h hi => .pure hi ()) fun f h hi hf => ?_
    dsimp only
    split
    · exact .fail hi hf
    · exact stays_skipStep hF hroom hnew hi step f
  · split
    · refine .fail (Copying.cons hi _) (hproblem _ ?_)
      rw [missingPart]
      split <;> rfl
    · exact .pure (Copying.cons hi _) ()

/-- All steps of a plan whose parts lie apart. -/
theorem stays_copySteps {steps : List CopyStep} (hplain : ∀ step ∈ steps, Path.IsPlain step.relative)
    (happart : (steps.map (·.relative)).Pairwise Path.Apart)
    (hdone : ∀ step ∈ steps, IsNew done (Path.ofText step.relative).names)
    (hi : Copying w fs₁ root host (Below done) h) :
    Stays (Copying w fs₁ root host fun _ => True) F (p.copySteps steps) h := by
  induction steps generalizing h done with
  | nil => exact .pure (hi.mono fun _ hfiles => hfiles.mono fun _ _ => trivial) ()
  | cons step rest ih =>
    rw [List.map_cons, List.pairwise_cons] at happart
    have hstep := stays_copyStep hF hroom hproblem (hplain step List.mem_cons_self)
      (hdone step List.mem_cons_self) hi
    rw [copySteps]
    refine Stays.bind_of_ends hstep (fun _ h hr => ?_) fun f h hr => ?_
    · refine ih (fun other hother => hplain other (List.mem_cons_of_mem _ hother)) happart.2
        (fun other hother => ?_) hr.1
      have hnew := hdone other (List.mem_cons_of_mem _ hother)
      have happart := happart.1 other.relative (List.mem_map_of_mem hother)
      refine ⟨hnew.ne_nil, hnew.plain, fun part hpart => ?_⟩
      rcases List.mem_cons.mp hpart with rfl | hpart
      · exact happart
      · exact hnew.apart part hpart
    · exact ⟨hr.1.mono fun _ hfiles => hfiles.mono fun _ _ => trivial, hr.2⟩

theorem stays_copyPackage (happart : p.config.IsApart)
    (hi : Copying w fs₁ root host (fun _ => False) h) :
    Stays (Copying w fs₁ root host fun _ => True) F p.copy h := by
  rw [Package.copy]
  refine .get_bind ?_
  obtain ⟨hpairs, hplain⟩ := apart_copyPlan happart h.files
  have hstart : Copying w fs₁ root host (Below []) h :=
    hi.mono fun _ hfiles => hfiles.mono fun _ hfalse => hfalse.elim
  have hnew : ∀ step ∈ p.copyPlan h.files, IsNew [] (Path.ofText step.relative).names :=
    fun step hstep => ⟨(hplain step hstep).2.1, (hplain step hstep).2.2, fun _ hmem => nomatch hmem⟩
  refine (stays_copySteps hF hroom hproblem hplain hpairs hnew hstart).bind fun _ h hi => ?_
  refine .get_bind ?_
  dsimp only
  split
  · exact Stays.report (quiet_during host _) hi _
  · exact .pure hi ()

end Steps

end Package

end Stopwatch

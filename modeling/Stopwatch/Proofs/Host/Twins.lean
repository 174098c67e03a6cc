/-
  Twins.

  Two hosts are twins if one of them lacks some files that the other one may have, and everything else
  that a run looks at is the same.  What a child writes it writes on both, so it leaves twins again; the
  two sides part only if it makes something else than a file in place of a file that is lacking.
-/
import Stopwatch.Proofs.Files.Lacking
import Stopwatch.Proofs.Host.Mirrored

namespace Stopwatch

open Action Files

variable {α : Type} {places : List Location}

/-- Where something else than a file stands, nothing else will stand there as long as entries are only
put. -/
theorem Files.lasting_parted : Files.Lasting (Files.Parted places) := by
  have hput {fs : Files} {l : Location} {e : Entry} (h : fs.Parted places) (hl : fs.IsPlace l) :
      (fs.insert l e).Parted places := by
    obtain ⟨l', hl', hother⟩ := h
    refine ⟨l', hl', fun hplace => hother fun e' he' => ?_⟩
    have hne : l' ≠ l := by
      rintro rfl
      exact hother hl
    exact hplace e' (by rw [find?_insert_of_ne fs hne, he'])
  constructor
  · intro fs fs' p e h hmake
    obtain ⟨l, -, hnone, rfl⟩ := make_eq_ok hmake
    exact hput h fun e' he' => nomatch hnone.symm.trans he'
  · intro fs fs' p change h hwrite
    rcases write_inv hwrite with rfl | ⟨l, bytes, executable, -, hplace, rfl⟩
    · exact h
    · exact hput h hplace
  · intro fs p executable h
    rcases setExecutable_inv fs p executable with heq | ⟨l, bytes, -, hplace, heq⟩
    · rw [heq]
      exact h
    · rw [heq]
      exact hput h hplace

namespace Action

/-- What a run looks at besides the files. -/
def stock (h : Host) : Nat × List Child × Option String × List Metric × Timestamp :=
  (h.named, h.upcoming, h.searchPath, h.gathered, h.now)

/-- Two hosts on which the same is to come; some files may be lacking on the second one. -/
def Twins (places : List Location) (h h' : Host) : Prop :=
  h.files.Lacking places h'.files ∧ stock h' = stock h

theorem Twins.change {h h' : Host} (ht : Twins places h h') {files files' : Files} (hfiles : files.Lacking places files') :
    Twins places { h with files } { h' with files := files' } :=
  ⟨hfiles, ht.2⟩

/-- On a host something else than a file stands where a file may be lacking. -/
def Parted (places : List Location) (h : Host) : Prop :=
  h.files.Parted places

/-- An action that writes the same on twins. -/
abbrev WritesAlike (places : List Location) (a : Action Unit) : Prop :=
  Mirrors (Parted places) (Twins places) (Twins places) (fun _ _ => Twins places) a a

/-! ## Making directories -/

theorem lasts_makeDirectory (p : Path) (mayExist : Bool) {h : Host} (hb : Parted places h) :
    Ends (makeDirectory p mayExist) h fun _ g => Parted places g := by
  rw [ends_makeDirectory]
  split
  · rename_i files hmake
    exact lasting_parted.make hb hmake
  · split
    · exact hb
    · exact hb

theorem writesAlike_makeDirectory (p : Path) (mayExist : Bool) : WritesAlike places (makeDirectory p mayExist) where
  lasts h' hb := lasts_makeDirectory p mayExist hb
  ends h h' ht := by
    rw [ends_makeDirectory]
    rcases ht.1.make p (e := .directory) nofun with hboth | ⟨gs', hmake, hparted⟩
    · rw [← Files.makeDirectory, ← Files.makeDirectory] at hboth
      generalize hfirst : h.files.makeDirectory p = first at hboth
      generalize hsecond : h'.files.makeDirectory p = second at hboth
      cases hboth with
      | made hfiles =>
        dsimp only
        rw [ends_makeDirectory, hsecond]
        exact Or.inr (.ok (ht.change hfiles))
      | refused fault fault' =>
        -- whether a directory is there already is the same on both sides
        have hsame : Ends (makeDirectory p mayExist) h' fun r' g' => g' = h' ∧
            if (mayExist && h.files.isDirectory p) = true then r' = .ok ()
            else r' = .error (.system (.refused fault' p.text)) := by
          rw [ends_makeDirectory, hsecond]
          dsimp only
          rw [ht.1.alike.isDirectory p]
          split
          · exact ⟨rfl, rfl⟩
          · exact ⟨rfl, rfl⟩
        dsimp only
        split
        · rename_i hthere
          refine Ends.mono hsame ?_
          rintro r' g' ⟨rfl, hr'⟩
          rw [if_pos hthere] at hr'
          subst hr'
          exact Or.inr (.ok ht)
        · rename_i hthere
          refine Ends.mono hsame ?_
          rintro r' g' ⟨rfl, hr'⟩
          rw [if_neg hthere] at hr'
          subst hr'
          exact Or.inr (.error (Or.inr ⟨rfl, rfl⟩) ht)
    · have hparts (r : Except Failure Unit) (g : Host) : Ends (makeDirectory p mayExist) h' fun r' g' =>
          Parted places g' ∨ Mirrored (Twins places) (fun _ _ => Twins places) r g r' g' := by
        rw [ends_makeDirectory, Files.makeDirectory, hmake]
        exact Or.inl hparted
      split
      · exact hparts _ _
      · split
        · exact hparts _ _
        · exact hparts _ _

/-- Where no directory is missing above, none is made first. -/
theorem ends_go {host : Host} {levels : Nat} {p : Path} {mayExist : Bool}
    (hmake : host.files.makeDirectory p ≠ .error .missing) {Q : Except Failure Unit → Host → Prop} :
    Ends (makeDirectories.go levels p mayExist) host Q ↔ Ends (makeDirectory p mayExist) host Q := by
  cases levels with
  | zero => rw [makeDirectories.go]
  | succ levels =>
    rw [makeDirectories.go, ends_bind, ends_get]
    dsimp only
    split
    · rename_i hmissing
      exact absurd hmissing hmake
    · rfl

/-- Where a directory is missing above, that one is made first. -/
theorem ends_go_missing {host : Host} {levels : Nat} {p : Path} {mayExist : Bool}
    (hmake : host.files.makeDirectory p = .error .missing) {Q : Except Failure Unit → Host → Prop} :
    Ends (makeDirectories.go (levels + 1) p mayExist) host Q ↔
      Ends (do makeDirectories.go levels p.parent true; makeDirectory p mayExist) host Q := by
  rw [makeDirectories.go, ends_bind, ends_get]
  dsimp only
  rw [hmake]

/-- What is refused although nothing changes. -/
def IsRefused (host : Host) (r : Except Failure Unit) (h : Host) : Prop :=
  (∃ e, r = .error (.system e)) ∧ h = host

theorem ends_makeDirectory_refused {host : Host} {p : Path} {mayExist : Bool} {fault : SystemFault}
    (hmake : host.files.makeDirectory p = .error fault) (hnone : host.files.isDirectory p = false) :
    Ends (makeDirectory p mayExist) host (IsRefused host) := by
  rw [ends_makeDirectory, hmake]
  dsimp only
  rw [hnone, Bool.and_false, if_neg Bool.false_ne_true]
  exact ⟨⟨_, rfl⟩, rfl⟩

/-- Where something stands that is no directory, none is made. -/
theorem ends_go_refused {host : Host} {levels : Nat} {p : Path} {mayExist : Bool} {own : Location} {e : Entry}
    (hown : host.files.locateLink p = .ok own) (hfound : host.files.find? own = some e)
    (hnone : host.files.isDirectory p = false) : Ends (makeDirectories.go levels p mayExist) host (IsRefused host) := by
  have hmake : host.files.makeDirectory p = .error .present := by
    rw [Files.makeDirectory, make, hown]
    simp only [bind, Except.bind, hfound]
  refine (ends_go fun hmissing => ?_).mpr (ends_makeDirectory_refused hmake hnone)
  rw [hmake] at hmissing
  cases hmissing

/-- A way that leads to no directory. -/
theorem isDirectory_eq_false {fs : Files} {p : Path} (h : ∀ l, fs.locate p = .ok l → fs.find? l ≠ some .directory) :
    fs.isDirectory p = false := by
  rw [Files.isDirectory, status?]
  cases hlocate : fs.locate p with
  | error fault => rfl
  | ok l => exact decide_eq_false (h l hlocate)

/-- Where the way leads through something that is no directory, none is made. -/
theorem ends_makeDirectory_under_file {host : Host} {p : Path} {mayExist : Bool}
    (hown : host.files.locateLink p = .error .notDirectory) : Ends (makeDirectory p mayExist) host (IsRefused host) := by
  have hmake : host.files.makeDirectory p = .error .notDirectory := by
    rw [Files.makeDirectory, make, hown]
    rfl
  refine ends_makeDirectory_refused hmake (isDirectory_eq_false fun l hl => ?_)
  rw [locate_eq_error hown] at hl
  cases hl

/-- Where a way ends at a file that is lacking, a directory is made in place of the file, or that is refused. -/
theorem ends_go_of_gap {fs : Files} {host : Host} (h : fs.Lacking places host.files) {p : Path}
    (hgap : Lacking.IsGap fs host.files (fs.locate p)) (levels : Nat) (mayExist : Bool) :
    Ends (makeDirectories.go levels p mayExist) host fun r g => Parted places g ∨ IsRefused host r g := by
  obtain ⟨l, hlocate, hthere, hnone⟩ := hgap
  have hl : l ∈ places := by
    by_contra hl
    exact hthere ((h.same l hl).symm.trans hnone)
  have hlocate' := h.alike.locate.mpr hlocate
  obtain ⟨own, hown, hend⟩ := (locate_eq_ok_iff.mp hlocate').exists_own
  rcases hend with rfl | ⟨target, -, hlink, -⟩
  · have hmade : host.files.makeDirectory p = .ok (host.files.insert own .directory) := by
      rw [Files.makeDirectory, make, locateLink_eq_ok_iff.mpr hown]
      simp only [bind, Except.bind, hnone]
    have hmissing : host.files.makeDirectory p ≠ .error .missing := by
      rw [hmade]
      intro heq
      cases heq
    rw [ends_go hmissing, ends_makeDirectory, hmade]
    refine Or.inl ⟨own, hl, fun hplace => ?_⟩
    obtain ⟨_, _, heq⟩ := hplace _ (find?_insert_self _ (h.place_lacking own hl).ne_nil _)
    cases heq
  · have hnowhere : host.files.isDirectory p = false := by
      refine isDirectory_eq_false fun l' hl' => ?_
      rw [← Except.ok.inj (hlocate'.symm.trans hl'), hnone]
      intro heq
      cases heq
    exact Ends.mono (ends_go_refused (locateLink_eq_ok_iff.mpr hown) hlink hnowhere) fun _ _ => Or.inr

/-- To make a directory to which the way is blocked is refused, unless a directory is made in place of the
file that is lacking. -/
theorem ends_go_of_blocked {fs : Files} {host : Host} (h : fs.Lacking places host.files) {p : Path}
    (hblocked : Lacking.Blocked (fs.locateLink p) (host.files.locateLink p)) (levels : Nat) (mayExist : Bool) :
    Ends (makeDirectories.go levels p mayExist) host fun r g => Parted places g ∨ IsRefused host r g := by
  have hmake {p : Path} (hblocked : Lacking.Blocked (fs.locateLink p) (host.files.locateLink p)) :
      host.files.makeDirectory p = .error .missing := by
    rw [Files.makeDirectory, make, hblocked.2]
    rfl
  have hnowhere {p : Path} (hlocate : host.files.locate p = .error .missing) : host.files.isDirectory p = false := by
    refine isDirectory_eq_false fun l hl => ?_
    rw [hlocate] at hl
    cases hl
  -- by induction on the directories above that can be made first
  induction levels generalizing p mayExist with
  | zero =>
    rw [makeDirectories.go]
    refine Ends.mono (ends_makeDirectory_refused (hmake hblocked) ?_) fun _ _ => Or.inr
    exact hnowhere (locate_eq_error hblocked.2)
  | succ levels ih =>
    have habove : Ends (makeDirectories.go levels p.parent true) host fun r g =>
        Parted places g ∨ IsRefused host r g := by
      rcases h.blocked_parent hblocked with hparent | hgap
      · rcases h.blocked_own hparent with ⟨own, e, hown, hfound⟩ | hown
        · exact Ends.mono (ends_go_refused hown hfound (hnowhere hparent.2)) fun _ _ => Or.inr
        · exact ih hown true
      · exact ends_go_of_gap h hgap levels true
    rw [ends_go_missing (hmake hblocked), ends_bind]
    refine Ends.mono habove fun r g hr => ?_
    cases r with
    | error e => exact hr
    | ok _ =>
      rcases hr with hb | ⟨⟨e, hfalse⟩, -⟩
      · exact Ends.mono (lasts_makeDirectory p mayExist hb) fun _ _ => Or.inl
      · cases hfalse

theorem lasts_go (levels : Nat) (p : Path) (mayExist : Bool) {h : Host} (hb : Parted places h) :
    Ends (makeDirectories.go levels p mayExist) h fun _ g => Parted places g := by
  induction levels generalizing p mayExist h with
  | zero => exact lasts_makeDirectory p mayExist hb
  | succ levels ih =>
    rw [makeDirectories.go, ends_bind, ends_get]
    dsimp only
    split
    · rw [ends_bind]
      refine Ends.mono (ih p.parent true hb) fun r g hr => ?_
      cases r with
      | ok _ => exact lasts_makeDirectory p mayExist hr
      | error e => exact hr
    · exact lasts_makeDirectory p mayExist hb

theorem makeDirectory_eq_missing {fs : Files} {p : Path} :
    fs.makeDirectory p = .error .missing ↔ fs.locateLink p = .error .missing := by
  rw [Files.makeDirectory, make]
  cases hown : fs.locateLink p with
  | error fault => simp [bind, Except.bind]
  | ok own => cases hfound : fs.find? own <;> simp [bind, Except.bind, hfound]

theorem writesAlike_go (levels : Nat) (p : Path) (mayExist : Bool) :
    WritesAlike places (makeDirectories.go levels p mayExist) := by
  induction levels generalizing p mayExist with
  | zero => exact writesAlike_makeDirectory p mayExist
  | succ levels ih =>
    refine ⟨fun h' hb => lasts_go _ p mayExist hb, fun h h' ht => ?_⟩
    by_cases hmissing : h.files.makeDirectory p = .error .missing
    · have hmissing' : h'.files.makeDirectory p = .error .missing := by
        rw [makeDirectory_eq_missing] at hmissing ⊢
        rcases ht.1.locateLink_cases p with hsame | hblocked
        · rw [hsame, hmissing]
        · rw [hblocked.1] at hmissing
          cases hmissing
      have hboth := (ih p.parent true).bind fun _ _ => (writesAlike_makeDirectory p mayExist : WritesAlike places _)
      rw [ends_go_missing hmissing]
      refine Ends.mono (hboth.ends h h' ht) fun r g hr => ?_
      rw [ends_go_missing hmissing']
      exact hr
    · rw [ends_go hmissing]
      by_cases hmissing' : h'.files.makeDirectory p = .error .missing
      · have hblocked : Lacking.Blocked (h.files.locateLink p) (h'.files.locateLink p) := by
          rw [makeDirectory_eq_missing] at hmissing hmissing'
          rcases ht.1.locateLink_cases p with hsame | hblocked
          · exact absurd (hsame.symm.trans hmissing') hmissing
          · exact hblocked
        refine Ends.mono (ends_makeDirectory_under_file hblocked.1) ?_
        rintro r g ⟨⟨e, rfl⟩, rfl⟩
        refine Ends.mono (ends_go_of_blocked ht.1 hblocked _ mayExist) fun r' g' hr' => ?_
        rcases hr' with hb | ⟨⟨e', rfl⟩, rfl⟩
        · exact Or.inl hb
        · exact Or.inr (.error (Or.inr ⟨rfl, rfl⟩) ht)
      · refine Ends.mono ((writesAlike_makeDirectory p mayExist).ends h h' ht) fun r g hr => ?_
        rw [ends_go hmissing']
        exact hr

theorem writesAlike_makeDirectories (p : Path) (mayExist : Bool) : WritesAlike places (makeDirectories p mayExist) :=
  writesAlike_go p.names.length p mayExist

/-! ## What a child writes -/

/-- Files are changed on both sides, or on neither. -/
theorem ends_changeFiles_both {R : Host → Host → Prop} {S : Unit → Unit → Host → Host → Prop} (path path' : String)
    {change change' : Files → Except SystemFault Files} {h h' : Host}
    (hboth : Lacking.Both places (change h.files) (change' h'.files)) (hrefused : R h h')
    (hmade : ∀ files files', change h.files = .ok files → change' h'.files = .ok files' → files.Lacking places files' →
      S () () { h with files } { h' with files := files' }) :
    Ends (changeFiles path change) h fun result g => Ends (changeFiles path' change') h' fun result' g' =>
      Mirrored R S result g result' g' := by
  rw [ends_changeFiles]
  generalize hfirst : change h.files = first at hboth
  generalize hsecond : change' h'.files = second at hboth
  cases hboth with
  | made hfiles =>
    dsimp only
    rw [ends_changeFiles, hsecond]
    exact .ok (hmade _ _ hfirst hsecond hfiles)
  | refused fault fault' =>
    dsimp only
    rw [ends_changeFiles, hsecond]
    exact .error (Or.inr ⟨rfl, rfl⟩) hrefused

theorem writesAlike_changeFiles (path : String) {change : Files → Except SystemFault Files}
    (hlasts : ∀ {fs gs : Files}, fs.Parted places → change fs = .ok gs → gs.Parted places)
    (hchange : ∀ {fs fs' : Files}, fs.Lacking places fs' → Lacking.Both places (change fs) (change fs') ∨
      ∃ gs', change fs' = .ok gs' ∧ gs'.Parted places) : WritesAlike places (changeFiles path change) where
  lasts h' hb := by
    rw [ends_changeFiles]
    split
    · rename_i gs hgs
      exact hlasts hb hgs
    · exact hb
  ends h h' ht := by
    rcases hchange ht.1 with hboth | ⟨gs', hmade, hparted⟩
    · have hchanged := ends_changeFiles_both path path (S := fun _ _ => Twins places) hboth ht fun _ _ _ _ hfiles =>
        ht.change hfiles
      exact Ends.mono hchanged fun _ _ hr => Ends.mono hr fun _ _ => Or.inr
    · have hparts (r : Except Failure Unit) (g : Host) : Ends (changeFiles path change) h' fun r' g' =>
          Parted places g' ∨ Mirrored (Twins places) (fun _ _ => Twins places) r g r' g' := by
        rw [ends_changeFiles, hmade]
        exact Or.inl hparted
      rw [ends_changeFiles]
      split
      · exact hparts _ _
      · exact hparts _ _

theorem writesAlike_make (path : String) (p : Path) {e : Entry} (he : ∀ bytes executable, e ≠ .file bytes executable) :
    WritesAlike places (changeFiles path fun fs => fs.make p e) :=
  writesAlike_changeFiles path lasting_parted.make fun h => h.make p he

theorem writesAlike_putContent (p : Path) (content : Content) : WritesAlike places (putContent p content) := by
  refine (writesAlike_makeDirectories p.parent true).bind fun _ _ => ?_
  cases content with
  | file bytes executable =>
    refine Mirrors.bind (writesAlike_changeFiles p.text lasting_parted.write fun h => Or.inl (h.write fun _ _ _ => rfl))
      fun _ _ => ?_
    split
    · exact .modify (fun h hb => lasting_parted.setExecutable p true hb) fun g g' ht => ht.change (ht.1.setExecutable p true)
    · exact .pure fun _ _ => id
  | directory => exact writesAlike_makeDirectories p true
  | link target => exact writesAlike_make p.text p nofun
  | pipe => exact writesAlike_make p.text p nofun

theorem writesAlike_putContents (contents : List (String × Content)) : WritesAlike places (putContents contents) := by
  induction contents with
  | nil => exact .pure fun _ _ => id
  | cons first rest ih => exact (writesAlike_putContent _ _).bind fun _ _ => ih

/-- A child writes the same on twins. -/
theorem writesAlike_perform (child : Child) (arguments : List Argument) :
    WritesAlike places (perform child arguments) := by
  refine (writesAlike_putContents child.files).bind fun _ _ => ?_
  split
  · split
    · exact writesAlike_putContent _ _
    · exact .pure fun _ _ => id
  · exact .pure fun _ _ => id

end Action

end Stopwatch

/-
  Files of which some are lacking.

  Where a file is lacking on one side a path leads to the same location on both, for no walk goes
  through a file.  So a change that is made on both sides leaves them as they were to each other; the
  sides part only where something else than a file is made in place of the file that is lacking.
-/
import Stopwatch.Proofs.Files.Alike

namespace Stopwatch.Files

instance decidableIsPlace (fs : Files) (l : Location) : Decidable (fs.IsPlace l) :=
  decidable_of_iff (((fs.find? l).all fun e => match e with
    | .file _ _ => true
    | _ => false) = true) <| by
    rw [IsPlace]
    cases hfound : fs.find? l with
    | none => simp
    | some e =>
      cases e with
      | file bytes executable => exact iff_of_true rfl fun e he => ⟨bytes, executable, (Option.some.inj he).symm⟩
      | directory | link _ | pipe =>
        refine iff_of_false Bool.false_ne_true fun hall => ?_
        obtain ⟨_, _, heq⟩ := hall _ rfl
        cases heq

/-- The same files on both sides, but for files that stand at some locations; a file that is lacking
on the first side is lacking on the second one too. -/
structure Lacking (places : List Location) (fs fs' : Files) : Prop where
  here : fs'.workingDirectory = fs.workingDirectory
  same : ∀ l, l ∉ places → fs'.find? l = fs.find? l
  place : ∀ l ∈ places, fs.IsPlace l
  place_lacking : ∀ l ∈ places, fs'.IsPlace l
  fewer : ∀ l, fs.find? l = none → fs'.find? l = none

/-- Something else than a file stands where a file may be lacking. -/
def Parted (places : List Location) (fs : Files) : Prop :=
  ∃ l ∈ places, ¬fs.IsPlace l

variable {places : List Location} {fs fs' : Files} {p : Path} {l : Location}

/-- Names that lead to no location of their own lead nowhere else, for the same reason. -/
theorem walkThrough_eq_error {through through' : Location → List String → Except SystemFault Location}
    {fault : SystemFault}
    (hthrough : ∀ here names, through here names = .error fault → through' here names = .error fault)
    {here : Location} {names : List String} (h : fs.walkThrough false through here names = .error fault) :
    fs.walkThrough true through' here names = .error fault := by
  induction names generalizing here with
  | nil =>
    rw [walkThrough] at h
    cases h
  | cons name rest ih =>
    rw [walkThrough] at h ⊢
    cases hfound : fs.find? here with
    | none =>
      rw [hfound] at h
      exact h
    | some e =>
      rw [hfound] at h
      cases e with
      | file _ _ | link _ | pipe => exact h
      | directory =>
        dsimp only at h ⊢
        split
        · rename_i hname
          rw [if_pos hname] at h
          exact ih h
        · rename_i hname
          rw [if_neg hname] at h
          split
          · rename_i target hlink
            rw [hlink] at h
            dsimp only at h
            split at h
            · cases h
            · simpa using hthrough _ _ h
          · rename_i hother
            refine ih ?_
            split at h
            · rename_i target hlink
              exact absurd hlink (hother target)
            · exact h

theorem locate_eq_error {fault : SystemFault} (h : fs.locateLink p = .error fault) : fs.locate p = .error fault := by
  have hwalk (links : Nat) (here : Location) (names : List String) (h : fs.walk false links here names = .error fault) :
      fs.walk true links here names = .error fault := by
    induction links generalizing here names with
    | zero => exact walkThrough_eq_error (fun _ _ => id) h
    | succ links ih => exact walkThrough_eq_error ih h
  exact hwalk _ _ _ h

namespace Lacking

/-- Files are no ways, so the ways are the same. -/
theorem alike (h : fs.Lacking places fs') : fs.Alike places fs' where
  here := h.here
  ways l := by
    by_cases hl : l ∈ places
    · rw [(h.place l hl).way?_eq_none, (h.place_lacking l hl).way?_eq_none]
    · rw [way?, way?, h.same l hl]
  same := h.same

/-- What stands at a location on both sides: the same, or a file that may be lacking. -/
theorem entry (h : fs.Lacking places fs') (l : Location) :
    fs'.find? l = fs.find? l ∨ l ∈ places ∧ (∃ bytes executable, fs.find? l = some (.file bytes executable)) ∧
      (fs'.find? l = none ∨ ∃ bytes executable, fs'.find? l = some (.file bytes executable)) := by
  by_cases hl : l ∈ places
  · cases hfound : fs.find? l with
    | none => exact Or.inl (h.fewer l hfound)
    | some e =>
      obtain ⟨bytes, executable, rfl⟩ := h.place l hl e hfound
      refine Or.inr ⟨hl, ⟨bytes, executable, rfl⟩, ?_⟩
      cases hfound' : fs'.find? l with
      | none => exact Or.inl rfl
      | some e' =>
        obtain ⟨bytes', executable', rfl⟩ := h.place_lacking l hl e' hfound'
        exact Or.inr ⟨bytes', executable', rfl⟩
  · exact Or.inl (h.same l hl)

/-! ## Entries that are put and removed -/

/-- An entry is put at one location on both sides; where a file may be lacking that is a file. -/
theorem insert (h : fs.Lacking places fs') {e e' : Entry} (hsame : l ∉ places → e' = e)
    (hfile : l ∈ places → ∃ bytes executable bytes' executable',
      e = .file bytes executable ∧ e' = .file bytes' executable') :
    (fs.insert l e).Lacking places (fs'.insert l e') where
  here := h.here
  same l' hl' := by
    by_cases heq : l' = l
    · subst heq
      rw [hsame hl']
      by_cases hnil : l' = []
      · rw [hnil]
        rfl
      · rw [find?_insert_self fs hnil, find?_insert_self fs' hnil]
    · rw [find?_insert_of_ne fs heq, find?_insert_of_ne fs' heq]
      exact h.same l' hl'
  place l' hl' e₀ he₀ := by
    by_cases heq : l' = l
    · subst heq
      obtain ⟨bytes, executable, -, -, rfl, -⟩ := hfile hl'
      rw [find?_insert_self fs (h.place l' hl').ne_nil] at he₀
      exact ⟨bytes, executable, (Option.some.inj he₀).symm⟩
    · rw [find?_insert_of_ne fs heq] at he₀
      exact h.place l' hl' e₀ he₀
  place_lacking l' hl' e₀ he₀ := by
    by_cases heq : l' = l
    · subst heq
      obtain ⟨-, -, bytes', executable', -, rfl⟩ := hfile hl'
      rw [find?_insert_self fs' (h.place_lacking l' hl').ne_nil] at he₀
      exact ⟨bytes', executable', (Option.some.inj he₀).symm⟩
    · rw [find?_insert_of_ne fs' heq] at he₀
      exact h.place_lacking l' hl' e₀ he₀
  fewer l' hl' := by
    by_cases heq : l' = l
    · subst heq
      by_cases hnil : l' = []
      · rw [hnil] at hl'
        cases hl'
      · rw [find?_insert_self fs hnil] at hl'
        cases hl'
    · rw [find?_insert_of_ne fs heq] at hl'
      rw [find?_insert_of_ne fs' heq]
      exact h.fewer l' hl'

/-- A file is put on the first side, where it may be lacking. -/
theorem insert_left (h : fs.Lacking places fs') (hl : l ∈ places) (bytes : List UInt8) (executable : Bool) :
    (fs.insert l (.file bytes executable)).Lacking places fs' where
  here := h.here
  same l' hl' := by
    have hne : l' ≠ l := by
      rintro rfl
      exact hl' hl
    rw [find?_insert_of_ne fs hne]
    exact h.same l' hl'
  place l' hl' e he := by
    by_cases heq : l' = l
    · rw [heq, find?_insert_self fs (h.place l hl).ne_nil] at he
      exact ⟨bytes, executable, (Option.some.inj he).symm⟩
    · rw [find?_insert_of_ne fs heq] at he
      exact h.place l' hl' e he
  place_lacking := h.place_lacking
  fewer l' hl' := by
    by_cases heq : l' = l
    · rw [heq, find?_insert_self fs (h.place l hl).ne_nil] at hl'
      cases hl'
    · rw [find?_insert_of_ne fs heq] at hl'
      exact h.fewer l' hl'

/-- The entry at one location is removed on both sides. -/
theorem erase (h : fs.Lacking places fs') (l : Location) : (fs.erase l).Lacking places (fs'.erase l) where
  here := h.here
  same l' hl' := by rw [find?_erase, find?_erase, h.same l' hl']
  place l' hl' e he := h.place l' hl' e (fs.find?_of_erase he)
  place_lacking l' hl' e he := h.place_lacking l' hl' e (fs'.find?_of_erase he)
  fewer l' hl' := by
    rw [find?_erase] at hl' ⊢
    split
    · rfl
    · rename_i hkept
      rw [if_neg hkept] at hl'
      exact h.fewer l' hl'

/-- A file is removed on the first side that is lacking on the second one. -/
theorem erase_left (h : fs.Lacking places fs') (hl : l ∈ places) (hnone : fs'.find? l = none) :
    (fs.erase l).Lacking places fs' where
  here := h.here
  same l' hl' := by
    have hne : l' ≠ l := by
      rintro rfl
      exact hl' hl
    rw [find?_erase_of_ne fs hne]
    exact h.same l' hl'
  place l' hl' e he := h.place l' hl' e (fs.find?_of_erase he)
  place_lacking := h.place_lacking
  fewer l' hl' := by
    by_cases heq : l' = l
    · rw [heq]
      exact hnone
    · rw [find?_erase_of_ne fs heq] at hl'
      exact h.fewer l' hl'

/-! ## Changes of both sides -/

/-- A change has been refused on both sides, or has been made on both. -/
inductive Both (places : List Location) : Except SystemFault Files → Except SystemFault Files → Prop
  | made {gs gs' : Files} (h : gs.Lacking places gs') : Both places (.ok gs) (.ok gs')
  | refused (fault fault' : SystemFault) : Both places (.error fault) (.error fault')

theorem exists_locate_error (h : fs.Lacking places fs') {fault : SystemFault} (hlocate : fs.locate p = .error fault) :
    ∃ fault', fs'.locate p = .error fault' := by
  cases hlocate' : fs'.locate p with
  | error fault' => exact ⟨fault', rfl⟩
  | ok l =>
    rw [h.alike.locate.mp hlocate'] at hlocate
    cases hlocate

theorem exists_locateLink_error (h : fs.Lacking places fs') {fault : SystemFault} (hlocate : fs.locateLink p = .error fault) :
    ∃ fault', fs'.locateLink p = .error fault' := by
  cases hlocate' : fs'.locateLink p with
  | error fault' => exact ⟨fault', rfl⟩
  | ok l =>
    rw [h.alike.locateLink.mp hlocate'] at hlocate
    cases hlocate

/-- Bytes are written on both sides, the same ones unless the file may be lacking. -/
theorem write (h : fs.Lacking places fs') {change change' : List UInt8 → List UInt8}
    (hchange : ∀ l, fs.locate p = .ok l → l ∉ places → change' = change) :
    Both places (fs.write p change) (fs'.write p change') := by
  rw [write_eq, write_eq]
  cases hlocate : fs.locate p with
  | error fault =>
    obtain ⟨fault', hlocate'⟩ := h.exists_locate_error hlocate
    rw [hlocate']
    exact .refused fault fault'
  | ok l =>
    rw [h.alike.locate.mpr hlocate]
    have hput {bytes bytes' : List UInt8} {executable executable' : Bool}
        (hsame : l ∉ places → bytes' = bytes ∧ executable' = executable) :
        Both places (.ok (fs.insert l (.file bytes executable))) (.ok (fs'.insert l (.file bytes' executable'))) := by
      refine .made (h.insert (fun hl => ?_) fun _ => ⟨_, _, _, _, rfl, rfl⟩)
      obtain ⟨rfl, rfl⟩ := hsame hl
      rfl
    dsimp only
    rcases h.entry l with hsame | ⟨hl, ⟨bytes, executable, hfile⟩, hnone | ⟨bytes', executable', hfile'⟩⟩
    · rw [hsame]
      cases hfound : fs.find? l with
      | none => exact hput fun hl => ⟨by rw [hchange l hlocate hl], rfl⟩
      | some e =>
        cases e with
        | file bytes executable => exact hput fun hl => ⟨by rw [hchange l hlocate hl], rfl⟩
        | directory => exact .refused _ _
        | link target => exact .made h
        | pipe => exact .made h
    · rw [hfile, hnone]
      exact hput fun hother => absurd hl hother
    · rw [hfile, hfile']
      exact hput fun hother => absurd hl hother

/-- Bytes are written on the first side alone, to where a file may be lacking. -/
theorem write_left (h : fs.Lacking places fs') (hlocate : fs.locate p = .ok l) (hl : l ∈ places)
    (change : List UInt8 → List UInt8) : ∃ gs, fs.write p change = .ok gs ∧ gs.Lacking places fs' := by
  rw [write_eq, hlocate]
  dsimp only
  cases hfound : fs.find? l with
  | none => exact ⟨_, rfl, h.insert_left hl _ _⟩
  | some e =>
    obtain ⟨bytes, executable, rfl⟩ := h.place l hl e hfound
    exact ⟨_, rfl, h.insert_left hl _ _⟩

/-- What is made on both sides is made where nothing stands; the sides part where it is made in place of
a file that is lacking. -/
theorem make (h : fs.Lacking places fs') (p : Path) {e : Entry} (he : ∀ bytes executable, e ≠ .file bytes executable) :
    Both places (fs.make p e) (fs'.make p e) ∨ ∃ gs', fs'.make p e = .ok gs' ∧ gs'.Parted places := by
  have hnowhere {fs : Files} {fault : SystemFault} (hlocate : fs.locateLink p = .error fault) :
      fs.make p e = .error fault := by
    rw [Files.make, hlocate]
    rfl
  have hthere {fs : Files} {l : Location} {e₀ : Entry} (hlocate : fs.locateLink p = .ok l) (hfound : fs.find? l = some e₀) :
      fs.make p e = .error .present := by
    rw [Files.make, hlocate]
    simp only [bind, Except.bind, hfound]
  have hmakes {fs : Files} {l : Location} (hlocate : fs.locateLink p = .ok l) (hfound : fs.find? l = none) :
      fs.make p e = .ok (fs.insert l e) := by
    rw [Files.make, hlocate]
    simp only [bind, Except.bind, hfound]
  have hparts {l : Location} (hl : l ∈ places) : (fs'.insert l e).Parted places := by
    refine ⟨l, hl, fun hplace => ?_⟩
    obtain ⟨bytes, executable, heq⟩ := hplace e (find?_insert_self fs' (h.place_lacking l hl).ne_nil e)
    exact he bytes executable heq
  cases hlocate : fs.locateLink p with
  | error fault =>
    obtain ⟨fault', hlocate'⟩ := h.exists_locateLink_error hlocate
    rw [hnowhere hlocate, hnowhere hlocate']
    exact Or.inl (.refused fault fault')
  | ok l =>
    have hlocate' := h.alike.locateLink.mpr hlocate
    cases hfound : fs.find? l with
    | none =>
      have hfound' := h.fewer l hfound
      rw [hmakes hlocate hfound, hmakes hlocate' hfound']
      by_cases hl : l ∈ places
      · exact Or.inr ⟨_, rfl, hparts hl⟩
      · exact Or.inl (.made (h.insert (fun _ => rfl) fun hl' => absurd hl' hl))
    | some e₀ =>
      rw [hthere hlocate hfound]
      cases hfound' : fs'.find? l with
      | some e₁ =>
        rw [hthere hlocate' hfound']
        exact Or.inl (.refused _ _)
      | none =>
        rw [hmakes hlocate' hfound']
        refine Or.inr ⟨_, rfl, hparts ?_⟩
        by_contra hl
        rw [h.same l hl, hfound] at hfound'
        cases hfound'

/-- Both sides say whether a file may be executed. -/
theorem setExecutable (h : fs.Lacking places fs') (p : Path) (executable : Bool) :
    (fs.setExecutable p executable).Lacking places (fs'.setExecutable p executable) := by
  rw [Files.setExecutable, Files.setExecutable]
  cases hlocate : fs.locate p with
  | error fault =>
    obtain ⟨fault', hlocate'⟩ := h.exists_locate_error hlocate
    rw [hlocate']
    exact h
  | ok l =>
    rw [h.alike.locate.mpr hlocate]
    dsimp only
    rcases h.entry l with hsame | ⟨hl, ⟨bytes, old, hfile⟩, hnone | ⟨bytes', old', hfile'⟩⟩
    · rw [hsame]
      cases hfound : fs.find? l with
      | none => exact h
      | some e =>
        cases e with
        | file bytes old => exact h.insert (fun _ => rfl) fun _ => ⟨_, _, _, _, rfl, rfl⟩
        | directory | link _ | pipe => exact h
    · rw [hfile, hnone]
      exact h.insert_left hl bytes executable
    · rw [hfile, hfile']
      exact h.insert (fun hother => absurd hl hother) fun _ => ⟨_, _, _, _, rfl, rfl⟩

/-! ## Walks that end nowhere -/

/-- A way is blocked by a file on the first side, and ends where the file is lacking on the second one. -/
def Blocked (way way' : Except SystemFault Location) : Prop :=
  way = .error .notDirectory ∧ way' = .error .missing

/-- Two ways are the same, unless they are blocked. -/
theorem walkThrough_cases (h : fs.Lacking places fs') {follow : Bool}
    {through through' : Location → List String → Except SystemFault Location}
    (hthrough : ∀ here names, through' here names = through here names ∨
      Blocked (through here names) (through' here names)) (here : Location) (names : List String) :
    fs'.walkThrough follow through' here names = fs.walkThrough follow through here names ∨
      Blocked (fs.walkThrough follow through here names) (fs'.walkThrough follow through' here names) := by
  induction names generalizing here with
  | nil => exact Or.inl rfl
  | cons name rest ih =>
    rw [walkThrough, walkThrough]
    rcases h.entry here with hsame | ⟨-, ⟨bytes, executable, hfile⟩, hnone | ⟨bytes', executable', hfile'⟩⟩
    · rw [hsame]
      cases hfound : fs.find? here with
      | none => exact Or.inl rfl
      | some e =>
        cases e with
        | file _ _ | link _ | pipe => exact Or.inl rfl
        | directory =>
          dsimp only
          split
          · exact ih _
          · rcases h.entry (here ++ [name]) with hnext | ⟨-, ⟨_, _, hnext⟩, hnext' | ⟨_, _, hnext'⟩⟩
            · rw [hnext]
              split
              · split
                · exact Or.inl rfl
                · exact hthrough _ _
              · exact ih _
            · rw [hnext, hnext']
              exact ih _
            · rw [hnext, hnext']
              exact ih _
    · rw [hfile, hnone]
      exact Or.inr ⟨rfl, rfl⟩
    · rw [hfile, hfile']
      exact Or.inl rfl

theorem walk_cases (h : fs.Lacking places fs') (follow : Bool) (links : Nat) (here : Location) (names : List String) :
    fs'.walk follow links here names = fs.walk follow links here names ∨
      Blocked (fs.walk follow links here names) (fs'.walk follow links here names) := by
  induction links generalizing here names with
  | zero => exact h.walkThrough_cases (fun _ _ => Or.inl rfl) here names
  | succ links ih => exact h.walkThrough_cases ih here names

theorem locateLink_cases (h : fs.Lacking places fs') (p : Path) :
    fs'.locateLink p = fs.locateLink p ∨ Blocked (fs.locateLink p) (fs'.locateLink p) := by
  rw [locateLink, locateLink, start_congr h.here]
  exact h.walk_cases false maxLinks (fs.start p) p.names

/-- A file stands at the end of a way on the first side, and is lacking on the second one. -/
def IsGap (fs fs' : Files) (way : Except SystemFault Location) : Prop :=
  ∃ l, way = .ok l ∧ fs.find? l ≠ none ∧ fs'.find? l = none

/-- The first names of a blocked way are blocked themselves, or lead to where the file is lacking. -/
theorem walkThrough_front (h : fs.Lacking places fs')
    {through through' into into' : Location → List String → Except SystemFault Location}
    (hthrough : ∀ here front last, Blocked (through here (front ++ [last])) (through' here (front ++ [last])) →
      Blocked (into here front) (into' here front) ∨ IsGap fs fs' (into here front))
    {here : Location} {front : List String} {last : String}
    (hblocked : Blocked (fs.walkThrough false through here (front ++ [last]))
      (fs'.walkThrough false through' here (front ++ [last]))) :
    Blocked (fs.walkThrough true into here front) (fs'.walkThrough true into' here front) ∨
      IsGap fs fs' (fs.walkThrough true into here front) := by
  induction front generalizing here with
  | nil =>
    obtain ⟨hfirst, hsecond⟩ := hblocked
    rw [List.nil_append, walkThrough] at hfirst hsecond
    rw [walkThrough]
    rcases h.entry here with hsame | ⟨-, ⟨bytes, executable, hfile⟩, hnone | ⟨bytes', executable', hfile'⟩⟩
    · rw [hsame] at hsecond
      cases hfound : fs.find? here with
      | none =>
        rw [hfound] at hfirst
        cases hfirst
      | some e =>
        rw [hfound] at hfirst hsecond
        cases e with
        | file _ _ | link _ | pipe => cases hsecond
        | directory =>
          -- a single name in a directory leads somewhere
          dsimp only at hfirst
          split at hfirst
          · cases hfirst
          · split at hfirst
            · cases hfirst
            · cases hfirst
    · refine Or.inr ⟨here, rfl, ?_, hnone⟩
      rw [hfile]
      exact Option.some_ne_none _
    · rw [hfile'] at hsecond
      cases hsecond
  | cons name rest ih =>
    rw [List.cons_append, walkThrough, walkThrough] at hblocked
    rw [walkThrough, walkThrough]
    rcases h.entry here with hsame | ⟨-, ⟨bytes, executable, hfile⟩, hnone | ⟨bytes', executable', hfile'⟩⟩
    · rw [hsame] at hblocked ⊢
      cases hfound : fs.find? here with
      | none =>
        rw [hfound] at hblocked
        cases hblocked.1
      | some e =>
        rw [hfound] at hblocked
        cases e with
        | file _ _ | link _ | pipe => cases hblocked.2
        | directory =>
          dsimp only at hblocked ⊢
          split
          · rename_i hname
            rw [if_pos hname, if_pos hname] at hblocked
            exact ih hblocked
          · rename_i hname
            rw [if_neg hname, if_neg hname] at hblocked
            rcases h.entry (here ++ [name]) with hnext | ⟨-, ⟨_, _, hnext⟩, hnext' | ⟨_, _, hnext'⟩⟩
            · rw [hnext] at hblocked ⊢
              split
              · rename_i target hlink
                rw [hlink] at hblocked
                have hmore : ((rest ++ [last]).isEmpty && !false) = false := by simp
                simp only [hmore, Bool.false_eq_true, if_false] at hblocked
                rw [← List.append_assoc] at hblocked
                simpa using hthrough _ _ _ hblocked
              · rename_i hother
                refine ih ?_
                split at hblocked
                · rename_i target hlink
                  exact absurd hlink (hother target)
                · exact hblocked
            · rw [hnext, hnext'] at hblocked ⊢
              exact ih hblocked
            · rw [hnext, hnext'] at hblocked ⊢
              exact ih hblocked
    · rw [hfile, hnone]
      exact Or.inl ⟨rfl, rfl⟩
    · rw [hfile'] at hblocked
      cases hblocked.2

theorem walk_front (h : fs.Lacking places fs') {links : Nat} {here : Location} {front : List String} {last : String}
    (hblocked : Blocked (fs.walk false links here (front ++ [last])) (fs'.walk false links here (front ++ [last]))) :
    Blocked (fs.walk true links here front) (fs'.walk true links here front) ∨
      IsGap fs fs' (fs.walk true links here front) := by
  induction links generalizing here front last with
  | zero =>
    refine h.walkThrough_front (fun _ _ _ hnever => ?_) hblocked
    cases hnever.1
  | succ links ih =>
    rw [walk, walk] at hblocked ⊢
    refine h.walkThrough_front (fun here front last hblocked => ?_) hblocked
    exact ih hblocked

/-- What is above a path to which the way is blocked. -/
theorem blocked_parent (h : fs.Lacking places fs') (hblocked : Blocked (fs.locateLink p) (fs'.locateLink p)) :
    Blocked (fs.locate p.parent) (fs'.locate p.parent) ∨ IsGap fs fs' (fs.locate p.parent) := by
  have hstart (fs : Files) : fs.start p.parent = fs.start p := rfl
  rcases List.eq_nil_or_concat p.names with hnil | ⟨front, last, hnames⟩
  · have hfirst := hblocked.1
    rw [locateLink, hnil, maxLinks, walk, walkThrough] at hfirst
    cases hfirst
  · rw [locateLink, locateLink, start_congr h.here, hnames, List.concat_eq_append] at hblocked
    have hparent : p.parent.names = front := by
      rw [Path.parent, hnames, List.concat_eq_append, List.dropLast_concat]
    rw [locate, locate, hstart, hstart, start_congr h.here, hparent]
    exact h.walk_front hblocked

/-- Where the way of a path is blocked, something stands at the path itself, or the way to that is blocked. -/
theorem blocked_own (h : fs.Lacking places fs') (hblocked : Blocked (fs.locate p) (fs'.locate p)) :
    (∃ own e, fs'.locateLink p = .ok own ∧ fs'.find? own = some e) ∨ Blocked (fs.locateLink p) (fs'.locateLink p) := by
  refine (h.locateLink_cases p).imp_left fun hsame => ?_
  cases hown : fs'.locateLink p with
  | error fault =>
    -- the ways fail alike, but for different reasons
    have hfirst := (locate_eq_error (hsame.symm.trans hown)).symm.trans hblocked.1
    have hsecond := (locate_eq_error hown).symm.trans hblocked.2
    cases hfirst
    cases hsecond
  | ok own =>
    cases hfound : fs'.find? own with
    | some e => exact ⟨own, e, rfl, hfound⟩
    | none =>
      -- without a link at its end the way would not be blocked
      have hleads := (locateLink_eq_ok_iff.mp hown).of_own fun target hlink => by
        rw [hfound] at hlink
        cases hlink
      rw [Blocked, locate_eq_ok_iff.mpr hleads] at hblocked
      cases hblocked.2

end Lacking

end Stopwatch.Files

/-
  Actions on files.

  Each of these actions either changes the files as the file system says, or is refused and
  changes nothing.  Making directories may be refused half way; an invariant that holds
  whenever a single directory is made holds then too.
-/
import Stopwatch.Proofs.Files.Tree
import Stopwatch.Proofs.Host.Action

namespace Stopwatch

namespace Action

variable {α β : Type} {host : Host} {I : Host → Prop} {F : Failure → Prop}

/-! ## Single changes -/

@[simp]
theorem ends_refusing {path : String} {result : Except SystemFault α}
    {Q : Except Failure α → Host → Prop} :
    Ends (refusing path result) host Q ↔
      match result with
      | .ok x => Q (.ok x) host
      | .error fault => Q (.error (.system (.refused fault path))) host := by
  cases result <;> rfl

theorem ends_changeFiles {path : String} {change : Files → Except SystemFault Files}
    {Q : Except Failure Unit → Host → Prop} :
    Ends (changeFiles path change) host Q ↔
      match change host.files with
      | .ok files => Q (.ok ()) { host with files }
      | .error fault => Q (.error (.system (.refused fault path))) host := by
  rw [changeFiles, ends_bind, ends_get]
  simp only
  rw [ends_bind, ends_refusing]
  cases change host.files <;> rfl

/-- A change that is refused fails with the path that it was asked for. -/
theorem Stays.changeFiles_refused (h : I host) {path : String}
    (hF : ∀ fault, F (.system (.refused fault path))) {change : Files → Except SystemFault Files}
    (hchange : ∀ files, change host.files = .ok files → I { host with files }) :
    Stays I F (changeFiles path change) host := by
  rw [Stays, ends_changeFiles]
  cases hresult : change host.files with
  | ok files => exact ⟨hchange files hresult, trivial⟩
  | error fault => exact ⟨h, hF fault⟩

theorem Stays.changeFiles (hF : ∀ e, F (.system e)) (h : I host) {path : String}
    {change : Files → Except SystemFault Files}
    (hchange : ∀ files, change host.files = .ok files → I { host with files }) :
    Stays I F (changeFiles path change) host :=
  .changeFiles_refused h (fun _ => hF _) hchange

theorem ends_readBytes {p : Path} {Q : Except Failure (List UInt8) → Host → Prop} :
    Ends (readBytes p) host Q ↔
      match host.files.read p with
      | .ok bytes => Q (.ok bytes) host
      | .error fault => Q (.error (.system (.refused fault p.text))) host := by
  rw [readBytes, ends_bind, ends_get]
  dsimp only
  rw [ends_refusing]
  cases host.files.read p <;> rfl

end Action

/-- The text of a file, which must be UTF-8. -/
def Files.textAt (fs : Files) (p : Path) : Except Failure String :=
  match fs.read p with
  | .error fault => .error (.system (.refused fault p.text))
  | .ok bytes =>
    match Text.Utf8.decode bytes with
    | .ok cs => .ok (String.ofList (Text.normalizeNewlines cs))
    | .error e => .error (.undecodable e)

namespace Action

variable {α β : Type} {host : Host} {I : Host → Prop} {F : Failure → Prop}

/-- Reading a text changes nothing. -/
theorem readText_eq (p : Path) (host : Host) : readText p host = (host.files.textAt p, host) := by
  suffices h : Ends (readText p) host fun r h => (r, h) = (host.files.textAt p, host) from h
  rw [readText, ends_bind, ends_readBytes, Files.textAt]
  cases host.files.read p with
  | error fault => rfl
  | ok bytes =>
    dsimp only
    cases Text.Utf8.decode bytes <;> rfl

theorem ends_readText {p : Path} {Q : Except Failure String → Host → Prop} :
    Ends (readText p) host Q ↔ Q (host.files.textAt p) host := by
  rw [Ends, readText_eq]

/-! ## Directories -/

theorem ends_makeDirectory {p : Path} {mayExist : Bool} {Q : Except Failure Unit → Host → Prop} :
    Ends (makeDirectory p mayExist) host Q ↔
      match host.files.makeDirectory p with
      | .ok files => Q (.ok ()) { host with files }
      | .error fault =>
        if mayExist && host.files.isDirectory p then Q (.ok ()) host
        else Q (.error (.system (.refused fault p.text))) host := by
  rw [Action.makeDirectory, ends_bind, ends_get]
  dsimp only
  cases host.files.makeDirectory p with
  | ok files => rfl
  | error fault =>
    dsimp only
    split <;> rfl

/-- Making a directory either changes the files as asked, or changes nothing. -/
theorem Stays.makeDirectory (hF : ∀ e, F (.system e)) (h : I host) {p : Path} {mayExist : Bool}
    (hmake : ∀ files, host.files.makeDirectory p = .ok files → I { host with files }) :
    Stays I F (makeDirectory p mayExist) host := by
  rw [Stays, ends_makeDirectory]
  cases hresult : host.files.makeDirectory p with
  | ok files => exact ⟨hmake files hresult, trivial⟩
  | error fault =>
    dsimp only
    split
    · exact ⟨h, trivial⟩
    · exact ⟨h, hF _⟩

/-- An invariant that a new directory under one of some paths does not break. -/
def GrowsAt (P : Path → Prop) (I : Host → Prop) : Prop :=
  ∀ (h : Host) (p : Path) (files : Files), P p → I h → h.files.makeDirectory p = .ok files →
    I { h with files }

/-- An invariant that a new directory does not break. -/
def Grows (I : Host → Prop) : Prop :=
  GrowsAt (fun _ => True) I

/-- The directories above are made before the directory itself, which is made last. -/
theorem ends_makeDirectories (hF : ∀ e, F (.system e)) {P : Path → Prop}
    (hP : ∀ p, P p → P p.parent) (hI : GrowsAt P I) (h : I host) {p : Path} (hp : P p.parent)
    (mayExist : Bool) :
    Ends (makeDirectories p mayExist) host fun r h =>
      (∃ e, r = .error e ∧ F e ∧ I h) ∨ ∃ h₁, I h₁ ∧ Ends (makeDirectory p mayExist) h₁ fun r' h' =>
        r' = r ∧ h' = h := by
  rw [Action.makeDirectories]
  generalize p.names.length = levels
  induction levels generalizing p mayExist host with
  | zero => exact Or.inr ⟨host, h, rfl, rfl⟩
  | succ levels ih =>
    rw [makeDirectories.go, ends_bind, ends_get]
    dsimp only
    split
    · rw [ends_bind]
      refine Ends.mono (ih h (hP _ hp) true) fun r h' hr => ?_
      -- above the directory everything has been made, or the attempt ends here
      have hstays : I h' ∧ Allows F r := by
        rcases hr with ⟨e, rfl, he, hi⟩ | ⟨h₁, hi, hlast⟩
        · exact ⟨hi, he⟩
        · have hmade : Stays I F (Action.makeDirectory p.parent true) h₁ :=
            Stays.makeDirectory hF hi fun files hmake => hI h₁ _ files hp hi hmake
          obtain ⟨rfl, rfl⟩ : _ ∧ _ := hlast
          exact hmade
      cases r with
      | ok _ => exact Or.inr ⟨h', hstays.1, rfl, rfl⟩
      | error e => exact Or.inl ⟨e, rfl, hstays.2, hstays.1⟩
    · exact Or.inr ⟨host, h, rfl, rfl⟩

theorem Stays.makeDirectories (hF : ∀ e, F (.system e)) (hI : Grows I) (h : I host) (p : Path)
    (mayExist : Bool) : Stays I F (makeDirectories p mayExist) host := by
  refine Ends.mono (ends_makeDirectories hF (fun _ _ => trivial) hI h trivial mayExist) fun r h' hr => ?_
  rcases hr with ⟨e, rfl, he, hi⟩ | ⟨h₁, hi, hlast⟩
  · exact ⟨hi, he⟩
  · have hmade : Stays I F (Action.makeDirectory p mayExist) h₁ :=
      Stays.makeDirectory hF hi fun files hmake => hI h₁ _ files trivial hi hmake
    obtain ⟨rfl, rfl⟩ : _ ∧ _ := hlast
    exact hmade

/-! ## Removing -/

theorem Stays.removeFile (hF : ∀ e, F (.system e)) (h : I host) {p : Path}
    (hremove : ∀ files, host.files.remove p = .ok files → I { host with files }) :
    Stays I F (removeFile p) host := by
  rw [Action.removeFile]
  refine .get_bind ?_
  cases hresult : host.files.remove p with
  | ok files => exact .modify (hremove files hresult)
  | error fault =>
    cases fault with
    | missing => exact .pure h ()
    | present => exact .fail h (hF _)
    | notDirectory => exact .fail h (hF _)
    | isDirectory => exact .fail h (hF _)
    | tooManyLinks => exact .fail h (hF _)

/-- Only a directory is removed with all below it. -/
theorem Stays.removeTree (hF : ∀ e, F (.system e)) (h : I host) {p : Path}
    (hremove : ∀ l, host.files.locateLink p = .ok l → host.files.find? l = some .directory →
      I { host with files := host.files.eraseTree l }) : Stays I F (removeTree p) host := by
  rw [Action.removeTree]
  refine .get_bind ?_
  refine Stays.bind_of_ends (Q := fun r h' => h' = host ∧ match r with
    | .ok l => host.files.locateLink p = .ok l
    | .error e => F e) ?_ ?_ ?_
  · rw [ends_refusing]
    cases hlocate : host.files.locateLink p with
    | ok l => exact ⟨rfl, rfl⟩
    | error fault => exact ⟨rfl, hF _⟩
  · rintro l h' ⟨rfl, hlocate⟩
    split
    · rename_i hfound
      exact .modify (hremove l hlocate hfound)
    · exact .fail h (hF _)
    · exact .fail h (hF _)
    · exact .fail h (hF _)
  · rintro e h' ⟨rfl, he⟩
    exact ⟨h, he⟩

end Action

end Stopwatch

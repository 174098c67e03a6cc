/-
  What actions leave alone.

  Most of what a run does only edits files, reads the clock, reports, and notes something beside the
  stages.  A frame is a relation between hosts that all this keeps to, and that composes: which names
  have been made, which stages have been marked, which children have been started.  An action that
  keeps to a frame need not be looked into again.

  The same actions also fail in the same way: none of them refuses the input of a run.
-/
import Stopwatch.Files.Copy
import Stopwatch.Proofs.Files.Edits
import Stopwatch.Proofs.Host.Children

namespace Stopwatch

/-- A failure that does not refuse the input. -/
def Failure.AcceptsInput (f : Failure) : Prop :=
  f.isProblem .input = false

/-- Files that children have written have been edited. -/
theorem Files.lasting_edits (fs : Files) : Files.Lasting fs.Edits :=
  ⟨fun h hmake => h.trans (edits_make hmake), fun h hwrite => h.trans (edits_write hwrite),
    fun p executable h => h.trans (edits_setExecutable _ p executable)⟩

namespace Action

variable {α β : Type} {a : Action α} {K : Host → Host → Prop}

/-! ## Frames -/

/-- A host that differs from another one only in its files, which have been edited, in its clock, its
reports and its metrics, and in what is noted beside the stages. -/
def Aside (host h : Host) : Prop :=
  ∃ files clock reports pipeline gathered, h = { host with files, clock, reports, pipeline, gathered } ∧
    host.files.Edits files ∧ pipeline.stages = host.pipeline.stages

theorem Aside.files {host : Host} {files : Files} (h : host.files.Edits files) : Aside host { host with files } :=
  ⟨files, _, _, _, _, rfl, h, rfl⟩

theorem Aside.trans {h₁ h₂ h₃ : Host} (h : Aside h₁ h₂) (h' : Aside h₂ h₃) : Aside h₁ h₃ := by
  obtain ⟨files, _, _, _, _, rfl, hfiles, hstages⟩ := h
  obtain ⟨files', _, _, _, _, rfl, hfiles', hstages'⟩ := h'
  exact ⟨files', _, _, _, _, rfl, hfiles.trans hfiles', hstages'.trans hstages⟩

/-- A relation between hosts that composes and that does not depend on what is changed aside. -/
class IsFrame (K : Host → Host → Prop) : Prop where
  aside {host h : Host} : Aside host h → K host h
  trans {h₁ h₂ h₃ : Host} : K h₁ h₂ → K h₂ h₃ → K h₁ h₃

instance : IsFrame Aside := ⟨id, Aside.trans⟩

theorem IsFrame.refl [IsFrame K] (host : Host) : K host host :=
  aside (Aside.files .refl)

/-- An action that keeps to a frame, and whose failures do not refuse the input. -/
def Works (K : Host → Host → Prop) (a : Action α) : Prop :=
  ∀ host, Stays (K host) Failure.AcceptsInput a host

section Works

variable [IsFrame K]

/-! ## How actions are put together -/

theorem Works.pure (x : α) : Works K (pure x) := fun host => .pure (IsFrame.refl host) x

theorem Works.fail {f : Failure} (hf : f.AcceptsInput) : Works K (fail f : Action α) :=
  fun host => .fail (IsFrame.refl host) hf

theorem works_get : Works K (get : Action Host) := fun host => ⟨IsFrame.refl host, trivial⟩

theorem works_observe (look : Host → α) : Works K (observe look) := fun host => ⟨IsFrame.refl host, trivial⟩

omit [IsFrame K] in
theorem works_modify {change : Host → Host} (h : ∀ host, K host (change host)) :
    Works K (modify change : Action Unit) := fun host => .modify (h host)

/-- What is done later on is done in the same frame. -/
theorem Works.stays {host h : Host} (ha : Works K a) (hkept : K host h) : Stays (K host) Failure.AcceptsInput a h :=
  (ha h).mono (fun _ => IsFrame.trans hkept) fun _ => id

theorem Works.bind {f : α → Action β} (ha : Works K a) (hf : ∀ x, Works K (f x)) : Works K (a >>= f) :=
  fun host => (ha host).bind fun x _ hkept => (hf x).stays hkept

omit [IsFrame K] in
theorem Works.attempt (ha : Works K a) : Works K (attempt a) := fun host => (ha host).attempt

/-- After an attempt, both endings have to be looked at. -/
theorem Works.attempt_bind {f : Except Failure α → Action β} (ha : Works K a) (hok : ∀ x, Works K (f (.ok x)))
    (herror : ∀ e, e.AcceptsInput → Works K (f (.error e))) : Works K (Action.attempt a >>= f) := fun host =>
  Stays.attempt_bind (ha host) (fun x _ hkept => (hok x).stays hkept) fun e _ hkept he => (herror e he).stays hkept

theorem Works.ensuring {last : Action Unit} (ha : Works K a) (hlast : Works K last) : Works K (ensuring a last) :=
  fun host => (ha host).ensuring fun _ hkept => hlast.stays hkept

theorem Works.handling {test : Failure → Bool} {handle : Failure → Action α} (ha : Works K a)
    (hhandle : ∀ f, f.AcceptsInput → Works K (handle f)) : Works K (handling a test handle) := fun host =>
  (ha host).handling (fun e _ hkept he _ => (hhandle e he).stays hkept) fun _ he _ => he

omit [IsFrame K] in
theorem Works.discard (ha : Works K a) : Works K (discard a) := fun host => (ha host).discard

theorem works_readClock : Works K readClock := fun _ => ⟨IsFrame.aside ⟨_, _, _, _, _, rfl, .refl, rfl⟩, trivial⟩

theorem works_refusing (path : String) (result : Except SystemFault α) : Works K (refusing path result) := by
  cases result with
  | ok x => exact .pure x
  | error fault => exact .fail rfl

theorem works_report (r : Report) : Works K (report r) := by
  refine works_modify fun host => IsFrame.aside ?_
  split
  · exact ⟨_, _, _, _, _, rfl, .refl, rfl⟩
  · exact ⟨_, _, _, _, _, rfl, .refl, rfl⟩

/-- What else is known of the pipeline may change. -/
theorem works_advance {change : Pipeline → Pipeline} (h : ∀ p, (change p).stages = p.stages) :
    Works K (advance change) :=
  works_modify fun host => IsFrame.aside ⟨_, _, _, _, _, rfl, .refl, h host.pipeline⟩

theorem works_forM {ι : Type} {f : ι → Action Unit} (items : List ι) (hf : ∀ i, Works K (f i)) :
    Works K (items.forM f) := by
  induction items with
  | nil => exact .pure ()
  | cons item rest ih => exact (hf item).bind fun _ => ih

/-- An action that keeps to a frame, and has results of which `R` holds. -/
def Returns (K : Host → Host → Prop) (R : α → Prop) (a : Action α) : Prop :=
  ∀ host, Yields (K host) Failure.AcceptsInput R a host

variable {R : α → Prop}

omit [IsFrame K] in
theorem Works.returns (ha : Works K a) : Returns K (fun _ => True) a := fun host => (ha host).yields

omit [IsFrame K] in
theorem Returns.works (ha : Returns K R a) : Works K a := fun host => (ha host).stays

theorem Returns.pure {x : α} (hx : R x) : Returns K R (pure x) := fun host => .pure (IsFrame.refl host) hx

theorem Returns.bind {f : α → Action β} {R' : β → Prop} (ha : Returns K R a) (hf : ∀ x, R x → Returns K R' (f x)) :
    Returns K R' (a >>= f) := fun host => by
  refine (ha host).bind fun x h hkept hx => Ends.mono (hf x hx h) fun r h' hr => ?_
  exact ⟨IsFrame.trans hkept hr.1, hr.2⟩

omit [IsFrame K] in
theorem Returns.mono {R' : α → Prop} (ha : Returns K R a) (h : ∀ x, R x → R' x) : Returns K R' a := fun host => by
  refine Ends.mono (ha host) fun r h' hr => ⟨hr.1, ?_⟩
  cases r with
  | ok x => exact h x hr.2
  | error e => exact hr.2

theorem Returns.fail {f : Failure} (hf : f.AcceptsInput) : Returns K R (Action.fail f : Action α) :=
  fun host => .fail (IsFrame.refl host) hf

theorem Returns.attempt_bind {f : Except Failure α → Action β} {R' : β → Prop} (ha : Returns K R a)
    (hok : ∀ x, R x → Returns K R' (f (.ok x))) (herror : ∀ e, e.AcceptsInput → Returns K R' (f (.error e))) :
    Returns K R' (Action.attempt a >>= f) := fun host => by
  rw [Yields, ends_bind, ends_attempt]
  refine Ends.mono (ha host) fun r h hr => ?_
  cases r with
  | ok x => exact Ends.mono (hok x hr.2 h) fun r' h' hr' => ⟨IsFrame.trans hr.1 hr'.1, hr'.2⟩
  | error e => exact Ends.mono (herror e hr.2 h) fun r' h' hr' => ⟨IsFrame.trans hr.1 hr'.1, hr'.2⟩

/-! ## Files -/

theorem IsFrame.files {host h : Host} (hkept : K host h) {files : Files} (hfiles : h.files.Edits files) :
    K host { h with files } :=
  IsFrame.trans hkept (IsFrame.aside (.files hfiles))

theorem IsFrame.grows (host : Host) : Grows (K host) :=
  fun _ _ _ _ hkept hmake => IsFrame.files hkept (Files.edits_make hmake)

theorem works_changeFiles (path : String) {change : Files → Except SystemFault Files}
    (h : ∀ {fs fs'}, change fs = .ok fs' → fs.Edits fs') : Works K (changeFiles path change) := fun host =>
  Stays.changeFiles (fun _ => rfl) (IsFrame.refl host) fun _ hchange => IsFrame.files (IsFrame.refl host) (h hchange)

theorem works_writeText (p : Path) (text : String) : Works K (writeText p text) :=
  works_changeFiles _ Files.edits_write

theorem works_appendText (p : Path) (text : String) : Works K (appendText p text) :=
  works_changeFiles _ Files.edits_write

theorem works_readBytes (p : Path) : Works K (readBytes p) :=
  works_get.bind fun _ => works_refusing _ _

theorem works_readText (p : Path) : Works K (readText p) := by
  refine (works_readBytes p).bind fun bytes => ?_
  cases Text.Utf8.decode bytes with
  | ok cs => exact .pure _
  | error e => exact .fail rfl

theorem works_makeDirectories (p : Path) (mayExist : Bool) : Works K (makeDirectories p mayExist) := fun host =>
  Stays.makeDirectories (fun _ => rfl) (IsFrame.grows host) (IsFrame.refl host) p mayExist

theorem works_removeFile (p : Path) : Works K (removeFile p) := fun host =>
  Stays.removeFile (fun _ => rfl) (IsFrame.refl host) fun _ hremove =>
    IsFrame.files (IsFrame.refl host) (Files.edits_remove hremove)

theorem works_removeTree (p : Path) : Works K (removeTree p) := fun host =>
  Stays.removeTree (fun _ => rfl) (IsFrame.refl host) fun l _ _ =>
    IsFrame.files (IsFrame.refl host) (Files.Edits.refl.eraseTree l)

theorem works_putFile (p : Path) (bytes : List UInt8) (executable : Bool) : Works K (putFile p bytes executable) :=
  (works_changeFiles _ Files.edits_write).bind fun _ =>
    works_modify fun _ => IsFrame.aside (.files (Files.edits_setExecutable _ _ _))

theorem works_copyEntry (source : String) (entry : Entry) (destination : Path) :
    Works K (copyEntry source entry destination) := by
  cases entry with
  | file bytes executable => exact works_putFile _ _ _
  | directory => exact works_changeFiles _ Files.edits_make
  | link target =>
    intro host
    refine .get_bind ?_
    cases hmake : host.files.makeLink destination target with
    | ok files => exact .modify (IsFrame.aside (.files (Files.edits_make hmake)))
    | error fault => exact .fail (IsFrame.refl host) rfl
  | pipe => exact .fail rfl

theorem works_copyEntries (source destination : Path) (entries : List (List String × Entry)) :
    Works K (copyEntries source destination entries) := by
  induction entries with
  | nil => exact .pure []
  | cons first rest ih =>
    exact (works_copyEntry _ _ _).attempt_bind (fun _ => ih) fun _ _ => ih.bind fun _ => .pure _

theorem works_copy (source destination : Path) : Works K (copy source destination) := by
  have hpipe (files : Files) (p : Path) : Works K (refusePipe files p) := by
    unfold refusePipe
    split
    · exact .fail rfl
    · exact .pure ()
  refine works_get.bind fun host => ?_
  split
  · refine works_get.bind fun host => (works_refusing _ _).bind fun l => ?_
    refine (works_makeDirectories _ _).bind fun _ => (works_copyEntries _ _ _).bind fun parts => ?_
    split
    · exact .pure ()
    · exact .fail rfl
  · refine (works_makeDirectories _ _).bind fun _ => works_get.bind fun host => ?_
    exact (hpipe _ _).bind fun _ => (hpipe _ _).bind fun _ => (works_readBytes _).bind fun _ => works_putFile _ _ _

end Works

/-! ## Events -/

/-- A frame to which it does not matter what has been logged. -/
class IsLogFrame (K : Host → Host → Prop) : Prop extends IsFrame K where
  logged (host : Host) (logged : List Event) : K host { host with logged }

/-! ## Stages -/

/-- A frame to which it does not matter how far a pipeline has come. -/
class IsStageFrame (K : Host → Host → Prop) : Prop extends IsFrame K where
  pipeline (host : Host) (pipeline : Pipeline) : K host { host with pipeline }

section Stages

variable [IsStageFrame K]

theorem works_mark (name : String) (status : StageStatus) : Works K (mark name status) :=
  works_modify fun host => IsStageFrame.pipeline host _

theorem works_plan (names : List String) : Works K (plan names) :=
  works_modify fun host => IsStageFrame.pipeline host _

theorem Returns.stage {R : α → Prop} (name : String) (ha : Returns K R a) : Returns K R (stage name a) :=
  (works_mark _ _).returns.bind fun _ _ => ha.attempt_bind
    (fun _ hx => (works_mark _ _).returns.bind fun _ _ => .pure hx)
    fun _ he => (works_mark _ _).returns.bind fun _ _ => .fail he

theorem Works.stage (name : String) (ha : Works K a) : Works K (stage name a) :=
  (ha.returns.stage name).works

end Stages

/-! ## Children -/

/-- A frame to which it does not matter what becomes of children. -/
class IsChildFrame (K : Host → Host → Prop) : Prop extends IsFrame K where
  settled {host : Host} {front : List Spawned} {last : Spawned} (fate : Fate) :
    host.spawned = front ++ [last] → K host { host with spawned := front ++ [{ last with fate }] }

/-- A child may be started with a command. -/
def Admits (K : Host → Host → Prop) (command : Command) : Prop :=
  ∀ host h s, Started host.files.Edits host command s h → K host h

theorem works_start {command : Command} (h : Admits K command) : Works K (start command) := by
  intro host
  refine Ends.mono (ends_start (Files.lasting_edits host.files) command .refl) ?_
  rintro r h' ⟨s, hs, hr⟩
  refine ⟨h host h' s hs, ?_⟩
  cases r with
  | ok child => trivial
  | error f =>
    obtain ⟨e, rfl⟩ := hr.1.exists_eq
    rfl

theorem acceptsInput_of_printed {child : Child} {f : Failure} (h : child.printed = .error f) : f.AcceptsInput := by
  rw [Child.printed] at h
  split at h
  · cases h
    rfl
  · rename_i chunks _
    cases hall : allBytes chunks with
    | ok bytes =>
      rw [hall] at h
      cases h
    | error e =>
      rw [hall] at h
      cases h
      obtain ⟨e, rfl⟩ := (allBytes_eq_error hall).exists_eq
      rfl

variable [IsChildFrame K]

theorem works_settle (fate : Fate) : Works K (settle fate) := by
  intro host
  cases hlast : host.spawned.getLast? with
  | none =>
    refine .modify ?_
    rw [hlast]
    exact IsFrame.refl host
  | some last =>
    obtain ⟨front, hfront⟩ := List.getLast?_eq_some_iff.mp hlast
    exact (ends_noteLast hfront).mpr ⟨IsChildFrame.settled fate hfront, trivial⟩

theorem works_communicate {command : Command} (h : Admits K command) : Works K (communicate command) := by
  refine (works_start h).bind fun child => ?_
  split
  · rename_i f hf
    exact .fail (acceptsInput_of_printed hf)
  · exact (works_settle _).bind fun _ => .pure _

/-! ## Runs -/

/-- A frame to which it does not matter how many names have been made either. -/
class IsRunFrame (K : Host → Host → Prop) : Prop extends IsChildFrame K, IsStageFrame K where
  named (host : Host) (named : Nat) : K host { host with named }

/-- Nothing matters at all. -/
instance : IsRunFrame fun _ _ => True where
  aside := fun _ => trivial
  trans := fun _ _ => trivial
  settled := fun _ _ => trivial
  pipeline := fun _ _ => trivial
  named := fun _ _ => trivial

instance : IsLogFrame fun _ _ => True where
  logged := fun _ _ => trivial

omit [IsChildFrame K] in
theorem works_freshNumber [IsRunFrame K] : Works K freshNumber :=
  fun host => ⟨IsRunFrame.named host (host.named + 1), trivial⟩

omit [IsChildFrame K] in
theorem works_freshName [IsRunFrame K] : Works K freshName :=
  works_freshNumber.bind fun n => .pure (nameOf n)

end Action

end Stopwatch

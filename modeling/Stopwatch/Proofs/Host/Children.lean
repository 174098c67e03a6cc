/-
  Children of a run.

  Starting a child takes the next one of those that are to come, notes what it was started
  with, and lets it write.  Nothing else about the host changes, and whatever holds of files
  as long as entries are only put among them still holds when it has written.
-/
import Stopwatch.Process.FileRun
import Stopwatch.Proofs.Host.Files

namespace Stopwatch

/-- A property of files that lasts while entries are put among them. -/
structure Files.Lasting (K : Files → Prop) : Prop where
  make : ∀ {fs fs' : Files} {p : Path} {e : Entry}, K fs → fs.make p e = .ok fs' → K fs'
  write : ∀ {fs fs' : Files} {p : Path} {change : List UInt8 → List UInt8},
    K fs → fs.write p change = .ok fs' → K fs'
  setExecutable : ∀ {fs : Files} (p : Path) (executable : Bool), K fs → K (fs.setExecutable p executable)

theorem Files.lasting_true : Files.Lasting fun _ => True :=
  ⟨fun _ _ => trivial, fun _ _ => trivial, fun _ _ _ => trivial⟩

/-- Whatever lasts while an entry is put into a tree lasts while children write. -/
theorem Files.lasting_of_put {K : Files → Prop} (htree : ∀ fs, K fs → fs.IsTree)
    (hput : ∀ {fs : Files} {l : Location} {e : Entry}, K fs → fs.Put l e → K (fs.insert l e)) : Files.Lasting K := by
  constructor
  · intro fs fs' p e h hmake
    obtain ⟨l, -, hl, rfl⟩ := (htree fs h).put_of_make hmake
    exact hput h hl
  · intro fs fs' p change h hwrite
    rcases Files.write_inv hwrite with rfl | ⟨l, bytes, executable, hlocate, hplace, rfl⟩
    · exact h
    · exact hput h ((htree fs h).put_file hlocate hplace bytes executable)
  · intro fs p executable h
    rcases Files.setExecutable_inv fs p executable with heq | ⟨l, bytes, hlocate, hplace, heq⟩
    · rw [heq]
      exact h
    · rw [heq]
      exact hput h ((htree fs h).put_file hlocate hplace bytes executable)

/-- A tree stays a tree and keeps its directories and links. -/
theorem Files.lasting_extends (fs₀ : Files) :
    Files.Lasting fun fs => fs.IsTree ∧ fs.workingDirectory = fs₀.workingDirectory ∧ fs₀.Extends fs :=
  lasting_of_put (fun _ h => h.1) fun h hl => ⟨h.1.insert hl, h.2.1, h.2.2.trans hl.extends⟩

/-- A tree stays a tree, and nothing in it disappears. -/
theorem Files.lasting_persists (fs₀ : Files) :
    Files.Lasting fun fs => fs.IsTree ∧ fs.workingDirectory = fs₀.workingDirectory ∧ fs₀.Persists fs :=
  lasting_of_put (fun _ h => h.1) fun h hl => ⟨h.1.insert hl, h.2.1, h.2.2.trans hl.persists⟩

/-- A child that could not be started, or could not be listened to until it ended. -/
def Spawned.IsLost (s : Spawned) : Prop :=
  s.fate = .refused ∨ s.fate = .running

namespace Action

variable {host : Host} {K K' : Files → Prop}

/-- A host that differs in its files only, of which `K` holds. -/
def OnlyFiles (K : Files → Prop) (host h : Host) : Prop :=
  ∃ files, h = { host with files } ∧ K files

theorem OnlyFiles.change {h : Host} (h' : OnlyFiles K host h) {files : Files} (hfiles : K' files) :
    OnlyFiles K' host { h with files } := by
  obtain ⟨_, rfl, -⟩ := h'
  exact ⟨files, rfl, hfiles⟩

theorem OnlyFiles.trans {h h' : Host} (hfirst : OnlyFiles K host h) (hnext : OnlyFiles K' h h') : OnlyFiles K' host h' := by
  obtain ⟨files, rfl, hfiles⟩ := hnext
  exact hfirst.change hfiles

theorem OnlyFiles.mono {h : Host} (h' : OnlyFiles K host h) (hK : ∀ files, K files → K' files) : OnlyFiles K' host h := by
  obtain ⟨files, rfl, hfiles⟩ := h'
  exact ⟨files, rfl, hK files hfiles⟩

theorem OnlyFiles.files {h : Host} (h' : OnlyFiles K host h) : K h.files := by
  obtain ⟨_, rfl, hfiles⟩ := h'
  exact hfiles

/-- The failures that come from the system. -/
def IsSystem (f : Failure) : Prop :=
  f.isSystem = true

theorem isSystem_system (e : SystemError) : IsSystem (.system e) := rfl

theorem IsSystem.exists_eq {f : Failure} (h : IsSystem f) : ∃ e, f = .system e := by
  cases f with
  | system e => exact ⟨e, rfl⟩
  | problem _ | undecodable _ | malformedSource | malformedString _ | value _ | invalid _ => cases h

/-- A note is about the last child. -/
theorem ends_noteLast {note : Spawned → Spawned} {front : List Spawned} {last : Spawned}
    (hlast : host.spawned = front ++ [last]) {Q : Except Failure Unit → Host → Prop} :
    Ends (noteLast note) host Q ↔ Q (.ok ()) { host with spawned := front ++ [note last] } := by
  rw [noteLast, ends_modify, hlast, List.getLast?_concat, List.dropLast_concat]

/-- The host when the next child has been taken and noted. -/
def enlist (host : Host) (command : Command) : Host :=
  { host with
    upcoming := host.upcoming.tail
    spawned := host.spawned ++ [⟨host.upcoming.headD Child.idle, command, .running, host.files, host.files⟩] }

/-- A child that writes nothing. -/
def WritesNothing (child : Child) : Prop :=
  child.files = [] ∧ child.archive = false

theorem writesNothing_idle : WritesNothing Child.idle := ⟨rfl, rfl⟩

/-- The next child has been started, and has written; `K` holds of the files that it left. -/
structure Started (K : Files → Prop) (host : Host) (command : Command) (s : Spawned) (h : Host) : Prop where
  host_eq : h = { host with
    files := s.left
    upcoming := host.upcoming.tail
    spawned := host.spawned ++ [s] }
  child_eq : s.child = host.upcoming.headD Child.idle
  command_eq : s.command = command
  found_eq : s.found = host.files
  left : K s.left
  same : WritesNothing s.child → s.left = s.found

section Lasting

variable (hK : Files.Lasting K)

include hK

theorem OnlyFiles.grows : Grows (OnlyFiles K host) := by
  intro h p files _ hi hmake
  exact hi.change (hK.make hi.files hmake)

theorem stays_putContent (p : Path) (content : Content) {h : Host} (hi : OnlyFiles K host h) :
    Stays (OnlyFiles K host) IsSystem (putContent p content) h := by
  have hgrows : Grows (OnlyFiles K host) := OnlyFiles.grows hK
  unfold putContent
  refine (Stays.makeDirectories isSystem_system hgrows hi p.parent true).bind fun _ h hi => ?_
  cases content with
  | file bytes executable =>
    refine (Stays.changeFiles isSystem_system hi fun files hwrite =>
      hi.change (hK.write hi.files hwrite)).bind fun _ h hi => ?_
    split
    · exact .modify (hi.change (hK.setExecutable p true hi.files))
    · exact .pure hi ()
  | directory => exact Stays.makeDirectories isSystem_system hgrows hi p true
  | link target =>
    exact Stays.changeFiles isSystem_system hi fun files hmake => hi.change (hK.make hi.files hmake)
  | pipe =>
    exact Stays.changeFiles isSystem_system hi fun files hmake => hi.change (hK.make hi.files hmake)

theorem stays_putContents (contents : List (String × Content)) {h : Host} (hi : OnlyFiles K host h) :
    Stays (OnlyFiles K host) IsSystem (putContents contents) h := by
  induction contents generalizing h with
  | nil => exact .pure hi ()
  | cons first rest ih => exact (stays_putContent hK _ _ hi).bind fun _ h hi => ih hi

theorem stays_perform (child : Child) (arguments : List Argument) {h : Host} (hi : OnlyFiles K host h) :
    Stays (OnlyFiles K host) IsSystem (perform child arguments) h := by
  rw [perform]
  refine (stays_putContents hK child.files hi).bind fun _ h hi => ?_
  split
  · split
    · exact stays_putContent hK _ _ hi
    · exact .pure hi ()
  · exact .pure hi ()

omit hK in
/-- A child that writes nothing leaves the files as it found them. -/
theorem ends_perform_same {child : Child} (arguments : List Argument) :
    Ends (perform child arguments) host fun _ h => WritesNothing child → h.files = host.files := by
  by_cases hnothing : WritesNothing child
  · rw [perform, hnothing.1, hnothing.2]
    exact fun _ => rfl
  · exact fun h => absurd h hnothing

/-- Starting a child: the next child is taken and noted, and writes. -/
theorem ends_start (command : Command) (h : K host.files) :
    Ends (start command) host fun r h => ∃ s, Started K host command s h ∧
      match r with
      | .ok child => child = s.child ∧ s.fate = .running
      | .error f => IsSystem f ∧ s.IsLost := by
  unfold start
  rw [ends_bind, ends_get]
  dsimp only
  rw [ends_bind, ends_modify]
  dsimp only
  split
  · rename_i text hrefusal
    rw [ends_bind, settle, ends_noteLast rfl]
    exact ⟨⟨_, command, .refused, host.files, host.files⟩, ⟨rfl, rfl, rfl, rfl, h, fun _ => rfl⟩, rfl,
      Or.inl rfl⟩
  · rename_i hrefusal
    have hperform : Stays (OnlyFiles K (enlist host command)) IsSystem
        (perform (host.upcoming.headD Child.idle) command.arguments) (enlist host command) :=
      stays_perform hK _ _ ⟨host.files, rfl, h⟩
    rw [ends_bind, ensuring, ends_bind, ends_attempt]
    refine Ends.mono (Ends.and hperform (ends_perform_same command.arguments)) ?_
    rintro r h' ⟨⟨⟨files, rfl, hfiles⟩, hr⟩, hsame⟩
    dsimp only
    rw [ends_bind, ends_bind, ends_observe]
    dsimp only
    rw [ends_noteLast rfl]
    have hstarted (h' : Host) (hh' : h' = { host with
        files
        upcoming := host.upcoming.tail
        spawned := host.spawned ++ [⟨host.upcoming.headD Child.idle, command, .running, host.files, files⟩] }) :
        Started K host command ⟨host.upcoming.headD Child.idle, command, .running, host.files, files⟩ h' :=
      ⟨hh', rfl, rfl, rfl, hfiles, hsame⟩
    cases r with
    | ok _ => exact ⟨_, hstarted _ rfl, rfl, rfl⟩
    | error f => exact ⟨_, hstarted _ rfl, hr, Or.inr rfl⟩

end Lasting

/-! ## Children that are waited for -/

theorem allBytes_eq_error {chunks : List Chunk} {f : Failure} (h : allBytes chunks = .error f) :
    IsSystem f := by
  induction chunks with
  | nil => cases h
  | cons chunk rest ih =>
    cases chunk with
    | bytes data =>
      rw [allBytes] at h
      cases hrest : allBytes rest with
      | ok bytes =>
        rw [hrest] at h
        cases h
      | error e =>
        rw [hrest] at h
        exact ih (hrest.trans h)
    | failure text =>
      cases h
      rfl

/-- The output of a child that has one fails to be read only because of the system. -/
theorem printed_eq_error {child : Child} {f : Failure} (h : child.printed = .error f)
    (houtput : child.output ≠ none) : IsSystem f := by
  obtain ⟨chunks, hchunks⟩ := Option.ne_none_iff_exists'.mp houtput
  rw [Child.printed, hchunks] at h
  cases hall : allBytes chunks with
  | ok bytes =>
    simp only [hall] at h
    cases h
  | error e =>
    simp only [hall] at h
    cases h
    exact allBytes_eq_error hall

/-- What has come of waiting for a child. -/
inductive Answered (s : Spawned) : Except Failure (Int × String) → Prop
  /-- It has ended, and all that it printed has been read. -/
  | heard {text : String} (hfate : s.fate = .exited s.child.status) (hprinted : s.child.printed = .ok text) :
      Answered s (.ok (s.child.status, text))
  /-- It has not been listened to until its end: the system has refused something, or it has no output
  that could be read. -/
  | lost {f : Failure} (hlost : s.IsLost) (hf : IsSystem f ∨ s.child.printed = .error f) : Answered s (.error f)

/-- Waiting for a child: it is started, its output is read, and its end is noted. -/
theorem ends_communicate_answered (hK : Files.Lasting K) (command : Command) (h : K host.files) :
    Ends (communicate command) host fun r h => ∃ s, Started K host command s h ∧ Answered s r := by
  rw [communicate, ends_bind]
  refine Ends.mono (ends_start hK command h) ?_
  rintro r h' ⟨s, hs, hr⟩
  cases r with
  | error f => exact ⟨s, hs, .lost hr.2 (Or.inl hr.1)⟩
  | ok child =>
    obtain ⟨rfl, hrunning⟩ := hr
    dsimp only
    cases hprinted : s.child.printed with
    | error f => exact ⟨s, hs, .lost (Or.inr hrunning) (Or.inr hprinted)⟩
    | ok text =>
      dsimp only
      have hspawned : h'.spawned = host.spawned ++ [s] := by rw [hs.host_eq]
      rw [ends_bind, settle, ends_noteLast hspawned]
      refine ⟨{ s with fate := .exited s.child.status }, ⟨?_, hs.child_eq, hs.command_eq, hs.found_eq,
        hs.left, hs.same⟩, .heard rfl hprinted⟩
      rw [hs.host_eq]
      rfl

/-- Waiting for a child, where it does not matter what is noted about its end. -/
theorem ends_communicate (hK : Files.Lasting K) (command : Command) (h : K host.files) :
    Ends (communicate command) host fun r h => ∃ s, Started K host command s h ∧
      match r with
      | .ok (status, text) => status = s.child.status ∧ s.child.printed = .ok text
      | .error f => IsSystem f ∨ s.child.printed = .error f := by
  refine Ends.mono (ends_communicate_answered hK command h) ?_
  rintro r h' ⟨s, hs, hanswered⟩
  refine ⟨s, hs, ?_⟩
  cases hanswered with
  | heard _ hprinted => exact ⟨rfl, hprinted⟩
  | lost _ hf => exact hf

/-- One more child has been started, and has written; `K` holds of the files that it left. -/
structure Adds (K : Files → Prop) (host : Host) (d : Deed) (h : Host) : Prop where
  view_eq : view h = (d.left, host.now, host.upcoming.tail, deeds host ++ [d])
  child_eq : d.child = host.upcoming.headD Child.idle
  found_eq : d.found = host.files
  left : K d.left
  same : WritesNothing d.child → d.left = d.found

theorem Started.adds {command : Command} {s : Spawned} {h : Host} (hs : Started K host command s h) :
    Adds K host ⟨s.child, s.found, s.left⟩ h := by
  refine ⟨?_, hs.child_eq, hs.found_eq, hs.left, hs.same⟩
  rw [hs.host_eq]
  simp [view, deeds]

/-- What a child has printed, with a bad exit status told at the end. -/
def Deed.output (d : Deed) : Except Failure String :=
  d.child.printed.map (withStatus d.child.status)

theorem Adds.of_view {d : Deed} {h h' : Host} (hview : view h' = view h) (hd : Adds K host d h) :
    Adds K host d h' :=
  ⟨hview.trans hd.view_eq, hd.child_eq, hd.found_eq, hd.left, hd.same⟩

theorem Adds.from_view {d : Deed} {h host' : Host} (hview : view host' = view host)
    (hd : Adds K host' d h) : Adds K host d h := by
  simp only [view, Prod.mk.injEq] at hview
  obtain ⟨hfiles, hnow, hupcoming, hdeeds⟩ := hview
  exact ⟨by rw [hd.view_eq, hnow, hupcoming, hdeeds], by rw [hd.child_eq, hupcoming],
    by rw [hd.found_eq, hfiles], hd.left, hd.same⟩

end Action

end Stopwatch

/-
  What a run leaves behind.

  For its own use a run makes a working directory, or a binary for each copy that it runs.  However
  it ends, none of these is left: what stands under their paths afterwards has been put there by a
  child that was started on something else.
-/
import Stopwatch.Proofs.Run.Gathered
import Stopwatch.Proofs.Run.Nameless
import Stopwatch.Proofs.Run.Settled

namespace Stopwatch

open Action Files

/-! ## What children bring about -/

/-- A child has brought something about: it left so what it had not found so. -/
def Spawned.Brings (s : Spawned) (X : Files → Prop) : Prop :=
  X s.left ∧ ¬X s.found

/-- A child has been started on a path: that is its last argument. -/
def Spawned.IsOn (s : Spawned) (p : Path) : Prop :=
  s.command.arguments.getLast? = some (.text p.text)

/-- A file cannot stand where the entry of its path has been removed, or could not be removed. -/
theorem Files.not_hasFile_without (fs : Files) (p : Path) : ¬(fs.without p).HasFile p := by
  rw [Files.without]
  cases hremove : fs.remove p with
  | ok fs' =>
    obtain ⟨own, -, hown, -, -, rfl⟩ := remove_inv hremove
    exact not_hasFile_erase hown
  | error fault =>
    rintro ⟨l, e, hlocate, hfound, he⟩
    change fs.locateLink p = .ok l at hlocate
    change fs.find? l = some e at hfound
    rw [remove, hlocate] at hremove
    simp only [bind, Except.bind, hfound] at hremove
    cases e with
    | directory => exact he rfl
    | file _ _ | link _ | pipe => cases hremove

theorem Files.loses_without (fs : Files) (p : Path) : fs.Loses (fs.without p) := by
  rw [Files.without]
  cases hremove : fs.remove p with
  | error fault => exact Or.inl rfl
  | ok fs' =>
    obtain ⟨own, e, -, hfound, he, rfl⟩ := remove_inv hremove
    exact Or.inr ⟨own, by rw [hfound]; exact fun heq => he (Option.some.inj heq), rfl⟩

namespace FileRun

variable {config : Config} {source binary : Path} {existing : Option String} {fs files : Files}
  {children : List Spawned} {ran : Except Failure FileRun}

theorem loses_leave (ran : Except Failure FileRun) (fs : Files) : fs.Loses (leave ran fs) := by
  cases ran with
  | error f => exact Or.inl rfl
  | ok outcome =>
    rcases outcome.recover_files fs with hsame | ⟨path, output, metrics, -, htaken⟩
    · exact Or.inl hsame
    · obtain ⟨own, -, -, -, -, -, -, hother, heq⟩ := takeMetrics_files htaken
      exact Or.inr ⟨own, hother, heq⟩

/-- All children of a run of a file are started on its binary. -/
theorem Runs.isOn (h : Runs config source binary existing fs children ran files) {s : Spawned} (hs : s ∈ children) :
    s.IsOn binary := by
  have hcompiled {c : Spawned} {result : Except Failure (Int × String)} (hc : Asked (compiling config source binary) fs c result) :
      c.IsOn binary := by
    rw [Spawned.IsOn, hc.command_eq]
    rfl
  have hran {e : Spawned} {found : Files} {result : Except Failure (Int × String)}
      (he : Asked (running config source binary existing) found e result) : e.IsOn binary := by
    rw [Spawned.IsOn, he.command_eq]
    rfl
  cases h with
  | uncompiled hcompile => exact List.mem_singleton.mp hs ▸ hcompiled hcompile
  | rejected hcompile => exact List.mem_singleton.mp hs ▸ hcompiled hcompile
  | unfinished hcompile hrun =>
    rcases List.mem_pair.mp hs with rfl | rfl
    · exact hcompiled hcompile
    · exact hran hrun
  | finished hcompile hrun =>
    rcases List.mem_pair.mp hs with rfl | rfl
    · exact hcompiled hcompile
    · exact hran hrun

/-- What has come about while a file was run has been brought about by one of its children. -/
theorem Runs.brings {X : Files → Prop} (h : Runs config source binary existing fs children ran files) (hX : X files) :
    X fs ∨ ∃ s ∈ children, s.Brings X := by
  have hsplit (s : Spawned) (hleft : X s.left) : X s.found ∨ s.Brings X := by
    by_cases hfound : X s.found
    · exact Or.inl hfound
    · exact Or.inr ⟨hleft, hfound⟩
  have hone {c : Spawned} (hfound : c.found = fs) (hleft : X c.left) : X fs ∨ ∃ s ∈ [c], s.Brings X :=
    (hsplit c hleft).imp (hfound ▸ ·) fun hbrings => ⟨c, by simp, hbrings⟩
  have htwo {c e : Spawned} (hc : c.found = fs) (he : e.found = c.left) (hleft : X e.left) :
      X fs ∨ ∃ s ∈ [c, e], s.Brings X := by
    rcases hsplit e hleft with hmid | hbrings
    · refine (hone hc (he ▸ hmid)).imp_right ?_
      rintro ⟨s, hs, hbrings⟩
      exact ⟨s, List.mem_singleton.mp hs ▸ List.mem_cons_self, hbrings⟩
    · exact Or.inr ⟨e, by simp, hbrings⟩
  cases h with
  | uncompiled hcompile => exact hone hcompile.found_eq hX
  | rejected hcompile => exact hone hcompile.found_eq hX
  | unfinished hcompile hrun => exact htwo hcompile.found_eq hrun.found_eq hX
  | finished hcompile hrun => exact htwo hcompile.found_eq hrun.found_eq hX

/-- The files at the end are those that one of the children has left. -/
theorem Runs.of_left {K : Files → Prop} (h : Runs config source binary existing fs children ran files)
    (hK : ∀ s ∈ children, K s.left) : K files := by
  cases h <;> exact hK _ (by simp)

end FileRun

namespace Run

variable {r : Run} {n : Nat} {day : Timestamp} {fs fs' : Files} {host h : Host}

/-! ## The log of events -/

/-- The name of a binary that is made from a number behind a given one. -/
def IsNew (n : Nat) (name : String) : Prop :=
  ∃ k, n < k ∧ name = FileRun.binaryName k

/-- Whatever is removed on its way, the log of events does not lead to a binary. -/
def LogsApart (r : Run) (n : Nat) (day : Timestamp) (fs : Files) : Prop :=
  ∀ l, fs.MayLead (fs.start (r.logPath day)) (r.logPath day).names l → ∀ name, l.getLast? = some name → ¬IsNew n name

theorem LogsApart.of_mayLead (h : r.LogsApart n day fs) (hhere : fs'.workingDirectory = fs.workingDirectory)
    (hleads : ∀ l, fs'.MayLead (fs.start (r.logPath day)) (r.logPath day).names l →
      fs.MayLead (fs.start (r.logPath day)) (r.logPath day).names l) : r.LogsApart n day fs' := by
  intro l hl
  rw [start_congr hhere] at hl
  exact h l (hleads l hl)

theorem LogsApart.write (h : r.LogsApart n day fs) {path : Path} {change : List UInt8 → List UInt8}
    (hwrite : fs.write path change = .ok fs') : r.LogsApart n day fs' := by
  obtain ⟨hways, hhere⟩ := sameWays_of_write hwrite
  exact h.of_mayLead hhere fun _ => MayLead.of_sameWays hways

theorem LogsApart.loses (h : r.LogsApart n day fs) (hloses : fs.Loses fs') : r.LogsApart n day fs' :=
  h.of_mayLead hloses.workingDirectory_eq fun _ => hloses.mayLead

/-- Events are not written to where a binary is to stand. -/
theorem LogsApart.of_write_log (h : r.LogsApart n day fs) {change : List UInt8 → List UInt8}
    (hwrite : fs.write (r.logPath day) change = .ok fs') {k : Nat} (hk : n < k) (hthere : fs'.HasFile (r.binaryOf k)) :
    fs.HasFile (r.binaryOf k) := by
  refine (HasFile.of_write hwrite hthere).resolve_right ?_
  rintro ⟨l, hlog, hbinary⟩
  rw [binaryOf, locateLink_eq_ok_iff] at hbinary
  obtain ⟨mid, -, -, ⟨hup, -⟩ | ⟨-, rfl⟩⟩ := hbinary.concat_inv
  · exact FileRun.binaryName_ne_up k hup
  · exact h _ (locate_eq_ok_iff.mp hlog).mayLead _ List.getLast?_concat ⟨k, hk, rfl⟩

/-- A new name: none has it, and no link mentions it. -/
structure IsFree (fs : Files) (name : String) : Prop where
  lacks : fs.Lacks name
  links : ∀ l target, fs.find? l = some (.link target) → name ∉ (Path.ofText target).names

/-- The log does not lead to names that nobody knows yet. -/
theorem logsApart_of_free (htree : fs.IsTree) (hfree : ∀ k, n < k → IsFree fs (FileRun.binaryName k))
    (hpath : ∀ k, n < k → FileRun.binaryName k ∉ (r.logPath day).names) : r.LogsApart n day fs := by
  intro l hl
  refine hl.not_new htree ?_ ?_ (htree.directory_start _) ?_
  · rintro name ⟨k, hk, rfl⟩
    exact (hfree k hk).lacks
  · rintro l target hlink name hname ⟨k, hk, rfl⟩
    exact (hfree k hk).links l target hlink hname
  · rintro name hname ⟨k, hk, rfl⟩
    exact hpath k hk hname

/-! ## Running the copies -/

theorem logsOutside_nowhere (r : Run) (day : Timestamp) (fs : Files) : r.LogsOutside (fun _ => False) day fs :=
  fun _ _ => id

/-- Files in which a copy can be run: events have been logged, apart from all binaries to come. -/
structure IsReady (r : Run) (n : Nat) (day : Timestamp) (fs : Files) : Prop where
  tree : fs.IsTree
  apart : r.LogsApart n day fs
  logged : r.HasLog (fun _ => False) day fs

/-- A child does not lead the log elsewhere. -/
theorem IsReady.apart_of_persists (hi : r.IsReady n day fs) (hhere : fs'.workingDirectory = fs.workingDirectory)
    (hpersists : fs.Persists fs') : r.LogsApart n day fs' := by
  obtain ⟨l, e, hlocate, -, hfound, he⟩ := hi.logged
  exact hi.apart.of_mayLead hhere fun l' hl' =>
    MayLead.of_persists hpersists (locate_eq_ok_iff.mp hlocate) hfound he hl'

/-- What has come about since a host: directories have been made by children only, and so have files
under the paths of the binaries from numbers behind a given one, but for those that were there and have
not been made anew. -/
structure Clears (r : Run) (n : Nat) (host h : Host) (children : List Spawned) : Prop where
  spawned_eq : h.spawned = host.spawned ++ children
  named_le : host.named ≤ h.named
  directory : ∀ p, h.files.isDirectory p = true →
    host.files.isDirectory p = true ∨ ∃ s ∈ children, s.Brings (·.isDirectory p = true)
  binary : ∀ k, n < k → k ≤ h.named → h.files.HasFile (r.binaryOf k) →
    (k ≤ host.named ∧ host.files.HasFile (r.binaryOf k)) ∨
      ∃ s ∈ children, ¬s.IsOn (r.binaryOf k) ∧ s.Brings (·.HasFile (r.binaryOf k))

theorem Clears.refl (r : Run) (n : Nat) (host : Host) : r.Clears n host host [] where
  spawned_eq := (List.append_nil _).symm
  named_le := Nat.le_refl _
  directory _ h := Or.inl h
  binary _ _ hnamed h := Or.inl ⟨hnamed, h⟩

theorem Clears.trans {h₁ : Host} {children more : List Spawned} (hc : r.Clears n host h₁ children)
    (hc' : r.Clears n h₁ h more) : r.Clears n host h (children ++ more) where
  spawned_eq := by rw [hc'.spawned_eq, hc.spawned_eq, List.append_assoc]
  named_le := hc.named_le.trans hc'.named_le
  directory p hp := by
    rcases hc'.directory p hp with hmid | ⟨s, hs, hbrings⟩
    · refine (hc.directory p hmid).imp_right ?_
      rintro ⟨s, hs, hbrings⟩
      exact ⟨s, List.mem_append_left _ hs, hbrings⟩
    · exact Or.inr ⟨s, List.mem_append_right _ hs, hbrings⟩
  binary k hk hnamed hfile := by
    rcases hc'.binary k hk hnamed hfile with ⟨hmid, hfile⟩ | ⟨s, hs, hbrings⟩
    · refine (hc.binary k hk hmid hfile).imp_right ?_
      rintro ⟨s, hs, hbrings⟩
      exact ⟨s, List.mem_append_left _ hs, hbrings⟩
    · exact Or.inr ⟨s, List.mem_append_right _ hs, hbrings⟩

/-- When a copy has been run, its own binary is gone, and other binaries are not brought back. -/
theorem Measured.clears {entry : Instrumented} {children : List Spawned} {ran : Except Failure FileRun}
    {files : Files} {gathered : List Metric} (hm : r.Measured entry host children ran files gathered h)
    (hapart : r.LogsApart n host.now (FileRun.leave ran (files.without (r.binaryOf (host.named + 1))))) :
    r.Clears n host h children := by
  have hcrew := hm.crew_eq
  simp only [crew, crewAfter, Prod.mk.injEq] at hcrew
  obtain ⟨hnamed, -, hspawned, -⟩ := hcrew
  have hloses := files.loses_without (r.binaryOf (host.named + 1))
  have hloses' := FileRun.loses_leave ran (files.without (r.binaryOf (host.named + 1)))
  refine ⟨hspawned, by omega, fun p hp => ?_, fun k hk hle hfile => ?_⟩
  · apply hm.runs.brings (X := (·.isDirectory p = true))
    apply hloses.isDirectory
    apply hloses'.isDirectory
    rcases hm.files_eq with heq | ⟨change, hlog⟩
    · exact heq ▸ hp
    · exact isDirectory_of_write hlog hp
  · have hleft : (files.without (r.binaryOf (host.named + 1))).HasFile (r.binaryOf k) := by
      apply hloses'.hasFile
      rcases hm.files_eq with heq | ⟨change, hlog⟩
      · exact heq ▸ hfile
      · exact hapart.of_write_log hlog hk hfile
    -- the binary of this copy has been removed, whatever other number has the same name
    have hother : r.binaryOf k ≠ r.binaryOf (host.named + 1) := by
      intro heq
      rw [heq] at hleft
      exact files.not_hasFile_without _ hleft
    rcases hm.runs.brings (X := (·.HasFile (r.binaryOf k))) (hloses.hasFile hleft) with hbefore | ⟨s, hs, hbrings⟩
    · have hne : k ≠ host.named + 1 := fun heq => hother (by rw [heq])
      exact Or.inl ⟨by omega, hbefore⟩
    · refine Or.inr ⟨s, hs, fun hon => hother ?_, hbrings⟩
      have htext := hm.runs.isOn hs
      rw [Spawned.IsOn] at hon htext
      rw [hon] at htext
      have hname := Path.child_text_inj (Argument.text.inj (Option.some.inj htext))
      rw [binaryOf, binaryOf, hname]

/-- A copy is run, and the next one can be run if that has ended well. -/
theorem ends_measure_clears (entry : Instrumented) (hi : r.IsReady n host.now host.files) :
    Ends (r.measure entry) host fun result h => h.now = host.now ∧ (∃ children, r.Clears n host h children) ∧
      (result = .ok () → r.IsReady n host.now h.files) := by
  have hlasting := Files.lasting_persists host.files
  refine Ends.mono (ends_measure hlasting r entry ⟨hi.tree, rfl, Persists.refl _⟩) ?_
  rintro result h ⟨children, ran, files, gathered, hnext, hm, hresult⟩
  obtain ⟨htree, hhere, hpersists⟩ := hm.runs.of_left (K := fun fs => fs.IsTree ∧
    fs.workingDirectory = host.files.workingDirectory ∧ host.files.Persists fs) fun s hs => (hnext s hs).1
  have hloses := files.loses_without (r.binaryOf (host.named + 1))
  have hloses' := FileRun.loses_leave ran (files.without (r.binaryOf (host.named + 1)))
  have hapart := ((hi.apart_of_persists hhere hpersists).loses hloses).loses hloses'
  refine ⟨congrArg (fun c => c.2.2.2.2.2) hm.crew_eq, ⟨children, hm.clears hapart⟩, fun hok => ?_⟩
  obtain ⟨-, -, change, hlog⟩ := hresult hok
  have htree' := hloses'.isTree (hloses.isTree htree)
  exact ⟨htree'.write hlog, hapart.write hlog, (logsOutside_nowhere r host.now _).hasLog htree' hlog⟩

/-- Copies are run one after the other, and none of their binaries is left. -/
theorem ends_measureAll_clears (entries : List Instrumented)
    (hi : entries ≠ [] → r.IsReady n host.now host.files) :
    Ends (r.measureAll entries) host fun _ h => ∃ children, r.Clears n host h children := by
  induction entries generalizing host with
  | nil => exact ⟨[], Clears.refl r n host⟩
  | cons entry rest ih =>
    rw [Run.measureAll]
    refine Ends.bind (ends_measure_clears entry (hi (List.cons_ne_nil _ _))) ?_ fun f h hf => hf.2.1
    rintro _ h₁ ⟨hnow, ⟨children, hc⟩, hready⟩
    refine Ends.mono (ih fun _ => hnow ▸ hready rfl) ?_
    rintro result h₂ ⟨more, hc'⟩
    exact ⟨children ++ more, hc.trans hc'⟩

/-! ## Whole runs -/

theorem Judged.isTree {path : Path} {first : Option Instrumented} (h : r.Judged path fs first fs') (htree : fs.IsTree) :
    fs'.IsTree := by
  cases h with
  | skipped => exact htree
  | copied _ hwrite => exact htree.write hwrite

/-- Before a copy is run, events have been logged. -/
theorem Instruments.hasLog {paths : List Path} {results : List Instrumented} (h : r.Instruments day fs paths results fs')
    (htree : fs.IsTree) (hlog : results ≠ [] ∨ r.HasLog (fun _ => False) day fs) : r.HasLog (fun _ => False) day fs' := by
  induction h with
  | nil => exact hlog.resolve_left fun hne => hne rfl
  | cons hfirst hwrite _ ih =>
    have htree' := hfirst.isTree htree
    exact ih (htree'.write hwrite) (Or.inr ((logsOutside_nowhere r day _).hasLog htree' hwrite))

/-- When sources have been instrumented, no directory and no name has been made. -/
theorem clears_of_sameWays (hcrew : crew h = crew { host with gathered := [] }) (hways : SameWays host.files h.files)
    (hhere : h.files.workingDirectory = host.files.workingDirectory) : r.Clears host.named host h [] := by
  simp only [crew, Prod.mk.injEq] at hcrew
  obtain ⟨hnamed, -, hspawned, -⟩ := hcrew
  refine ⟨by rw [hspawned, List.append_nil], hnamed.ge, fun p hp => Or.inl ?_, fun k hk hle _ => by omega⟩
  obtain ⟨l, hlocate, hfound⟩ := isDirectory_iff.mp hp
  exact isDirectory_iff.mpr ⟨l, (hways.locate hhere).mp hlocate, (hways.find?_eq rfl).mpr hfound⟩

/-- A run on files leaves none of its binaries, and makes no directory. -/
theorem ends_singleFiles_clears (htree : host.files.IsTree) (hapart : r.LogsApart host.named host.now host.files) :
    Ends r.singleFiles host fun _ h => ∃ children, r.Clears host.named host h children := by
  have hwrites {fs fs' : Files} {p : Path} {change : List UInt8 → List UInt8}
      (h : fs.IsTree ∧ SameWays host.files fs ∧ fs.workingDirectory = host.files.workingDirectory)
      (hwrite : fs.write p change = .ok fs') :
      fs'.IsTree ∧ SameWays host.files fs' ∧ fs'.workingDirectory = host.files.workingDirectory := by
    obtain ⟨hways, hhere⟩ := sameWays_of_write hwrite
    exact ⟨h.1.write hwrite, fun l => (h.2.1 l).trans (hways l), hhere.trans h.2.2⟩
  refine ends_singleFiles_of (P := fun result h => crew h = crew { host with gathered := [] } ∧
      (h.files.IsTree ∧ SameWays host.files h.files ∧ h.files.workingDirectory = host.files.workingDirectory) ∧
      ∀ results, result = .ok results → r.Instruments host.now host.files (r.paths host.files) results h.files)
    (fun _ _ _ h => h) (fun reports => ends_instrumentAll hwrites r _ ⟨htree, fun _ => rfl, rfl⟩) ?_ ?_
  · rintro f h ⟨hcrew, ⟨-, hways, hhere⟩, -⟩
    exact ⟨[], clears_of_sameWays hcrew hways hhere⟩
  · rintro instrumented files h ⟨hcrew, ⟨htree', hways, hhere⟩, hinstruments⟩ -
    have hnow : h.now = host.now := congrArg (fun c => c.2.2.2.2.2) hcrew
    have hbefore : r.Clears host.named host h [] := clears_of_sameWays hcrew hways hhere
    have hready (hne : instrumented.filter (·.hasEntryPoint) ≠ []) : r.IsReady host.named h.now h.files := by
      rw [hnow]
      refine ⟨htree', hapart.of_mayLead hhere fun _ => MayLead.of_sameWays hways, ?_⟩
      refine (hinstruments instrumented rfl).hasLog htree (Or.inl ?_)
      rintro rfl
      exact hne rfl
    refine Ends.bind (ends_measureAll_clears _ hready) ?_ ?_
    · rintro _ h' ⟨children, hc⟩
      rw [results, ends_bind, ends_get]
      exact ⟨[] ++ children, hbefore.trans hc⟩
    · rintro f h' ⟨children, hc⟩
      exact ⟨[] ++ children, hbefore.trans hc⟩

/-- A name that nothing has, that no link mentions, and that is not on the paths of a run. -/
structure IsUnknown (r : Run) (host : Host) (name : String) : Prop where
  free : IsFree host.files name
  work : name ∉ r.config.workRoot.names
  log : name ∉ (r.logPath host.now).names

/-- What is asked of the start of a run: nobody knows the names yet that are made from the numbers to
come. -/
structure StartsFresh (r : Run) (host : Host) : Prop where
  tree : host.files.IsTree
  apart : r.config.IsApart
  work : ∀ k, host.named < k → r.IsUnknown host (Package.workName k)
  binary : ∀ k, host.named < k → r.IsUnknown host (FileRun.binaryName k)

/-- None of the working directories and binaries is left that a run has made for its own use: if
something stands under such a path then a child has put it there, and not one that was started on the
binary. -/
structure IsCleared (r : Run) (host h : Host) : Prop where
  work : ∀ k, host.named < k → k ≤ h.named → h.files.isDirectory (r.config.workRoot.child (Package.workName k)) = true →
    r.IsOnFiles host ∧ ∃ s ∈ h.spawned.drop host.spawned.length,
      s.Brings (·.isDirectory (r.config.workRoot.child (Package.workName k)) = true)
  binary : ∀ k, host.named + 1 < k → k ≤ h.named → h.files.HasFile (r.binaryOf k) →
    ∃ s ∈ h.spawned.drop host.spawned.length, ¬s.IsOn (r.binaryOf k) ∧ s.Brings (·.HasFile (r.binaryOf k))

section Whole

variable (hstart : r.StartsFresh host)

include hstart

theorem StartsFresh.isFresh {k : Nat} (hk : host.named < k) :
    (Package.ofNumber r.input r.config k).IsFresh (Package.workName k) host.files where
  work := rfl
  name := Package.workName_ne_up k
  not_mem := (hstart.work k hk).work
  tree := hstart.tree
  lacks := (hstart.work k hk).free.lacks

/-- At the start of a run there is no working directory yet. -/
theorem StartsFresh.not_isDirectory {k : Nat} (hk : host.named < k) :
    host.files.isDirectory (r.config.workRoot.child (Package.workName k)) = false := by
  have hfresh := hstart.isFresh hk
  refine Package.not_isDirectory_work (p := Package.ofNumber r.input r.config k) (fun l hl => ?_) hfresh.work hfresh.name
  rw [way?, hfresh.lacks l hl]
  rfl

/-- However a run ends, it leaves nothing that it has made for its own use. -/
theorem isCleared_run : r.IsCleared host (r.run host).2 := by
  have hrefused : r.IsCleared host host :=
    ⟨fun k hk hle => by omega, fun k hk hle => by omega⟩
  cases hmode : host.files.isDirectory r.input &&
      (Package.ofNumber r.input r.config (host.named + 1)).isPackage host.files with
  | true =>
    obtain ⟨hdirectory, hpackage⟩ := Bool.and_eq_true_iff.mp hmode
    have hnamed := named_run_package hdirectory hpackage
    have hgone := not_isDirectory_run_package (hstart.isFresh (Nat.lt_succ_self _)) hstart.apart hdirectory hpackage
    refine ⟨fun k hk hle hthere => ?_, fun k hk hle => by omega⟩
    obtain rfl : k = host.named + 1 := by omega
    rw [Package.ofNumber] at hgone
    rw [hgone] at hthere
    cases hthere
  | false =>
    suffices hrun : Ends r.run host fun _ h => r.IsCleared host h from hrun
    cases hproblem : r.inputProblem? host.files with
    | some problem =>
      rw [Run.run, ends_bind, ends_validate, hproblem]
      exact hrefused
    | none =>
      have hapart : r.LogsApart (host.named + 1) host.now host.files :=
        logsApart_of_free hstart.tree (fun k hk => (hstart.binary k (by omega)).free)
          fun k hk => (hstart.binary k (by omega)).log
      have hcleared {h : Host} {children : List Spawned} (reports : List Report)
          (hc : r.Clears (host.named + 1) { host with
            named := host.named + 1, pipeline := ⟨Stages.ofNames Package.stageNames, [], false⟩ } h children) :
          r.IsCleared host { h with reports } := by
        have hchildren : h.spawned.drop host.spawned.length = children := by
          rw [hc.spawned_eq, List.drop_left]
        refine ⟨fun k hk _ hthere => ⟨hmode, ?_⟩, fun k hk hle hthere => ?_⟩
        · rw [hchildren]
          refine (hc.directory _ hthere).resolve_left ?_
          rw [hstart.not_isDirectory hk]
          exact Bool.false_ne_true
        · rw [hchildren]
          refine (hc.binary k hk hle hthere).resolve_left ?_
          rintro ⟨hle', -⟩
          exact absurd hle' (by simpa using hk)
      refine ends_run_of_files hmode hproblem (ends_singleFiles_clears hstart.tree hapart) ?_ ?_
      · rintro results h reports ⟨children, hc⟩
        exact hcleared reports hc
      · rintro f h ⟨children, hc⟩
        exact hcleared h.reports hc

end Whole

/-- A child that writes the binary of the small tree. -/
def builder : Child :=
  { Child.idle with files := [((treeRun.binaryOf 2).text, .file [1] false)] }

/-- Names that are made from numbers are too long for the small tree. -/
theorem isUnknown_tree (upcoming : List Child) {name : String} (hname : 40 ≤ name.length) :
    treeRun.IsUnknown (treeHost upcoming) name where
  free :=
    { lacks := by
        have hshort : ∀ e ∈ treeFiles.entries, ∀ name ∈ e.1, name.length < 40 := by decide +kernel
        exact lacks_of_entries fun e he hmem => absurd (hshort e he name hmem) (by omega)
      links := by
        have hplain : treeFiles.NoLinks := noLinks_of_entries (by simp [treeFiles])
        exact fun l target hlink => absurd hlink (hplain l target) }
  work hmem := by
    have hshort : ∀ name ∈ treeRun.config.workRoot.names, name.length < 40 := by decide +kernel
    exact absurd (hshort name hmem) (by omega)
  log hmem := by
    have hshort : ∀ name ∈ (treeRun.logPath smallHost.now).names, name.length < 40 := by decide +kernel
    exact absurd (hshort name hmem) (by omega)

theorem startsFresh_tree (upcoming : List Child) : treeRun.StartsFresh (treeHost upcoming) where
  tree := isPlain_tree.tree
  apart := isApart_small
  work k _ := isUnknown_tree upcoming (by have := Package.length_workName k; omega)
  binary k _ := isUnknown_tree upcoming (by have := FileRun.length_binaryName k; omega)

/-- The program of the small tree is compiled to a binary, which is there when it is run, and gone
afterwards. -/
theorem isCleared_run_tree :
    treeRun.IsCleared (treeHost [builder]) (treeRun.run (treeHost [builder])).2 ∧
      (treeRun.run (treeHost [builder])).2.spawned.map (·.found.isFile (treeRun.binaryOf 2)) = [false, true] ∧
      (treeRun.run (treeHost [builder])).2.named = 2 ∧
      (treeRun.run (treeHost [builder])).2.files.isFile (treeRun.binaryOf 2) = false := by
  refine ⟨isCleared_run (startsFresh_tree [builder]), ?_⟩
  -- the run is evaluated once for the three of them
  decide +kernel

end Run

end Stopwatch

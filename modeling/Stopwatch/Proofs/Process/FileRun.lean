/-
  Running one file, child by child.

  A run of a file asks one child to compile it and, if that has gone well, another one to run
  what has been compiled.  What has become of these two decides what the run comes to.
-/
import Stopwatch.Proofs.Host.Children
import Stopwatch.Proofs.Json.Tokens
import Stopwatch.Proofs.Metric.Announced

namespace Stopwatch

open Action

variable {K : Files → Prop} {config : Config} {source binary : Path} {host : Host}

/-- Files without the entry of a path, if that can be removed. -/
def Files.without (fs : Files) (p : Path) : Files :=
  (fs.remove p).toOption.getD fs

namespace Action

/-- A child has been started with a command, and waited for. -/
structure Asked (command : Command) (fs : Files) (s : Spawned) (r : Except Failure (Int × String)) : Prop where
  command_eq : s.command = command
  found_eq : s.found = fs
  answered : Answered s r

/-- A host after some children, and with the files that they and others have left. -/
def after (host : Host) (children : List Spawned) (files : Files) (pipeline : Pipeline) : Host :=
  { host with
    files, pipeline
    upcoming := host.upcoming.drop children.length
    spawned := host.spawned ++ children }

theorem Started.after_eq {command : Command} {s : Spawned} {pipeline : Pipeline} {h : Host}
    (hs : Started K { host with pipeline } command s h) : h = after host [s] s.left pipeline := by
  rw [hs.host_eq, after, List.length_singleton, List.drop_one]

/-- Two children, one after the other. -/
theorem after_after (host : Host) (children more : List Spawned) (files files' : Files)
    (pipeline pipeline' : Pipeline) :
    after (after host children files pipeline) more files' pipeline' =
      after host (children ++ more) files' pipeline' := by
  simp only [after, List.drop_drop, List.length_append, List.append_assoc]

/-- A child is one of those that are to come, or an idle one. -/
def IsNext (host : Host) (s : Spawned) : Prop :=
  s.child ∈ host.upcoming ∨ s.child = Child.idle

theorem Started.isNext {command : Command} {s : Spawned} {h : Host} (hs : Started K host command s h) :
    IsNext host s := by
  rw [IsNext, hs.child_eq]
  cases host.upcoming with
  | nil => exact Or.inr rfl
  | cons child rest => exact Or.inl List.mem_cons_self

end Action

/-- A name that is made from a number has thirty-two digits at least. -/
theorem Action.length_nameOf (n : Nat) : 32 ≤ (nameOf n).length := by
  simp only [nameOf, String.length_ofList, List.length_append, List.length_replicate]
  omega

namespace FileRun

/-- What the binary of a file is called that is made from a number. -/
def binaryName (n : Nat) : String :=
  nameOf n ++ "_instrumented_binary.pyc"

/-- The name of a binary is long: it begins with thirty-two digits. -/
theorem length_binaryName (n : Nat) : 56 ≤ (binaryName n).length := by
  have hlong : "_instrumented_binary.pyc".length = 24 := by decide
  have hdigits := length_nameOf n
  rw [binaryName, String.length_append, hlong]
  omega

theorem binaryName_ne_up (n : Nat) : binaryName n ≠ ".." := by
  intro heq
  have hlength := length_binaryName n
  rw [heq] at hlength
  exact absurd hlength (by decide)

/-- The command that compiles a file. -/
def compiling (config : Config) (source binary : Path) : Command :=
  .ofTexts [config.interpreter, "-c", compileProgram, source.text, binary.text] none none

/-- The command that runs a compiled file. -/
def running (config : Config) (source binary : Path) (existing : Option String) : Command :=
  .ofTexts [config.interpreter, binary.text] none (some ⟨some (searchPath source.parent existing), some "1"⟩)

/-- What becomes of a failure to hear of a child: a refusal of the system is a result. -/
def ofLost (f : Failure) : Except Failure FileRun :=
  if f.isSystem then .ok (.failed ("Failed to compile/run instrumented code: " ++ f.message)) else .error f

/-- The children that a run of a file has started, what it comes to, and the files that the last
child has left. -/
inductive Runs (config : Config) (source binary : Path) (existing : Option String) (fs : Files) :
    List Spawned → Except Failure FileRun → Files → Prop
  /-- Nothing has been heard of the compilation. -/
  | uncompiled {c : Spawned} {f : Failure} (hcompile : Asked (compiling config source binary) fs c (.error f)) :
      Runs config source binary existing fs [c] (ofLost f) c.left
  /-- The file could not be compiled. -/
  | rejected {c : Spawned} {status : Int} {text : String}
      (hcompile : Asked (compiling config source binary) fs c (.ok (status, text))) (hstatus : status ≠ 0) :
      Runs config source binary existing fs [c]
        (.ok (.failed (Problem.compilationFailed (filterDiagnostics text config.noisyMarkers)).message)) c.left
  /-- Nothing has been heard of the end of the program. -/
  | unfinished {c e : Spawned} {text : String} {f : Failure}
      (hcompile : Asked (compiling config source binary) fs c (.ok (0, text)))
      (hrun : Asked (running config source binary existing) c.left e (.error f)) :
      Runs config source binary existing fs [c, e] (ofLost f) e.left
  /-- The program has ended. -/
  | finished {c e : Spawned} {text : String} {status : Int} {output : String}
      (hcompile : Asked (compiling config source binary) fs c (.ok (0, text)))
      (hrun : Asked (running config source binary existing) c.left e (.ok (status, output))) :
      Runs config source binary existing fs [c, e] (.ok (ofOutput (withStatus status output))) e.left

/-- What becomes of the result of an attempt. -/
def settled : Except Failure FileRun → Except Failure FileRun
  | .ok outcome => .ok outcome
  | .error f => if f.isProblem .compilation then .ok (.failed f.message) else ofLost f

theorem ends_ofFailure {f : Failure} {Q : Except Failure FileRun → Host → Prop} :
    Ends (ofFailure f) host Q ↔ Q (settled (.error f)) host := by
  rw [ofFailure, settled, ofLost]
  split
  · rfl
  · split <;> rfl

/-- A failure to hear of a child says nothing about compilation. -/
theorem settled_of_answered {s : Spawned} {f : Failure} (h : Answered s (.error f)) :
    settled (.error f) = ofLost f := by
  have hother : f.isProblem .compilation = false := by
    cases h with
    | lost _ hf =>
      rcases hf with hsystem | hprinted
      · obtain ⟨error, rfl⟩ := hsystem.exists_eq
        rfl
      · cases houtput : s.child.output with
        | none =>
          rw [Child.printed, houtput] at hprinted
          cases hprinted
          rfl
        | some chunks =>
          obtain ⟨error, rfl⟩ := (printed_eq_error hprinted (by simp [houtput])).exists_eq
          rfl
  rw [settled, hother]
  rfl

/-- Children of which `K` holds, and which are among those that are to come. -/
def AreNext (K : Files → Prop) (host : Host) (children : List Spawned) : Prop :=
  ∀ s ∈ children, K s.left ∧ IsNext host s

theorem areNext_nil : AreNext K host [] := fun _ hs => absurd hs List.not_mem_nil

section Attempt

variable (hK : Files.Lasting K)

include hK

/-- A child is asked when others have been asked before. -/
theorem ends_communicate_after {pipeline : Pipeline} {children : List Spawned} {files : Files} (command : Command)
    (h : K files) (hnext : AreNext K host children) :
    Ends (communicate command) (after host children files pipeline) fun r h' => ∃ s,
      Asked command files s r ∧ AreNext K host (children ++ [s]) ∧
        h' = after host (children ++ [s]) s.left pipeline := by
  refine Ends.mono (ends_communicate_answered hK command h) ?_
  rintro r h' ⟨s, hs, hanswered⟩
  have hafter : h' = after (after host children files pipeline) [s] s.left pipeline :=
    Started.after_eq hs
  refine ⟨s, ⟨hs.command_eq, hs.found_eq, hanswered⟩, fun s' hs' => ?_, hafter.trans (after_after ..)⟩
  rcases List.mem_append.mp hs' with hs' | hs'
  · exact hnext s' hs'
  · rw [List.mem_singleton.mp hs']
    refine ⟨hs.left, hs.isNext.imp_left fun hmem => ?_⟩
    exact (List.drop_suffix children.length host.upcoming).subset hmem

/-- The stage in which a file is compiled. -/
theorem ends_compile (h : K host.files) :
    Ends (stage "compile" (compile config source binary)) host fun r h' => ∃ c pipeline,
      AreNext K host [c] ∧ h' = after host [c] c.left pipeline ∧
        match r with
        | .ok _ => ∃ text, Asked (compiling config source binary) host.files c (.ok (0, text))
        | .error f => Runs config source binary host.searchPath host.files [c] (settled (.error f)) c.left := by
  refine ends_stage_aside (fun r h' pipeline hr => ?_) fun pipeline => ?_
  · obtain ⟨c, -, hnext, rfl, hr⟩ := hr
    exact ⟨c, pipeline, hnext, rfl, hr⟩
  have hstart : { host with pipeline } = after host [] host.files pipeline := by simp [after]
  rw [compile, ← compiling, ends_bind, hstart]
  refine Ends.mono (ends_communicate_after hK _ h areNext_nil) ?_
  rintro r h' ⟨c, hasked, hnext, rfl⟩
  cases r with
  | error f =>
    refine ⟨c, pipeline, hnext, rfl, ?_⟩
    dsimp only
    rw [settled_of_answered hasked.answered]
    exact .uncompiled hasked
  | ok found =>
    obtain ⟨status, text⟩ := found
    dsimp only
    split
    · rename_i hstatus
      exact ⟨c, pipeline, hnext, rfl, .rejected hasked hstatus⟩
    · rename_i hstatus
      obtain rfl := not_ne_iff.mp hstatus
      exact ⟨c, pipeline, hnext, rfl, text, hasked⟩

/-- The stage in which a compiled file is run. -/
theorem ends_execute {c : Spawned} {text : String} {pipeline : Pipeline}
    (hcompile : Asked (compiling config source binary) host.files c (.ok (0, text))) (hnext : AreNext K host [c]) :
    Ends (stage "run" (execute config binary source.parent)) (after host [c] c.left pipeline) fun r h' =>
      ∃ e pipeline, AreNext K host [c, e] ∧ h' = after host [c, e] e.left pipeline ∧
        Runs config source binary host.searchPath host.files [c, e] (settled (r.map ofOutput)) e.left := by
  refine ends_stage_aside (fun r h' pipeline hr => ?_) fun pipeline => ?_
  · obtain ⟨e, -, hnext, rfl, hr⟩ := hr
    exact ⟨e, pipeline, hnext, rfl, hr⟩
  change Ends (execute config binary source.parent) (after host [c] c.left pipeline) _
  rw [execute, ends_bind, ends_observe]
  dsimp only
  have hleft : K c.left := (hnext c List.mem_cons_self).1
  have hrunning : running config source binary host.searchPath = .ofTexts [config.interpreter, binary.text] none
      (some ⟨some (searchPath source.parent (after host [c] c.left pipeline).searchPath), some "1"⟩) := rfl
  rw [ends_bind, ← hrunning]
  refine Ends.mono (ends_communicate_after hK _ hleft hnext) ?_
  rintro r h' ⟨e, hasked, hnext', rfl⟩
  cases r with
  | error f =>
    refine ⟨e, pipeline, hnext', rfl, ?_⟩
    change Runs _ _ _ _ _ _ (settled (.error f)) _
    rw [settled_of_answered hasked.answered]
    exact .unfinished hcompile hasked
  | ok found => exact ⟨e, pipeline, hnext', rfl, .finished hcompile hasked⟩

/-- An attempt to run a file: its children, and what becomes of its result. -/
theorem ends_attemptRun (h : K host.files) :
    Ends (attemptRun config source binary) host fun r h' => ∃ children files pipeline,
      AreNext K host children ∧ h' = after host children files pipeline ∧
        Runs config source binary host.searchPath host.files children (settled r) files := by
  rw [attemptRun, ends_bind]
  refine Ends.mono (ends_compile hK h) ?_
  rintro r h' ⟨c, pipeline, hnext, rfl, hr⟩
  cases r with
  | error f => exact ⟨[c], c.left, pipeline, hnext, rfl, hr⟩
  | ok _ =>
    obtain ⟨text, hcompile⟩ := hr
    dsimp only
    rw [ends_bind]
    refine Ends.mono (ends_execute hK hcompile hnext) ?_
    rintro r h' ⟨e, pipeline, hnext, rfl, hr⟩
    cases r with
    | error f => exact ⟨[c, e], e.left, pipeline, hnext, rfl, hr⟩
    | ok output =>
      refine ends_stage_aside (fun r h' pipeline hr => ?_) fun pipeline => ⟨_, _, pipeline, hnext, rfl, hr⟩
      obtain ⟨children, files, -, hnext, rfl, hr⟩ := hr
      exact ⟨children, files, pipeline, hnext, rfl, hr⟩

/-- What becomes of an attempt: its failures are handled, but for one that comes of a child without an
output. -/
theorem ends_handled (h : K host.files) :
    Ends (Action.handling (attemptRun config source binary) (fun _ => true) ofFailure) host fun r h' =>
      ∃ children files pipeline, AreNext K host children ∧ h' = after host children files pipeline ∧
        Runs config source binary host.searchPath host.files children r files := by
  rw [Action.handling, ends_bind, ends_attempt]
  refine Ends.mono (ends_attemptRun hK h) ?_
  rintro r h' ⟨children, files, pipeline, hnext, rfl, hr⟩
  cases r with
  | ok outcome => exact ⟨children, files, pipeline, hnext, rfl, hr⟩
  | error f => exact ends_ofFailure.mpr ⟨children, files, pipeline, hnext, rfl, hr⟩

end Attempt

/-- The binary is removed if it can be, and nothing else happens. -/
theorem ends_cleanUp {pipeline : Pipeline} {children : List Spawned} {files : Files} :
    Ends (cleanUp binary) (after host children files pipeline) fun r h' => r = .ok () ∧
      ∃ pipeline, h' = after host children (files.without binary) pipeline := by
  refine ends_stage_aside (fun r h' pipeline hr => ?_) fun pipeline => ?_
  · obtain ⟨hr, -, rfl⟩ := hr
    exact ⟨hr, pipeline, rfl⟩
  have hfiles (pipeline : Pipeline) : (after host children files pipeline).files = files := rfl
  rw [Action.handling, ends_bind, ends_attempt, removeFile, ends_bind, ends_get, Files.without]
  simp only [hfiles]
  cases hremove : files.remove binary with
  | ok files' => exact ⟨rfl, pipeline, rfl⟩
  | error fault => cases fault <;> exact ⟨rfl, pipeline, rfl⟩

/-- A run of a file: its children, what it comes to, and the host that it leaves. -/
theorem ends_run (hK : Files.Lasting K) (config : Config) (source : Path) (h : K host.files) :
    Ends (run config source) host fun r h' => ∃ children files pipeline,
      AreNext K host children ∧
      Runs config source (config.workRoot.child (binaryName (host.named + 1))) host.searchPath host.files
        children r files ∧
      h' = after { host with named := host.named + 1 } children
        (files.without (config.workRoot.child (binaryName (host.named + 1)))) pipeline := by
  rw [run, ends_bind, plan, ends_modify]
  dsimp only
  rw [ends_bind]
  -- the binary gets the next number
  rw [ends_freshName]
  dsimp only
  rw [ensuring, ends_bind, ends_attempt]
  refine Ends.mono (ends_handled hK h) ?_
  rintro r h' ⟨children, files, pipeline, hnext, rfl, hr⟩
  dsimp only
  rw [ends_bind]
  refine Ends.mono ends_cleanUp ?_
  rintro _ h' ⟨rfl, pipeline, rfl⟩
  cases r with
  | ok outcome => exact ⟨children, files, pipeline, hnext, hr, rfl⟩
  | error f => exact ⟨children, files, pipeline, hnext, hr, rfl⟩

/-! ## Classification -/

/-- The system is to blame if nothing is heard of a child that has an output. -/
theorem isSystem_of_answered {s : Spawned} {f : Failure} (h : Answered s (.error f)) (houtput : s.child.output ≠ none) :
    IsSystem f := by
  cases h with
  | lost _ hf => exact hf.elim id fun hprinted => printed_eq_error hprinted houtput

/-- A refusal of the system is a result. -/
theorem ofLost_of_isSystem {f : Failure} (h : IsSystem f) :
    ofLost f = .ok (.failed ("Failed to compile/run instrumented code: " ++ f.message)) := by
  rw [ofLost, h]
  rfl

/-- A run is a result unless a child has no output. -/
theorem Runs.exists_outcome {existing : Option String} {fs files : Files} {children : List Spawned}
    {r : Except Failure FileRun} (h : Runs config source binary existing fs children r files)
    (houtput : ∀ s ∈ children, s.child.output ≠ none) : ∃ outcome, r = .ok outcome := by
  cases h with
  | uncompiled hcompile =>
    have hsystem := isSystem_of_answered hcompile.answered (houtput _ (by simp))
    exact ⟨_, ofLost_of_isSystem hsystem⟩
  | rejected => exact ⟨_, rfl⟩
  | unfinished _ hrun =>
    have hsystem := isSystem_of_answered hrun.answered (houtput _ (by simp))
    exact ⟨_, ofLost_of_isSystem hsystem⟩
  | finished => exact ⟨_, rfl⟩

/-- The line that tells a bad exit status has digits, blanks and letters, but no underscore and no
bracket. -/
theorem not_mem_exitLine {c : Char} (status : Int) (hc : c ∉ "Process exited with code: ".toList) (hsign : c ≠ '-')
    (hdigit : c.isDigit = false) : c ∉ ("Process exited with code: " ++ toString status).toList := by
  rw [String.toList_append, List.mem_append, not_or]
  refine ⟨hc, fun hmem => ?_⟩
  rw [Json.toList_toString, Number.signed] at hmem
  have hdigits : c ∉ Number.digits status.natAbs := fun hmem => by
    rw [Number.isDigit_of_mem_digits hmem] at hdigit
    cases hdigit
  split at hmem
  · exact (List.mem_cons.mp hmem).elim hsign hdigits
  · exact hdigits hmem

/-- The line stands on its own behind an output. -/
theorem append_exitLine (status : Int) (output : String) :
    output ++ "\nProcess exited with code: " ++ toString status =
      output ++ "\n" ++ ("Process exited with code: " ++ toString status) := by
  simp [String.ext_iff, String.toList_append]

/-- The line announces nothing. -/
theorem announcedPath_append_exitLine (status : Int) (output : String) :
    announcedPath? (output ++ "\nProcess exited with code: " ++ toString status) = announcedPath? output := by
  have hnone : announcedPath? ("Process exited with code: " ++ toString status) = none :=
    announcedPath_eq_none fun hin =>
      not_mem_exitLine (c := '_') status (by decide) (by decide) (by decide) (hin.subset (by decide))
  rw [append_exitLine, announcedPath_append_newline, hnone, Option.or_none]

/-- The line is no tagged line. -/
theorem taggedMetrics_append_exitLine (status : Int) (output : String) :
    taggedMetrics (output ++ "\nProcess exited with code: " ++ toString status) = taggedMetrics output := by
  have hnil : taggedMetrics ("Process exited with code: " ++ toString status) = [] :=
    taggedMetrics_eq_nil fun hin =>
      not_mem_exitLine (c := '[') status (by decide) (by decide) (by decide) (hin.subset (by decide))
  rw [append_exitLine, taggedMetrics_append_newline, hnil, List.append_nil]

/-- A bad exit status announces nothing. -/
theorem announcedPath_withStatus (status : Int) (output : String) :
    announcedPath? (withStatus status output) = announcedPath? output := by
  rw [withStatus]
  split
  · rfl
  · exact announcedPath_append_exitLine status output

/-- The metrics of an output depend on its tagged lines and on what it announces. -/
theorem recover_congr (fs : Files) {output other : String} (hpath : announcedPath? output = announcedPath? other)
    (htagged : taggedMetrics output = taggedMetrics other) : fs.recover output = fs.recover other := by
  rw [Files.recover, Files.recover, hpath, Files.recoverFrom, Files.recoverFrom, htagged]

/-- A bad exit status does not change what is recovered. -/
theorem recover_withStatus (fs : Files) (status : Int) (output : String) :
    fs.recover (withStatus status output) = fs.recover output := by
  refine recover_congr fs (announcedPath_withStatus status output) ?_
  rw [withStatus]
  split
  · rfl
  · exact taggedMetrics_append_exitLine status output

/-- A result that is no failure is recovered from like any output. -/
theorem recover_ofOutput (output : String) (fs : Files) :
    (ofOutput output).output = output ∧ (ofOutput output).recover fs = fs.recover output := by
  rw [ofOutput, Files.recover]
  cases announcedPath? output <;> exact ⟨rfl, rfl⟩

/-- Two outputs with a newline between them have the tagged lines of the first, then those of the second,
and announce what the first one announces, or else what the second one does.  So the line that tells an
exit status changes nothing of what is recovered, neither the metrics nor where they come from nor the
files that are left, whether the output is taken as it is or as that of a run. -/
theorem recover_append_newline :
    (∀ output more : String,
      taggedMetrics (output ++ "\n" ++ more) = taggedMetrics output ++ taggedMetrics more ∧
      announcedPath? (output ++ "\n" ++ more) =
        match announcedPath? output with
        | some path => some path
        | none => announcedPath? more) ∧
    ∀ (fs : Files) (status : Int) (output : String),
      fs.recover (output ++ "\nProcess exited with code: " ++ toString status) = fs.recover output ∧
      (ofOutput (output ++ "\nProcess exited with code: " ++ toString status)).recover fs =
        (ofOutput output).recover fs := by
  refine ⟨fun output more => ⟨taggedMetrics_append_newline output more, ?_⟩, fun fs status output => ?_⟩
  · rw [announcedPath_append_newline]
    cases announcedPath? output <;> rfl
  · have hrecover := recover_congr fs (announcedPath_append_exitLine status output)
      (taggedMetrics_append_exitLine status output)
    refine ⟨hrecover, ?_⟩
    rw [(recover_ofOutput _ fs).2, (recover_ofOutput _ fs).2]
    exact hrecover

/-- What a run of a file comes to, by what has become of its children. -/
structure Classifies (children : List Spawned) (outcome : FileRun) : Prop where
  /-- It has failed if a child was lost, or if the first one ended badly. -/
  failed_iff : (∃ message, outcome = .failed message) ↔
    (∃ s ∈ children, s.IsLost) ∨ ∃ c status, children.head? = some c ∧ c.fate = .exited status ∧ status ≠ 0
  /-- Otherwise the output of the second one decides. -/
  output : (∀ message, outcome ≠ .failed message) → ∃ c e text, children = [c, e] ∧
    e.child.printed = .ok text ∧ outcome.output = withStatus e.child.status text ∧
    (∀ path, outcome = .announced path outcome.output ↔ announcedPath? text = some path) ∧
    (outcome = .printed outcome.output ↔ announcedPath? text = none)
  /-- What is recovered is what is recovered from the output. -/
  recover : (∀ message, outcome ≠ .failed message) → ∀ fs : Files, outcome.recover fs = fs.recover outcome.output

/-- A child that has been heard of has ended. -/
theorem fate_of_heard {s : Spawned} {status : Int} {text : String} (h : Answered s (.ok (status, text))) :
    s.fate = .exited status := by
  cases h with
  | heard hfate => exact hfate

/-- A child that has been heard of is not lost. -/
theorem not_isLost {s : Spawned} {found : Int × String} (h : Answered s (.ok found)) : ¬s.IsLost := by
  cases h with
  | heard hfate => simp [Spawned.IsLost, hfate]

theorem isLost_of_answered {s : Spawned} {f : Failure} (h : Answered s (.error f)) : s.IsLost := by
  cases h with
  | lost hlost => exact hlost

theorem classifies_failed {children : List Spawned} (message : String)
    (h : (∃ s ∈ children, s.IsLost) ∨
      ∃ c status, children.head? = some c ∧ c.fate = .exited status ∧ status ≠ 0) :
    Classifies children (.failed message) where
  failed_iff := iff_of_true ⟨message, rfl⟩ h
  output hother := absurd rfl (hother message)
  recover hother := absurd rfl (hother message)

theorem classifies_ofOutput {c e : Spawned} {compiled text : String} {status : Int}
    (hc : Answered c (.ok (0, compiled))) (he : Answered e (.ok (status, text))) :
    Classifies [c, e] (ofOutput (withStatus status text)) where
  failed_iff := by
    refine iff_of_false ?_ ?_
    · rintro ⟨message, hfailed⟩
      rw [ofOutput] at hfailed
      split at hfailed <;> cases hfailed
    · rintro (⟨s, hs, hlost⟩ | ⟨c', status', hhead, hfate, hbad⟩)
      · rcases List.mem_pair.mp hs with rfl | rfl
        · exact not_isLost hc hlost
        · exact not_isLost he hlost
      · cases hhead
        rw [fate_of_heard hc] at hfate
        exact hbad (Fate.exited.inj hfate).symm
  output _ := by
    cases he with
    | heard _ hprinted =>
      refine ⟨c, e, text, rfl, hprinted, (recover_ofOutput _ default).1, fun path => ?_, ?_⟩
      · rw [(recover_ofOutput _ default).1, ofOutput, announcedPath_withStatus]
        cases announcedPath? text <;> simp
      · rw [(recover_ofOutput _ default).1, ofOutput, announcedPath_withStatus]
        cases announcedPath? text <;> simp
  recover _ fs := by
    rw [(recover_ofOutput _ fs).1]
    exact (recover_ofOutput _ fs).2

/-- The children of a run decide what it comes to. -/
theorem Runs.classifies {existing : Option String} {fs files : Files} {children : List Spawned}
    {outcome : FileRun} {r : Except Failure FileRun} (h : Runs config source binary existing fs children r files)
    (hr : r = .ok outcome) : Classifies children outcome := by
  have hlost {f : Failure} (hf : ofLost f = .ok outcome) : ∃ message, outcome = .failed message := by
    rw [ofLost] at hf
    split at hf
    · exact ⟨_, (Except.ok.inj hf).symm⟩
    · cases hf
  cases h with
  | uncompiled hcompile =>
    obtain ⟨message, rfl⟩ := hlost hr
    exact classifies_failed message (Or.inl ⟨_, by simp, isLost_of_answered hcompile.answered⟩)
  | @rejected c status text hcompile hstatus =>
    cases hr
    exact classifies_failed _ (Or.inr ⟨c, status, rfl, fate_of_heard hcompile.answered, hstatus⟩)
  | unfinished _ hrun =>
    obtain ⟨message, rfl⟩ := hlost hr
    exact classifies_failed message (Or.inl ⟨_, by simp, isLost_of_answered hrun.answered⟩)
  | finished hcompile hrun =>
    cases hr
    exact classifies_ofOutput hcompile.answered hrun.answered

/-- A run of a file whose children have an output does not fail.  Its result is a failure exactly if
a child could not be started or listened to, or if the file could not be compiled; otherwise it is told
by the output of the program, and metrics are recovered from it as from that output. -/
theorem exists_classified {config : Config} {source : Path} {host : Host}
    (houtput : ∀ c ∈ host.upcoming, c.output ≠ none) :
    ∃ outcome children files, (run config source host).1 = .ok outcome ∧
      (run config source host).2.spawned = host.spawned ++ children ∧
      Runs config source (config.workRoot.child (binaryName (host.named + 1))) host.searchPath host.files
        children (.ok outcome) files ∧
      Classifies children outcome := by
  have hrun : Ends (run config source) host _ := ends_run Files.lasting_true config source trivial
  obtain ⟨children, files, pipeline, hnext, hruns, hhost⟩ := hrun
  have hchildren : ∀ s ∈ children, s.child.output ≠ none := by
    intro s hs
    rcases (hnext s hs).2 with hmem | hidle
    · exact houtput _ hmem
    · simp [hidle, Child.idle]
  obtain ⟨outcome, houtcome⟩ := hruns.exists_outcome hchildren
  refine ⟨outcome, children, files, houtcome, by rw [hhost]; rfl, houtcome ▸ hruns, ?_⟩
  exact hruns.classifies houtcome

/-- A host whose next children compile a file, and announce a file of records before a bad end. -/
def announcingHost : Host :=
  let announcing : Child :=
    { Child.idle with
      output := some [.bytes (Text.Utf8.encode "__ASYNC_PROFILER_METRICS__: out.json\n")]
      status := 3 }
  { (default : Host) with upcoming := [Child.idle, announcing] }

/-- The same where a program announces a file and ends badly. -/
theorem exists_classified_announcing :
    let config := Config.usual (Path.ofText "/base") (Path.ofText "/tmp") "python"
    let source := Path.ofText "/input/job_instrumented.py"
    (run config source announcingHost).1.toOption = some (.announced "out.json"
      "__ASYNC_PROFILER_METRICS__: out.json\n\nProcess exited with code: 3") ∧
    ∃ outcome children files, (run config source announcingHost).1 = .ok outcome ∧
      (run config source announcingHost).2.spawned = announcingHost.spawned ++ children ∧
      Runs config source (config.workRoot.child (binaryName (announcingHost.named + 1)))
        announcingHost.searchPath announcingHost.files children (.ok outcome) files ∧
      Classifies children outcome :=
  ⟨by decide +kernel, exists_classified (by simp [announcingHost, Child.idle])⟩

end FileRun

end Stopwatch

/-
  The commands of a package.

  A package is handled by three programs: one compiles the sources and one packs them, both in the
  working directory, and the last one runs the archive, in the directory of the package.  Whoever
  starts a program names files to it by texts, and a text that is no absolute path means something
  else in another directory.  If the working directories are made under an absolute path, all texts
  mean the same to the program as to the one who starts it.
-/
import Stopwatch.Proofs.Run.Nameless

namespace Stopwatch

open Action

/-! ## What a text means to a program -/

/-- The files as they look to a program that is started with a command: its working directory is the
one that the command names. -/
def Files.startedWith (fs : Files) (command : Command) : Files :=
  match command.directory.map fun text => fs.locate (Path.ofText text) with
  | some (.ok l) => { fs with workingDirectory := l }
  | some (.error _) | none => fs

theorem Files.startedWith_entries (fs : Files) (command : Command) :
    (fs.startedWith command).entries = fs.entries := by
  rw [startedWith]
  split <;> rfl

/-- A text leads the program that is started with a command to where it leads the one who starts it,
whatever files there are. -/
def Command.Agrees (command : Command) (text : String) : Prop :=
  ∀ fs : Files, (fs.startedWith command).locate (Path.ofText text) = fs.locate (Path.ofText text)

theorem Command.agrees_of_isAbsolute (command : Command) {p : Path} (h : p.isAbsolute = true) :
    command.Agrees p.text := by
  intro fs
  have habsolute := Path.isAbsolute_ofText_text h
  rw [Files.locate, Files.locate, Files.start, Files.start, if_pos habsolute, if_pos habsolute]
  exact Files.walk_congr (fs.startedWith_entries command) true _ _ _

/-! ## Commands that are started -/

namespace Action

/-- The commands with which children have been started. -/
def commands (host : Host) : List Command :=
  host.spawned.map (·.command)

/-- More children have been started, each with a command of which `P` holds. -/
def Starts (P : Command → Prop) (host h : Host) : Prop :=
  ∃ new, commands h = commands host ++ new ∧ ∀ command ∈ new, P command

variable {P : Command → Prop}

theorem Starts.of_eq {host h : Host} (hcommands : commands h = commands host) : Starts P host h :=
  ⟨[], by rw [hcommands, List.append_nil], fun _ hmem => absurd hmem List.not_mem_nil⟩

instance : IsRunFrame (Starts P) where
  aside := by
    rintro host h ⟨_, _, _, _, _, rfl, -, -⟩
    exact .of_eq rfl
  trans := by
    rintro h₁ h₂ h₃ ⟨new, hcommands, hnew⟩ ⟨new', hcommands', hnew'⟩
    refine ⟨new ++ new', by rw [hcommands', hcommands, List.append_assoc], fun command hmem => ?_⟩
    exact (List.mem_append.mp hmem).elim (hnew command) (hnew' command)
  settled := by
    intro host front last fate hlast
    refine .of_eq ?_
    simp [commands, hlast]
  pipeline := fun _ _ => .of_eq rfl
  named := fun _ _ => .of_eq rfl

instance : IsLogFrame (Starts P) where
  logged := fun _ _ => .of_eq rfl

theorem admits_starts {command : Command} (h : P command) : Admits (Starts P) command := by
  intro host h' s hs
  refine ⟨[command], ?_, fun other hother => List.mem_singleton.mp hother ▸ h⟩
  rw [hs.host_eq, ← hs.command_eq]
  simp [commands]

end Action

/-! ## The programs of a package -/

namespace Package

/-- A command by which a package is built or run, whose texts mean to the program what they mean to the
one who starts it. -/
inductive IsUnderstood (p : Package) : Command → Prop
  /-- The sources are compiled. -/
  | compile {command : Command} (harguments : command.arguments = p.compileArguments)
      (hdirectory : command.directory = some p.work.text) (hsources : command.Agrees p.sourceRoot.text) :
      IsUnderstood p command
  /-- The sources are packed to an archive in the release directory. -/
  | pack {command : Command} (name : String) (entry : Option Toml)
      (harguments : command.arguments = p.packArguments (p.releaseDirectory.child (safeName name ++ ".pyz")) entry)
      (hdirectory : command.directory = some p.work.text) (hsources : command.Agrees p.sourceRoot.text)
      (htarget : command.Agrees (p.releaseDirectory.child (safeName name ++ ".pyz")).text) : IsUnderstood p command
  /-- An executable in the release directory is run. -/
  | execute {command : Command} (name : String)
      (harguments : command.arguments =
        [p.config.interpreter, (p.releaseDirectory.child name).text].map Argument.text)
      (hdirectory : command.directory = some p.path.text)
      (hexecutable : command.Agrees (p.releaseDirectory.child name).text) : IsUnderstood p command

variable {p : Package}

theorem isAbsolute_sourceRoot (h : p.work.isAbsolute = true) : p.sourceRoot.isAbsolute = true :=
  Path.isAbsolute_slash h _

theorem isAbsolute_released (h : p.work.isAbsolute = true) (name : String) :
    (p.releaseDirectory.child name).isAbsolute = true :=
  Path.isAbsolute_slash h p.config.releaseDirectory

theorem admitsPackage_understood (h : p.work.isAbsolute = true) : Run.AdmitsPackage p (Starts p.IsUnderstood) where
  build := by
    refine ⟨admits_starts (.compile rfl rfl ?_), fun name entry => admits_starts (.pack name entry rfl rfl ?_ ?_)⟩
    · exact Command.agrees_of_isAbsolute _ (isAbsolute_sourceRoot h)
    · exact Command.agrees_of_isAbsolute _ (isAbsolute_sourceRoot h)
    · exact Command.agrees_of_isAbsolute _ (isAbsolute_released h _)
  execute name _ :=
    admits_starts (.execute name rfl rfl (Command.agrees_of_isAbsolute _ (isAbsolute_released h name)))

end Package

namespace Run

/-- A run of a package starts programs to build it and to run it, and no others.  If working directories are
made under an absolute path, each text that such a program is given for a file leads it to the file to
which it leads the run itself. -/
theorem starts_understood {r : Run} {host : Host} (hroot : r.config.workRoot.isAbsolute = true)
    (hdirectory : host.files.isDirectory r.input = true)
    (hpackage : (Package.ofNumber r.input r.config (host.named + 1)).isPackage host.files = true) :
    Starts (Package.ofNumber r.input r.config (host.named + 1)).IsUnderstood host (r.run host).2 := by
  have hadmits := Package.admitsPackage_understood (p := Package.ofNumber r.input r.config (host.named + 1)) hroot
  generalize hp : Package.ofNumber r.input r.config (host.named + 1) = p at hadmits hpackage ⊢
  suffices hrun : Ends r.run host fun _ h => Starts p.IsUnderstood host h from hrun
  cases hproblem : r.inputProblem? host.files with
  | some problem =>
    rw [Run.run, ends_bind, ends_validate, hproblem]
    exact IsFrame.refl (K := Starts p.IsUnderstood) host
  | none =>
    have hcreate : Works (Starts p.IsUnderstood) (Package.create r.input r.config) :=
      works_freshNumber.bind fun _ => (works_plan _).bind fun _ => .pure _
    have hwork : Stays (Starts p.IsUnderstood host) Failure.AcceptsInput (r.package p)
        (Package.create r.input r.config host).2 :=
      (r.works_package hadmits).stays (hcreate host).1
    subst hp
    refine ends_run_package_of hdirectory hpackage hproblem hwork (fun _ _ h => h.1) (fun _ h => h.1) fun results h hr => ?_
    refine Ends.mono ((works_tellStatistics results).stays hr.1) fun told h' hr' => ?_
    cases told <;> exact hr'.1

/-- A host with a package that has one source, on which three children are to come. -/
def busyHost : Host :=
  { smallHost with
    files := ⟨smallFiles.entries.take 4 ++
      [(["pkg", "pyproject.toml"], .file [] false), (["pkg", "src"], .directory),
        (["pkg", "src", Package.launcherFile], .file [255] false)], []⟩
    upcoming := [Child.idle, { Child.idle with archive := true }, Child.idle] }

/-- All three programs are started. -/
theorem starts_understood_busy :
    (commands (smallRun.run busyHost).2).map (·.directory) =
        [some ("/tmp/" ++ Package.workName 1), some ("/tmp/" ++ Package.workName 1), some "/pkg"] ∧
      Starts (Package.ofNumber smallRun.input smallRun.config (busyHost.named + 1)).IsUnderstood busyHost
        (smallRun.run busyHost).2 :=
  ⟨by decide +kernel, starts_understood rfl (by decide +kernel) (by decide +kernel)⟩

/-- The small run, but its working directories are made under a relative path. -/
def relativeRun : Run :=
  { smallRun with config := Config.usual (Path.ofText "/home") (Path.ofText "tmp") "python3" }

/-- The working directory of that run. -/
def relativeWork : String :=
  "tmp/" ++ Package.workName 1

/-- A program that is started in a working directory under a relative path looks for the sources below
itself, where they are not. -/
theorem not_agrees_relative {command : Command} (hdirectory : command.directory = some relativeWork) :
    ¬command.Agrees (relativeWork ++ "/src") := by
  intro hagrees
  have hlocate := hagrees ⟨[(["tmp"], .directory), (["tmp", Package.workName 1], .directory),
    (["tmp", Package.workName 1, "src"], .directory)], []⟩
  rw [Files.startedWith, hdirectory] at hlocate
  revert hlocate
  decide +kernel

theorem not_starts_understood_relative :
    ¬Starts (Package.ofNumber relativeRun.input relativeRun.config (busyHost.named + 1)).IsUnderstood busyHost
      (relativeRun.run busyHost).2 := by
  rintro ⟨new, hcommands, hnew⟩
  have hfirst : (commands (relativeRun.run busyHost).2).head?.map (·.directory) = some (some relativeWork) := by
    decide +kernel
  rw [hcommands, show commands busyHost = [] from rfl, List.nil_append] at hfirst
  obtain ⟨command, hhead, hdirectory⟩ := Option.map_eq_some_iff.mp hfirst
  refine not_agrees_relative hdirectory ?_
  cases hnew command (List.mem_of_head? hhead) with
  | compile _ _ hsources | pack _ _ _ _ hsources _ => exact hsources
  | execute _ _ hpath _ =>
    have hne : some relativeWork ≠
        some (Package.ofNumber relativeRun.input relativeRun.config (busyHost.named + 1)).path.text := by
      decide +kernel
    exact absurd (hdirectory.symm.trans hpath) hne

end Run

end Stopwatch

import ConsumerCheck.FileSystem.Seed
import ConsumerCheck.Host.Launch
import ConsumerCheck.Proofs.FileSystem.Persistence
import ConsumerCheck.Proofs.Staging.Sources
import ConsumerCheck.Proofs.Text.Utf8
import ConsumerCheck.Proofs.Verification

/-!
# Which directory a run builds in

The build directory is made, and searched for the example, from the working directory of the run. CMake and the
example are started in it, so they take the same path to begin there. An absolute path leads to one place from
everywhere; a relative one does not, and CMake then builds in a directory inside the one that was made.

Principal results: `locate_of_absolute` — an absolute path leads to one place; `verify_one_directory` — a run
with an absolute build directory has one; `verify_two_directories` — a run with a relative one may have two.
-/

namespace ConsumerCheck

/-! ## Absolute paths -/

namespace FileSystem

/-- An absolute path leads to the same place from every directory. -/
theorem locate_of_absolute {p : Path} (h : p.isAbsolute = true) (fs : FileSystem)
    (wd wd' : Location) : fs.locate wd p = fs.locate wd' p := by
  rw [locate, locate, walk, walk, h]
  rfl

/-- A directory that was made is there. -/
theorem isDirectory_of_makeDirectories {fs fs' : FileSystem} {wd : Location} {p : Path}
    (hfs : fs.Consistent) (hp : p.components ≠ [])
    (h : fs.makeDirectories wd p = (.ok (), fs')) : fs'.isDirectory wd p = true :=
  (isDirectory_of_makeChain hfs h).resolve_left hp

end FileSystem

/-! ## The directory of a command -/

theorem Host.locate_of_directory {c : Context} {cmd : Command} {fs : FileSystem} {p : Path}
    {place : Location} (hcmd : cmd.directory = some p) (h : Host.directory c cmd fs = .ok place) :
    fs.locate c.workingDirectory p = .ok place := by
  simp only [Host.directory, hcmd] at h
  cases hlocate : fs.locate c.workingDirectory p with
  | error e =>
    rw [hlocate] at h
    cases h
  | ok q =>
    simp only [hlocate, bind, Except.bind] at h
    split at h
    · split at h
      · exact h
      · cases h
    · cases h

/-- An absolute path of the directory that a command works in leads there from there as well. -/
theorem Host.locate_again {c : Context} {cmd : Command} {fs : FileSystem} {p : Path}
    {place : Location} (habsolute : p.isAbsolute = true) (hcmd : cmd.directory = some p)
    (h : Host.directory c cmd fs = .ok place) :
    fs.locate c.workingDirectory p = .ok place ∧ fs.locate place p = .ok place := by
  have hlocate := Host.locate_of_directory hcmd h
  exact ⟨hlocate, (FileSystem.locate_of_absolute habsolute fs _ _).trans hlocate⟩

/-! ## The commands of a run -/

variable {σ : Type}

/-- With an absolute build directory the path of the example is absolute. -/
theorem SmokeTest.isAbsolute_locate {options : TestOptions} (h : options.buildDir.isAbsolute = true)
    (fs : FileSystem) (wd : Location) (settings : Settings) :
    (locate fs wd options settings).isAbsolute = true := by
  have hcandidates : ∀ p ∈ candidates options settings, p.isAbsolute = true := by
    simp [candidates, Path.isAbsolute_join_of_left, h]
  unfold locate
  cases hfind : (candidates options settings).find? (fs.isFile wd) with
  | none => exact Path.isAbsolute_join_of_left h _
  | some p => exact hcandidates p (List.mem_of_find?_eq_some hfind)

theorem CMakeExample.prefix_configureCommand (e : CMakeExample) :
    ["-S", e.options.sourceDir.display, "-B", e.options.buildDir.display] <+:
      e.configureCommand.arguments := by
  simp [configureCommand]

theorem CMakeExample.prefix_buildCommand (e : CMakeExample) :
    ["--build", e.options.buildDir.display] <+: e.buildCommand.arguments :=
  List.prefix_append _ _

/-- Staging leaves a consistent file system. -/
theorem consistent_importing {c : Context} {o : VerifyOptions} {w : World σ}
    (hfs : w.files.Consistent) {imported : ImportReport}
    (h : (importing c o w).1 = .ok imported) : (importing c o w).2.files.Consistent := by
  unfold importing importArtifacts at h ⊢
  rcases hstage : Staging.stage w.files c.workingDirectory o.imports o.settings with
    ⟨result, files, events⟩
  rw [hstage] at h
  obtain rfl : result = .ok imported := h
  obtain ⟨s, more, -, -, hcarry⟩ := Staging.stage_ok_cases hstage
  exact (Staging.carryOut_keeps hcarry hfs).1

/-- **A run with an absolute build directory has one**: the directory that was made, that each command works
in, that CMake is told and that is searched for the example; and what was found there is what is started. -/
theorem verify_one_directory {c : Context} {settings : Settings} {package source : Path}
    {directory : String} {r : Runner σ} {w : World σ} {o : VerifyOptions}
    (ho : o = .new settings package source (.ofText directory))
    (habsolute : (Path.ofText directory).isAbsolute = true) (hfs : w.files.Consistent) :
    (exchanged c o r w ≠ [] → ∃ files,
      (importing c o w).2.files.makeDirectories c.workingDirectory o.build.buildDir =
          (.ok (), files) ∧
        files.isDirectory c.workingDirectory o.build.buildDir = true) ∧
    ∀ cmd ∈ (exchanged c o r w).map (·.1), ∀ fs place, Host.directory c cmd fs = .ok place →
      fs.locate c.workingDirectory o.build.buildDir = .ok place ∧
      fs.locate c.workingDirectory o.test.buildDir = .ok place ∧
      ((["-S", source.display, "-B", directory] <+: cmd.arguments ∨
            ["--build", directory] <+: cmd.arguments) ∧
          fs.locate place (.ofText directory) = .ok place ∨
        cmd.program = SmokeTest.locate (building c o r w).2.files c.workingDirectory o.test
            o.settings ∧
          fs.locate place cmd.program = fs.locate c.workingDirectory cmd.program) := by
  obtain ⟨-, -, hcourse⟩ := verify_recording c o r w
  have hbuild : o.build.buildDir = .ofText directory := by rw [ho]; rfl
  have htest : o.test.buildDir = .ofText directory := by rw [ho]; rfl
  have hsource : o.build.sourceDir = source := by rw [ho]; rfl
  constructor
  · intro hne
    obtain ⟨imported, himported⟩ := hcourse.imported_of_ne_nil hne
    have hmade : (importing c o w).2.files.makeDirectories c.workingDirectory o.build.buildDir =
        (.ok (), _) := Prod.ext (hcourse.made_of_ne_nil hne) rfl
    exact ⟨_, hmade, FileSystem.isDirectory_of_makeDirectories
      (consistent_importing hfs himported)
      (Path.components_ne_nil_of_isAbsolute (hbuild ▸ habsolute)) hmade⟩
  · intro cmd hcmd fs place hplace
    rw [hbuild, htest]
    have hin := hcourse.commands_prefix.subset hcmd
    simp only [List.mem_cons, List.not_mem_nil, or_false] at hin
    rcases hin with rfl | rfl | rfl
    · obtain ⟨hlocate, hagain⟩ := Host.locate_again habsolute (congrArg some hbuild) hplace
      have hprefix := (exampleBuilt c o w).prefix_configureCommand
      rw [show (exampleBuilt c o w).options = o.build from rfl, hsource, hbuild,
        Path.display_ofText] at hprefix
      exact ⟨hlocate, hlocate, .inl ⟨.inl hprefix, hagain⟩⟩
    · obtain ⟨hlocate, hagain⟩ := Host.locate_again habsolute (congrArg some hbuild) hplace
      have hprefix := (exampleBuilt c o w).prefix_buildCommand
      rw [show (exampleBuilt c o w).options = o.build from rfl, hbuild, Path.display_ofText] at hprefix
      exact ⟨hlocate, hlocate, .inl ⟨.inr hprefix, hagain⟩⟩
    · obtain ⟨hlocate, -⟩ := Host.locate_again habsolute (congrArg some htest) hplace
      have hprogram : (exampleRun c o r w).program.isAbsolute = true :=
        SmokeTest.isAbsolute_locate (htest ▸ habsolute) _ _ _
      exact ⟨hlocate, hlocate, .inr ⟨rfl, FileSystem.locate_of_absolute hprogram fs _ _⟩⟩

/-! ### A build directory by two names -/

/-- A working directory with a package that has no files. -/
def workContext : Context := ⟨[Utf8.encode "work"], [], .ofText "/"⟩

def workFiles : World Unit :=
  .start (FileSystem.empty.plantAll [] [.directory (.ofText "/work/pkg")]) ()

/-- The usual options with a build directory. -/
def optionsAt (directory : String) : VerifyOptions :=
  .new .detect (.ofText "pkg") (.ofText "src") (.ofText directory)

/-- A build that leaves the example in that directory. -/
def buildAt (directory : String) : Runner Unit :=
  .leaving workContext.workingDirectory
    [.file (.ofText (directory ++ "/example")) (Utf8.encode "program") true]

/-- The files after that build. -/
abbrev filesAt (directory : String) : FileSystem :=
  (building workContext (optionsAt directory) (buildAt directory) workFiles).2.files

/-- The command that runs that example. -/
abbrev runAt (directory : String) : Command :=
  exampleRun workContext (optionsAt directory) (buildAt directory) workFiles

/-- Outside the working directory, and all the same one directory. -/
theorem verify_one_directory_outside :
    (filesAt "/out").isFile workContext.workingDirectory (runAt "/out").program = true ∧
      Host.directory workContext (runAt "/out") (filesAt "/out") = .ok [Utf8.encode "out"] ∧
      (filesAt "/out").locate workContext.workingDirectory (.ofText "/out") =
        .ok [Utf8.encode "out"] := by
  have hfs : workFiles.files.Consistent := .of_plain (by decide +kernel) (by decide +kernel)
  have hrun : runAt "/out" ∈ (exchanged workContext (optionsAt "/out") (buildAt "/out")
      workFiles).map (·.1) := by decide +kernel
  have hplace : Host.directory workContext (runAt "/out") (filesAt "/out") =
      .ok [Utf8.encode "out"] := by decide +kernel
  have hone := (verify_one_directory rfl (by decide +kernel) hfs).2 _ hrun _ _ hplace
  exact ⟨by decide +kernel, hplace, hone.1⟩

/-- **With a relative build directory CMake is told another one than the one it works in, and what was found
there is not what is started.** -/
theorem verify_two_directories :
    let place := [Utf8.encode "work", Utf8.encode "out"]
    let configure := (exampleBuilt workContext (optionsAt "out") workFiles).configureCommand
    (Host.directory workContext configure (filesAt "out") = .ok place ∧
        ["-S", "src", "-B", "out"] <+: configure.arguments ∧
        (filesAt "out").locate place (.ofText "out") ≠ .ok place) ∧
      (filesAt "out").isFile workContext.workingDirectory (runAt "out").program = true ∧
      Host.directory workContext (runAt "out") (filesAt "out") = .ok place ∧
      ((filesAt "out").locate place (runAt "out").program).isOk = false := by
  decide +kernel

end ConsumerCheck

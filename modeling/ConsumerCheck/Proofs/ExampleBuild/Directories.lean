import ConsumerCheck.Proofs.BuildDirectory
import ConsumerCheck.Proofs.ExampleBuild
import ConsumerCheck.Proofs.Exchange
import ConsumerCheck.Proofs.Text.Lines

/-!
# The directories that CMake is told

A build makes a directory and works in it, by its octets. CMake is told of it in two other forms: as an argument,
which is text, and as the value of a definition, where a backslash is written as a slash. A directory that is text
is the same in the first form; in the second it is if it has no backslash.

* `CMakeExample.searchKeys` — the definitions that hold the build directory.

Principal results: `mem_builtinDefinitions_searchKey` — their value; `build_directory` — where a build works;
`directories_named`; `directories_not_named` — what becomes of other directories.
-/

namespace ConsumerCheck.CMakeExample

variable {e : CMakeExample} {source build value : String} {σ : Type}

/-- The definitions that hold the build directory. -/
def searchKeys : List String := ["CMAKE_PREFIX_PATH", "CMAKE_MODULE_PATH"]

/-- Each of these definitions is there once, with the build directory as CMake takes it. -/
theorem mem_builtinDefinitions_searchKey {key : String} (hkey : key ∈ searchKeys) :
    (key, value) ∈ e.builtinDefinitions ↔ value = cmakePath e.options.buildDir := by
  unfold builtinDefinitions
  rcases List.mem_pair.1 hkey with rfl | rfl
  · cases e.settings.compilerVersion <;> cases e.isMultiConfig <;> simp
  · cases e.settings.compilerVersion <;> cases e.isMultiConfig <;> simp

theorem cmakePath_ofText (build : String) :
    cmakePath (.ofText build) = Text.replaceChar '\\' "/" build := by
  rw [cmakePath, Path.display_ofText]

/-- A directory is its own form in a definition exactly if it has no backslash. -/
theorem cmakePath_eq_iff : cmakePath (.ofText build) = build ↔ '\\' ∉ build.toList := by
  rw [cmakePath_ofText]
  exact Text.replaceChar_eq_self_iff (by decide)

/-- **A build works in its directory**: it is made before the first command is given, and both commands are given
in it. -/
theorem build_directory (e : CMakeExample) (c : Context) (r : Runner σ) (w : World σ) :
    ∃ asked, (e.build c r w).2.trace = w.trace ++ asked ∧
      asked <+: [e.configureCommand, e.buildCommand] ∧
      (∀ cmd ∈ asked, cmd.directory = some e.options.buildDir) ∧
      (asked ≠ [] → ∃ files, w.files.makeDirectories c.workingDirectory e.options.buildDir = (.ok (), files) ∧
        (w.files.Consistent → e.options.buildDir.isAbsolute = true →
          files.isDirectory c.workingDirectory e.options.buildDir = true)) := by
  obtain ⟨exchanged, -, htrace, hcourse⟩ := e.build_recording c r w []
  refine ⟨_, htrace, hcourse.commands_prefix, fun cmd hcmd => ?_, fun hne => ?_⟩
  · have hin := hcourse.commands_prefix.subset hcmd
    rcases List.mem_pair.1 hin with rfl | rfl
    · rfl
    · rfl
  · have hmade : w.files.makeDirectories c.workingDirectory e.options.buildDir = (.ok (), _) :=
      Prod.ext (hcourse.made_of_ne_nil fun hnil => hne (by rw [hnil]; rfl)) rfl
    exact ⟨_, hmade, fun hfs habsolute => FileSystem.isDirectory_of_makeDirectories hfs
      (Path.components_ne_nil_of_isAbsolute habsolute) hmade⟩

/-- **CMake is told the directories of the options**, where these are text: as arguments by both commands, octet by
octet, and by two definitions with each backslash written as a slash, so that it is told the same there exactly if
there is none. The build directory is the one that is made and that both commands work in. -/
theorem directories_named (e : CMakeExample) (hsource : e.options.sourceDir = .ofText source)
    (hbuild : e.options.buildDir = .ofText build) (habsolute : e.options.buildDir.isAbsolute = true) :
    ["-S", source, "-B", build] <+: e.configureCommand.arguments ∧
    ["--build", build] <+: e.buildCommand.arguments ∧
    (∀ key ∈ searchKeys, ∃ value, (∀ v, (key, v) ∈ e.builtinDefinitions ↔ v = value) ∧
      definitionArgument (key, value) ∈ e.configureCommand.arguments ∧
      value = Text.replaceChar '\\' "/" build ∧
      (Path.ofText value = e.options.buildDir ↔ '\\' ∉ build.toList)) ∧
    ∀ {σ : Type} (c : Context) (r : Runner σ) (w : World σ),
      ∃ asked, (e.build c r w).2.trace = w.trace ++ asked ∧
        asked <+: [e.configureCommand, e.buildCommand] ∧
        (∀ cmd ∈ asked, cmd.directory = some e.options.buildDir) ∧
        (asked ≠ [] → ∃ files,
          w.files.makeDirectories c.workingDirectory e.options.buildDir = (.ok (), files) ∧
          (w.files.Consistent → files.isDirectory c.workingDirectory e.options.buildDir = true)) := by
  refine ⟨?configure, ?build, fun key hkey => ⟨cmakePath e.options.buildDir,
    fun v => mem_builtinDefinitions_searchKey hkey, ?argument, ?value, ?same⟩, fun c r w => ?worked⟩
  case configure =>
    have hprefix := e.prefix_configureCommand
    rwa [hsource, hbuild, Path.display_ofText, Path.display_ofText] at hprefix
  case build =>
    have hprefix := e.prefix_buildCommand
    rwa [hbuild, Path.display_ofText] at hprefix
  case argument =>
    have hbuiltin := (mem_builtinDefinitions_searchKey (e := e) hkey).2 rfl
    rw [configureCommand_arguments]
    exact List.mem_append_right _ (List.mem_map_of_mem (List.mem_append_left _ hbuiltin))
  case value => rw [hbuild, cmakePath_ofText]
  case same =>
    rw [hbuild, ← cmakePath_eq_iff]
    constructor
    · intro heq
      have hdisplay := congrArg Path.display heq
      rwa [Path.display_ofText, Path.display_ofText] at hdisplay
    · exact congrArg Path.ofText
  case worked =>
    obtain ⟨asked, htrace, hprefix, hdirectory, hmade⟩ := e.build_directory c r w
    refine ⟨asked, htrace, hprefix, hdirectory, fun hne => ?_⟩
    obtain ⟨files, hfiles, hisdir⟩ := hmade hne
    exact ⟨files, hfiles, fun hfs => hisdir hfs habsolute⟩

/-- A build between two directories. -/
def between (source build : Path) : CMakeExample where
  settings := .detect
  options := ⟨source, build, none, [], none⟩
  cmake := .ofText "cmake"

/-- A backslash stays in the arguments and is a slash in the definitions. -/
theorem directories_named_backslash :
    let e := between (.ofText "/src") (.ofText "/a\\b")
    ["-S", "/src", "-B", "/a\\b"] <+: e.configureCommand.arguments ∧
      ["--build", "/a\\b"] <+: e.buildCommand.arguments ∧
      (∀ key ∈ searchKeys, (key, "/a/b") ∈ e.builtinDefinitions) ∧
      ∃ asked, (e.build workContext (.leaving [] []) workFiles).2.trace = workFiles.trace ++ asked ∧
        asked = [e.configureCommand, e.buildCommand] ∧
        ∀ cmd ∈ asked, cmd.directory = some (.ofText "/a\\b") := by
  intro e
  obtain ⟨hconfigure, hbuild, hdefinitions, hworked⟩ :=
    directories_named e rfl rfl (by decide +kernel)
  refine ⟨hconfigure, hbuild, fun key hkey => ?_, ?_⟩
  · obtain ⟨value, hvalue, -, rfl, -⟩ := hdefinitions key hkey
    exact (hvalue _).2 (by decide +kernel)
  · obtain ⟨asked, htrace, -, hdirectory, -⟩ := hworked workContext (.leaving [] []) workFiles
    refine ⟨asked, htrace, ?_, hdirectory⟩
    have hall : (e.build workContext (.leaving [] []) workFiles).2.trace =
        workFiles.trace ++ [e.configureCommand, e.buildCommand] := by
      decide +kernel
    exact List.append_cancel_left (htrace.symm.trans hall)

/-- An absolute path without the octet zero, and without the semicolon, which separates the values of a list. -/
def Nameable (p : Path) : Prop := p.isAbsolute = true ∧ 0x00 ∉ p.octets ∧ 0x3B ∉ p.octets

instance (p : Path) : Decidable (Nameable p) := inferInstanceAs (Decidable (_ ∧ _))

/-- **Not every directory is told as it is**: a backslash is lost in the definitions, and what is not UTF-8 is lost
everywhere. -/
theorem directories_not_named :
    (¬∀ e : CMakeExample, Nameable e.options.sourceDir → Nameable e.options.buildDir →
      ∀ value, ("CMAKE_PREFIX_PATH", value) ∈ e.builtinDefinitions →
        Path.ofText value = e.options.buildDir) ∧
    ¬∀ e : CMakeExample, Nameable e.options.sourceDir → Nameable e.options.buildDir →
      ∀ arg, ["-S", arg] <+: e.configureCommand.arguments → Path.ofText arg = e.options.sourceDir := by
  constructor
  · intro h
    have hsame := h (between (.ofText "/src") (.ofText "/a\\b")) (by decide +kernel) (by decide +kernel)
      "/a/b" (by decide +kernel)
    exact absurd hsame (by decide +kernel)
  · intro h
    have hsame := h (between ⟨[0x2F, 0xFF]⟩ (.ofText "/out")) (by decide +kernel) (by decide +kernel)
      "/\uFFFD" (by decide +kernel)
    exact absurd hsame (by decide +kernel)

end ConsumerCheck.CMakeExample

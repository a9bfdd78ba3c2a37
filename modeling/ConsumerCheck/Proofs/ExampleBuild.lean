import ConsumerCheck.ExampleBuild
import ConsumerCheck.Proofs.Text.Utf8
import Mathlib.Data.List.Basic

/-!
# What CMake is told

The command that configures has its flags in a fixed order, and only they begin with a dash if the directories
are absolute and the generator is not mistaken for a flag. So what CMake is told can be read off the flags: the
generator and the platform at most once, and the build type either as a definition or, where one build tree
holds several configurations, by the command that builds.

* `isFlag` — an argument that begins with a dash;
* `setsBuildType` — an argument that defines the build type, or something that begins like it;
* `BuildOptions.Proper` — the options of which this holds.

Principal results: `flags_configureCommand` — the flags of the command that configures;
`filter_setsBuildType` — those that define the build type; `isMultiConfig_of_vsPlatform` — a platform is asked
for only where the build type is not defined; `buildType_sent_once` — what CMake is told by both commands.
-/

namespace ConsumerCheck

/-- An argument that begins with a dash. -/
def isFlag (arg : String) : Bool := arg.toList.head? == some '-'

/-- A key that is that of the build type, or begins like it. -/
def isBuildTypeKey (key : String) : Bool := "CMAKE_BUILD_TYPE".toList.isPrefixOf key.toList

/-- An argument that defines the build type, or something that begins like it. -/
def setsBuildType (arg : String) : Bool := "-DCMAKE_BUILD_TYPE".toList.isPrefixOf arg.toList

/-- The directories are absolute, the generator is no flag, and no definition is one of the build type. -/
structure BuildOptions.Proper (options : BuildOptions) : Prop where
  sourceDir : options.sourceDir.isAbsolute = true
  buildDir : options.buildDir.isAbsolute = true
  generator : ∀ g, options.generator = some g → isFlag g = false
  definitions : ∀ d ∈ options.definitions, isBuildTypeKey d.1 = false

/-- A flag with its value, if there is one. -/
def flagWith (flag : String) : Option String → List String
  | some value => [flag, value]
  | none => []

theorem filter_flagWith {flag : String} {value : Option String} (hflag : isFlag flag = true)
    (hvalue : ∀ v, value = some v → isFlag v = false) :
    (flagWith flag value).filter isFlag = if value.isSome then [flag] else [] := by
  cases value with
  | none => rfl
  | some v => simp [flagWith, hflag, hvalue v rfl]

/-- What follows a flag that is there once. -/
theorem eq_of_infix_of_count_le_one {flag x y : String} {front back : List String}
    (hcount : (front ++ flag :: y :: back).count flag ≤ 1)
    (h : [flag, x] <:+: front ++ flag :: y :: back) : x = y := by
  rw [List.count_append, List.count_cons_self] at hcount
  have hfront : flag ∉ front := List.count_eq_zero.1 (by omega)
  have hback : flag ∉ y :: back := List.count_eq_zero.1 (by omega)
  obtain ⟨s, t, h⟩ := h
  rw [List.append_assoc] at h
  obtain ⟨-, -, h⟩ := (List.append_cons_inj_of_notMem hfront hback).1 h.symm
  exact (List.cons.inj h).1.symm

/-- What begins a text before a character that it does not have itself. -/
theorem prefix_of_not_mem {c : Char} {cs before behind : List Char} (hc : c ∉ cs)
    (h : cs <+: before ++ c :: behind) : cs <+: before := by
  have hbefore : before ++ [c] <+: before ++ c :: behind := ⟨behind, by simp⟩
  rcases List.prefix_or_prefix_of_prefix h hbefore with hle | hle
  · rcases List.prefix_concat_iff.1 hle with rfl | hle
    · simp at hc
    · exact hle
  · exact absurd (hle.subset (by simp)) hc

namespace CMakeExample

variable {e : CMakeExample}

/-! ## Flags -/

theorem isFlag_display {p : Path} (h : p.isAbsolute = true) : isFlag p.display = false := by
  rw [isFlag, Path.head?_display_of_isAbsolute h]
  rfl

theorem isFlag_definitionArgument (d : String × String) : isFlag (definitionArgument d) = true := by
  simp [isFlag, definitionArgument]

/-- A generator is asked for by the caller, or it is the one for the usual compilers on Windows. -/
theorem generator_eq_some {g : String} (hg : e.generator = some g) :
    e.options.generator = some g ∨ g = "MinGW Makefiles" := by
  unfold generator at hg
  split at hg
  · rename_i g' hg'
    rw [← Option.some.inj hg]
    exact .inl hg'
  · dsimp only at hg
    split at hg
    · exact .inr (Option.some.inj hg).symm
    · cases hg

theorem isFlag_generator (h : e.options.Proper) {g : String} (hg : e.generator = some g) :
    isFlag g = false := by
  rcases generator_eq_some hg with hasked | rfl
  · exact h.generator g hasked
  · simp [isFlag]

theorem isFlag_vsPlatform {platform : String} (h : e.vsPlatform = some platform) :
    isFlag platform = false := by
  unfold vsPlatform at h
  split at h
  · split at h <;> cases h <;> simp [isFlag]
  · cases h

theorem configureCommand_arguments (e : CMakeExample) :
    e.configureCommand.arguments =
      ["-S", e.options.sourceDir.display, "-B", e.options.buildDir.display] ++
        flagWith "-G" e.generator ++ flagWith "-A" e.vsPlatform ++
        e.definitions.map definitionArgument := by
  unfold configureCommand flagWith
  cases e.generator <;> cases e.vsPlatform <;> rfl

/-- **The flags of the command that configures.** -/
theorem flags_configureCommand (h : e.options.Proper) :
    e.configureCommand.arguments.filter isFlag =
      ["-S", "-B"] ++ (if e.generator.isSome then ["-G"] else []) ++
        (if e.vsPlatform.isSome then ["-A"] else []) ++ e.definitions.map definitionArgument := by
  have hdirectories : ["-S", e.options.sourceDir.display, "-B", e.options.buildDir.display].filter
      isFlag = ["-S", "-B"] := by
    have hs : isFlag "-S" = true := by decide
    have hb : isFlag "-B" = true := by decide
    simp [hs, hb, isFlag_display h.sourceDir, isFlag_display h.buildDir]
  have hdefinitions : (e.definitions.map definitionArgument).filter isFlag =
      e.definitions.map definitionArgument :=
    List.filter_eq_self.2 <| List.forall_mem_map.2 fun d _ => isFlag_definitionArgument d
  rw [configureCommand_arguments, List.filter_append, List.filter_append, List.filter_append,
    hdirectories, hdefinitions, filter_flagWith (by decide) fun _ => isFlag_generator h,
    filter_flagWith (by decide) fun _ => isFlag_vsPlatform]

theorem count_definitions {flag : String} (h : ¬"-D".toList <+: flag.toList)
    (ds : List (String × String)) : (ds.map definitionArgument).count flag = 0 := by
  refine List.count_eq_zero.2 fun hmem => ?_
  obtain ⟨d, -, rfl⟩ := List.mem_map.1 hmem
  exact h (by simp [definitionArgument])

theorem count_generatorFlag (h : e.options.Proper) :
    e.configureCommand.arguments.count "-G" = if e.generator.isSome then 1 else 0 := by
  rw [← List.count_filter (by decide : isFlag "-G" = true), flags_configureCommand h,
    List.count_append, count_definitions (by simp)]
  cases e.generator.isSome <;> cases e.vsPlatform.isSome <;> simp

theorem count_platformFlag (h : e.options.Proper) :
    e.configureCommand.arguments.count "-A" = if e.vsPlatform.isSome then 1 else 0 := by
  rw [← List.count_filter (by decide : isFlag "-A" = true), flags_configureCommand h,
    List.count_append, count_definitions (by simp)]
  cases e.generator.isSome <;> cases e.vsPlatform.isSome <;> simp

theorem vsPlatform_of_mem (h : e.options.Proper)
    (hmem : "-A" ∈ e.configureCommand.arguments) : e.vsPlatform.isSome = true := by
  rw [← List.count_pos_iff, count_platformFlag h] at hmem
  split at hmem
  · assumption
  · cases hmem

/-- What follows the flag for a generator is the generator. -/
theorem generator_of_infix (h : e.options.Proper) {g : String}
    (hg : ["-G", g] <:+: e.configureCommand.arguments) : e.generator = some g := by
  have hcount := count_generatorFlag h
  cases hgenerator : e.generator with
  | none =>
    rw [hgenerator] at hcount
    exact absurd (hg.subset List.mem_cons_self) (List.count_eq_zero.1 hcount)
  | some g' =>
    have harguments : e.configureCommand.arguments =
        ["-S", e.options.sourceDir.display, "-B", e.options.buildDir.display] ++ "-G" :: g' ::
          (flagWith "-A" e.vsPlatform ++ e.definitions.map definitionArgument) := by
      simp [configureCommand_arguments, hgenerator, flagWith]
    rw [harguments] at hcount hg
    rw [eq_of_infix_of_count_le_one (by rw [hcount]; split <;> simp) hg]

/-! ## The build type -/

/-- A definition is one of the build type exactly if its key is: the key ends at an equals sign. -/
theorem setsBuildType_definitionArgument (d : String × String) :
    setsBuildType (definitionArgument d) = isBuildTypeKey d.1 := by
  rw [Bool.eq_iff_iff, setsBuildType, isBuildTypeKey, List.isPrefixOf_iff_prefix,
    List.isPrefixOf_iff_prefix]
  have hargument : (definitionArgument d).toList = '-' :: 'D' :: (d.1.toList ++ '=' :: d.2.toList) := by
    simp [definitionArgument]
  have hname : "-DCMAKE_BUILD_TYPE".toList = '-' :: 'D' :: "CMAKE_BUILD_TYPE".toList := by simp
  rw [hargument, hname, List.cons_prefix_cons, List.cons_prefix_cons]
  simp only [true_and]
  exact ⟨prefix_of_not_mem (by simp), fun hprefix => hprefix.trans (List.prefix_append _ _)⟩

/-- Of the definitions that every build has, that of the build type is there unless one build tree holds
several configurations. -/
theorem filter_builtinDefinitions (e : CMakeExample) :
    e.builtinDefinitions.filter (isBuildTypeKey ·.1) =
      if e.isMultiConfig then [] else [("CMAKE_BUILD_TYPE", e.settings.buildType)] := by
  unfold builtinDefinitions
  cases e.settings.compilerVersion <;> cases e.isMultiConfig <;> simp [isBuildTypeKey]

theorem isFlag_of_setsBuildType {arg : String} (h : setsBuildType arg = true) :
    isFlag arg = true := by
  obtain ⟨rest, hrest⟩ := List.isPrefixOf_iff_prefix.1 h
  rw [isFlag, ← hrest]
  simp

/-- **The arguments that define the build type.** -/
theorem filter_setsBuildType (h : e.options.Proper) :
    e.configureCommand.arguments.filter setsBuildType =
      if e.isMultiConfig then [] else ["-DCMAKE_BUILD_TYPE=" ++ e.settings.buildType] := by
  have hflags : e.configureCommand.arguments.filter setsBuildType =
      (e.configureCommand.arguments.filter isFlag).filter setsBuildType := by
    rw [List.filter_filter]
    refine List.filter_congr fun arg _ => ?_
    cases hsets : setsBuildType arg with
    | false => rfl
    | true => rw [isFlag_of_setsBuildType hsets]; rfl
  have huser : e.options.definitions.filter (isBuildTypeKey ·.1) = [] :=
    List.filter_eq_nil_iff.2 fun d hd => by simp [h.definitions d hd]
  have hdefinitions : (e.definitions.map definitionArgument).filter setsBuildType =
      if e.isMultiConfig then [] else ["-DCMAKE_BUILD_TYPE=" ++ e.settings.buildType] := by
    have hkeys : setsBuildType ∘ definitionArgument = (isBuildTypeKey ·.1) :=
      funext setsBuildType_definitionArgument
    rw [List.filter_map, hkeys, definitions, List.filter_append, huser, filter_builtinDefinitions,
      List.append_nil]
    split
    · rfl
    · simp [definitionArgument]
  have hothers : ∀ arg ∈ ["-S", "-B", "-G", "-A"], setsBuildType arg = false := by decide
  rw [hflags, flags_configureCommand h, List.filter_append, hdefinitions]
  cases e.generator.isSome <;> cases e.vsPlatform.isSome <;> simp [hothers]

/-- A platform is asked of Visual Studio only, and so only where one build tree holds several
configurations. -/
theorem isMultiConfig_of_vsPlatform (h : e.vsPlatform.isSome = true) :
    e.settings.isMsvc = true ∧ e.generator.all isVisualStudio = true ∧ e.isMultiConfig = true := by
  have hboth : e.settings.isMsvc = true ∧ e.generator.all isVisualStudio = true := by
    unfold vsPlatform at h
    split at h
    · rename_i hboth
      exact Bool.and_eq_true_iff.1 hboth
    · cases h
  refine ⟨hboth.1, hboth.2, ?_⟩
  unfold isMultiConfig
  cases hg : e.generator with
  | none => exact hboth.1
  | some g =>
    rw [hg] at hboth
    simp [show isVisualStudio g = true from hboth.2]

/-! ## The command that builds -/

theorem not_mem_buildDirectory (h : e.options.Proper) :
    "--config" ∉ ["--build", e.options.buildDir.display] := by
  have hdisplay := isFlag_display h.buildDir
  have hconfig : isFlag "--config" = true := by decide
  simp only [List.mem_cons, List.not_mem_nil, or_false, not_or]
  refine ⟨by simp, fun heq => ?_⟩
  rw [← heq, hconfig] at hdisplay
  cases hdisplay

end CMakeExample

/-- **The build type reaches CMake once**: as a definition, or by the command that builds. The generator and
the platform are asked for at most once, and a platform only of Visual Studio, where the build type is not
defined. -/
theorem buildType_sent_once {e : CMakeExample} (h : e.options.Proper) :
    let configure := e.configureCommand.arguments
    let build := e.buildCommand.arguments
    (configure.filter setsBuildType = ["-DCMAKE_BUILD_TYPE=" ++ e.settings.buildType] ∧
          "--config" ∉ build ∨
        configure.filter setsBuildType = [] ∧
          ∃ front, "--config" ∉ front ∧ build = front ++ ["--config", e.settings.buildType]) ∧
      configure.count "-G" ≤ 1 ∧ configure.count "-A" ≤ 1 ∧
      ("-A" ∈ configure →
        (Text.toLower e.settings.compiler = "visual studio" ∨ Text.toLower e.settings.compiler = "msvc") ∧
        (∀ g, ["-G", g] <:+: configure → CMakeExample.isVisualStudio g = true) ∧
        configure.filter setsBuildType = [] ∧ ["--config", e.settings.buildType] <:+ build) := by
  intro configure build
  have hsets := CMakeExample.filter_setsBuildType h
  have hbuild : build = ["--build", e.options.buildDir.display] ++
      (if e.isMultiConfig then ["--config", e.settings.buildType] else []) := rfl
  have hfront := CMakeExample.not_mem_buildDirectory h
  refine ⟨?_, ?_, ?_, ?_⟩
  · cases hmulti : e.isMultiConfig with
    | false =>
      refine .inl ⟨by simpa [hmulti] using hsets, ?_⟩
      simpa [hbuild, hmulti] using hfront
    | true =>
      refine .inr ⟨by simpa [hmulti] using hsets, _, hfront, ?_⟩
      simp [hbuild, hmulti]
  · rw [CMakeExample.count_generatorFlag h]
    split <;> simp
  · rw [CMakeExample.count_platformFlag h]
    split <;> simp
  · intro hmem
    obtain ⟨hmsvc, hvs, hmulti⟩ :=
      CMakeExample.isMultiConfig_of_vsPlatform (CMakeExample.vsPlatform_of_mem h hmem)
    refine ⟨Settings.isMsvc_iff.1 hmsvc, fun g hg => ?_, by simpa [hmulti] using hsets, ?_⟩
    · rw [CMakeExample.generator_of_infix h hg] at hvs
      exact hvs
    · exact ⟨["--build", e.options.buildDir.display], by simp [hbuild, hmulti]⟩

/-- A build with Visual Studio and a definition of the caller. -/
def studioBuild : CMakeExample where
  settings :=
    { Settings.detect with os := "Windows", compiler := "Visual Studio", buildType := "Debug" }
  options := ⟨.ofText "/work/src", .ofText "/work/build", some "Visual Studio 17 2022",
    [("BUILD_TESTING", "OFF")], none⟩
  cmake := .ofText "cmake"

theorem buildType_sent_once_studio :
    studioBuild.options.Proper ∧ "-A" ∈ studioBuild.configureCommand.arguments ∧
      studioBuild.configureCommand.arguments.filter setsBuildType = [] ∧
      ["--config", "Debug"] <:+ studioBuild.buildCommand.arguments := by
  have hproper : studioBuild.options.Proper := by
    refine ⟨by decide, by decide, ?_, by decide⟩
    rintro g ⟨⟩
    decide
  have hplatform : "-A" ∈ studioBuild.configureCommand.arguments := by decide +kernel
  obtain ⟨-, -, hsets, hconfig⟩ := (buildType_sent_once hproper).2.2.2 hplatform
  exact ⟨hproper, hplatform, hsets, hconfig⟩

end ConsumerCheck

import ConsumerCheck.Proofs.CommandLine.Layout
import ConsumerCheck.Proofs.ExampleBuild

/-!
# Definitions read back

A definition is a key and a value with an equals sign between them, and is taken apart at its first one. So it is
read back from the command line if its key has none and is not empty. The keys of definitions that were read, and
of those that every build has, are such keys.

* `IsKey` — a key that can be read back;
* `isDefinition` — an argument that CMake reads as a definition;
* `definitionsIn` — what is read from such arguments.

Principal results: `readDefinition_append_iff` — one definition; `definitionsIn_configureCommand` — all arguments
of the command that configures; `definitions_read_back`; `definitions_not_read_back` — a generator that looks like
a definition, and a key that nothing has read.
-/

namespace ConsumerCheck

/-- A key that can stand before the first equals sign. -/
def IsKey (key : String) : Prop := key ≠ "" ∧ '=' ∉ key.toList

instance (key : String) : Decidable (IsKey key) := inferInstanceAs (Decidable (_ ∧ _))

/-- An argument that begins like a definition. -/
def isDefinition (arg : String) : Bool := "-D".toList.isPrefixOf arg.toList

namespace CommandLine

variable {text key value : String} {d : String × String}

/-! ## One definition -/

/-- What is read has a key that can be read back. -/
theorem isKey_of_readDefinition (h : readDefinition text = .ok d) : IsKey d.1 := by
  unfold readDefinition at h
  dsimp only at h
  split at h
  · cases h
  · rename_i hkey
    rw [not_or] at hkey
    cases h
    constructor
    · intro hempty
      exact hkey.1 (by simpa using congrArg String.toList hempty)
    · intro hmem
      rw [String.toList_ofList] at hmem
      simpa using List.mem_takeWhile_imp hmem

/-- **A definition is read back exactly if its key can be.** -/
theorem readDefinition_append_iff :
    readDefinition (key ++ "=" ++ value) = .ok (key, value) ↔ IsKey key := by
  constructor
  · exact isKey_of_readDefinition
  · rintro ⟨hempty, heq⟩
    have htext : (key ++ "=" ++ value).toList = key.toList ++ '=' :: value.toList := by simp
    have hall : ∀ c ∈ key.toList, (c != '=') = true := by
      intro c hc
      exact bne_iff_ne.2 fun h => heq (h ▸ hc)
    have hkey : (key.toList ++ '=' :: value.toList).takeWhile (· != '=') = key.toList := by
      rw [List.takeWhile_append_of_pos hall, List.takeWhile_cons_of_neg (by simp), List.append_nil]
    have hvalue : (key.toList ++ '=' :: value.toList).drop (key.toList.length + 1) = value.toList := by
      rw [List.drop_append]
      simp
    have hne : ¬(key.toList = [] ∨ key.toList.length = (key.toList ++ '=' :: value.toList).length) := by
      simpa using hempty
    unfold readDefinition
    rw [htext]
    dsimp only
    rw [hkey, hvalue, if_neg hne, String.ofList_toList, String.ofList_toList]

/-! ## All arguments -/

/-- What is read from the arguments that begin like definitions, without their beginning. -/
def definitionsIn (arguments : List String) : List (Except UsageError (String × String)) :=
  (arguments.filter isDefinition).map fun arg => readDefinition (String.ofList (arg.toList.drop 2))

theorem definitionsIn_append (front back : List String) :
    definitionsIn (front ++ back) = definitionsIn front ++ definitionsIn back := by
  rw [definitionsIn, List.filter_append, List.map_append]
  rfl

theorem definitionsIn_eq_nil {arguments : List String} (h : ∀ arg ∈ arguments, isDefinition arg = false) :
    definitionsIn arguments = [] := by
  rw [definitionsIn, List.filter_eq_nil_iff.2 fun arg harg => by simp [h arg harg], List.map_nil]

theorem definitionsIn_flagWith {flag : String} {value : Option String} (hflag : isDefinition flag = false)
    (hvalue : ∀ v, value = some v → isDefinition v = false) :
    definitionsIn (flagWith flag value) = [] := by
  cases value with
  | none => rfl
  | some v =>
    exact definitionsIn_eq_nil
      (List.forall_mem_cons.2 ⟨hflag, List.forall_mem_singleton.2 (hvalue v rfl)⟩)

theorem definitionsIn_map (definitions : List (String × String)) :
    definitionsIn (definitions.map CMakeExample.definitionArgument) =
      definitions.map fun d => readDefinition (d.1 ++ "=" ++ d.2) := by
  induction definitions with
  | nil => rfl
  | cons d rest ih =>
    have hbegins : isDefinition (CMakeExample.definitionArgument d) = true := by
      simp [isDefinition, CMakeExample.definitionArgument]
    have hrest : String.ofList ((CMakeExample.definitionArgument d).toList.drop 2) =
        d.1 ++ "=" ++ d.2 := by
      rw [← String.toList_inj, String.toList_ofList]
      simp [CMakeExample.definitionArgument]
    rw [List.map_cons, definitionsIn, List.filter_cons_of_pos hbegins, List.map_cons, hrest,
      List.map_cons, ← ih]
    rfl

end CommandLine

open CommandLine

/-- What does not begin with a dash is no definition. -/
theorem isDefinition_of_isFlag {arg : String} (h : isFlag arg = false) : isDefinition arg = false := by
  rw [← Bool.not_eq_true] at h ⊢
  intro hbegins
  obtain ⟨rest, hrest⟩ := List.isPrefixOf_iff_prefix.1 hbegins
  exact h (by rw [isFlag, ← hrest]; rfl)

namespace CMakeExample

variable {e : CMakeExample}

/-- Keys of every build can be read back. -/
theorem isKey_builtinDefinitions {d : String × String} (h : d ∈ e.builtinDefinitions) : IsKey d.1 := by
  have hkeys : ∀ key ∈ e.builtinDefinitions.map (·.1), IsKey key := by
    unfold builtinDefinitions
    cases e.settings.compilerVersion <;> cases e.isMultiConfig <;> simp [IsKey]
  exact hkeys d.1 (List.mem_map_of_mem h)

/-- **What is read from the command that configures are its definitions**, and nothing else if the directories are
absolute and the generator does not look like a definition. -/
theorem definitionsIn_configureCommand (hsource : e.options.sourceDir.isAbsolute = true)
    (hbuild : e.options.buildDir.isAbsolute = true)
    (hgenerator : ∀ g, e.options.generator = some g → isDefinition g = false) :
    definitionsIn e.configureCommand.arguments =
      e.definitions.map fun d => readDefinition (d.1 ++ "=" ++ d.2) := by
  have hdirectories : definitionsIn
      ["-S", e.options.sourceDir.display, "-B", e.options.buildDir.display] = [] := by
    refine definitionsIn_eq_nil (List.forall_mem_cons.2 ⟨by decide, List.forall_mem_cons.2 ⟨?_,
      List.forall_mem_cons.2 ⟨by decide, List.forall_mem_singleton.2 ?_⟩⟩⟩)
    · exact isDefinition_of_isFlag (isFlag_display hsource)
    · exact isDefinition_of_isFlag (isFlag_display hbuild)
  have hgenerators : definitionsIn (flagWith "-G" e.generator) = [] := by
    refine definitionsIn_flagWith (by decide) fun g hg => ?_
    rcases generator_eq_some hg with hasked | rfl
    · exact hgenerator g hasked
    · decide
  have hplatforms : definitionsIn (flagWith "-A" e.vsPlatform) = [] :=
    definitionsIn_flagWith (by decide) fun _ hplatform =>
      isDefinition_of_isFlag (isFlag_vsPlatform hplatform)
  rw [configureCommand_arguments, definitionsIn_append, definitionsIn_append, definitionsIn_append,
    hdirectories, hgenerators, hplatforms, definitionsIn_map]
  rfl

end CMakeExample

namespace CommandLine

/-- **The definitions survive the command line**: what is read from the command that configures are the definitions
of the resolved options, in their order. The flags are those that were accepted, the keys of the configuration can
be read back, and the generator does not look like a definition. -/
theorem definitions_read_back {cwd : Path} {config : Config} {flags : StepFlags}
    (hcwd : cwd.isAbsolute = true)
    (hflags : ∀ d ∈ flags.definitions, ∃ text, readDefinition text = .ok d)
    (hkeys : ∀ d ∈ config.build.definitions.entries, IsKey d.1)
    (hgenerator : ∀ g, (resolveOptions cwd config flags).build.generator = some g → isDefinition g = false)
    (settings : Settings) (cmake : Path) :
    let e : CMakeExample := ⟨settings, (resolveOptions cwd config flags).build, cmake⟩
    definitionsIn e.configureCommand.arguments = e.definitions.map .ok := by
  intro e
  rw [e.definitionsIn_configureCommand (isAbsolute_resolveSourceDir hcwd config flags)
    (isAbsolute_resolveBuildDir hcwd config flags) hgenerator]
  refine List.map_congr_left fun d hd => readDefinition_append_iff.2 ?_
  -- every build has the first of the definitions, the configuration the next, and the flags the last
  rcases List.mem_append.1 hd with hbuiltin | hgiven
  · exact CMakeExample.isKey_builtinDefinitions hbuiltin
  · rcases List.mem_append.1 hgiven with hconfigured | hflag
    · exact hkeys d hconfigured
    · obtain ⟨text, hread⟩ := hflags d hflag
      exact isKey_of_readDefinition hread

/-- A configuration with nothing but these definitions. -/
def configDefining (definitions : List (String × String)) : Config :=
  { Config.empty with build := { BuildConfig.empty with definitions := .ofList definitions } }

/-- Flags for nothing but a generator and these definitions. -/
def flagsDefining (generator : Option String) (definitions : List (String × String)) : StepFlags :=
  ⟨.none, none, none, none, generator, definitions, false⟩

/-- Values may have equals signs of their own, and be empty. -/
theorem definitions_read_back_equals :
    let options := resolveOptions (.ofText "/w") (configDefining [("A", "x=y"), ("C", "")])
      (flagsDefining (some "Ninja") [("B", "=1")])
    let e : CMakeExample := ⟨.detect, options.build, .ofText "cmake"⟩
    definitionsIn e.configureCommand.arguments = e.definitions.map .ok ∧
      [("A", "x=y"), ("C", ""), ("B", "=1")] <:+ e.definitions := by
  intro options e
  refine ⟨definitions_read_back (by decide +kernel) ?_ (by decide +kernel) ?_ .detect _, by decide +kernel⟩
  · intro d hd
    obtain rfl := List.mem_singleton.1 hd
    exact ⟨"B==1", by decide +kernel⟩
  · intro g hg
    obtain rfl : "Ninja" = g := Option.some.inj hg
    decide

/-- **Not all that looks like a definition is one, and not every definition survives**: a generator may look like
one, and a key of a configuration may have an equals sign of its own. -/
theorem definitions_not_read_back :
    (¬∀ (cwd : Path) (config : Config) (flags : StepFlags) (settings : Settings) (cmake : Path),
      cwd.isAbsolute = true → (∀ d ∈ flags.definitions, ∃ text, readDefinition text = .ok d) →
      let e : CMakeExample := ⟨settings, (resolveOptions cwd config flags).build, cmake⟩
      definitionsIn e.configureCommand.arguments = e.definitions.map .ok) ∧
    ¬∀ (cwd : Path) (config : Config) (flags : StepFlags) (settings : Settings) (cmake : Path),
      cwd.isAbsolute = true → (∀ d ∈ flags.definitions, ∃ text, readDefinition text = .ok d) →
      (resolveOptions cwd config flags).build.generator = none →
      let e : CMakeExample := ⟨settings, (resolveOptions cwd config flags).build, cmake⟩
      definitionsIn e.configureCommand.arguments = e.definitions.map .ok := by
  constructor
  · intro h
    have hsame := h (.ofText "/w") (configDefining []) (flagsDefining (some "-DX=1") []) .detect
      (.ofText "cmake") (by decide +kernel) (by simp [flagsDefining])
    exact absurd hsame (by decide +kernel)
  · intro h
    have hsame := h (.ofText "/w") (configDefining [("A=B", "C")]) (flagsDefining none []) .detect
      (.ofText "cmake") (by decide +kernel) (by simp [flagsDefining]) rfl
    exact absurd hsame (by decide +kernel)

end CommandLine

end ConsumerCheck

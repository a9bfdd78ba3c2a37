import ConsumerCheck.ExampleBuild
import ConsumerCheck.FileSystem.Seed
import ConsumerCheck.Proofs.Config.Precedence

/-!
# Which definition counts

CMake is given cache definitions in a row: those that every build has, those of the configuration and those
of the flags. Of several definitions of one key the last counts, so a row says which source wins.

Principal result: `definitions_precedence` — what CMake is given and what it makes of it.
-/

namespace ConsumerCheck

theorem CMakeExample.nodup_builtinDefinitions (e : CMakeExample) :
    (e.builtinDefinitions.map (·.1)).Nodup := by
  unfold builtinDefinitions
  cases e.settings.compilerVersion <;> cases e.isMultiConfig <;> simp

namespace CommandLine

open Config (Layers)

/-- **CMake is given the definitions that every build has, those of the configuration in the order of their
keys, and those of the flags as they stand.** So the value of a key is that of the last flag for it; if there
is none, that of the highest layer that defines it; and if there is none, that of every build. -/
theorem definitions_precedence (l : Layers) (cwd : Path) (flags : StepFlags) (settings : Settings)
    (cmake : Path) :
    let e : CMakeExample := ⟨settings, (resolveOptions cwd l.merged flags).build, cmake⟩
    let configured := l.merged.build.definitions.entries
    e.definitions = e.builtinDefinitions ++ configured ++ flags.definitions ∧
    (e.builtinDefinitions.map (·.1)).Nodup ∧
    configured.Pairwise (fun a b => a.1 < b.1) ∧
    (∀ key value, (key, value) ∈ configured ↔
      l.highest (·.build.definitions.get? key) = some value) ∧
    (∀ key, inForce e.definitions key =
      (inForce flags.definitions key <|> l.highest (·.build.definitions.get? key) <|>
        e.builtinDefinitions.lookup key)) ∧
    e.definitions.map CMakeExample.definitionArgument <:+ e.configureCommand.arguments ∧
    ∀ fs wd global project explicit, l.InFiles fs wd global project explicit →
      ∃ events, Config.loadLayers fs wd global project explicit = (.ok l.merged, events) := by
  intro e configured
  have hrow : e.definitions = e.builtinDefinitions ++ configured ++ flags.definitions :=
    (List.append_assoc ..).symm
  have hhighest (key : String) := (Config.overriding_definition key).merged l
  refine ⟨hrow, e.nodup_builtinDefinitions, l.merged.build.definitions.sorted, ?_, ?_,
    List.suffix_append .., fun _ _ _ _ _ => Config.loadLayers_eq⟩
  · intro key value
    rw [← hhighest]
    exact Definitions.mem_entries_iff _
  · intro key
    rw [hrow, inForce_append, inForce_append, ← hhighest,
      inForce_eq_lookup l.merged.build.definitions.nodup_keys,
      inForce_eq_lookup e.nodup_builtinDefinitions]
    rfl

/-- The user's file and the project's both define `A`, and the user's another build type. -/
def defining : FileSystem :=
  FileSystem.empty.plantAll [] [
    .file (.ofText "user")
      (Utf8.encode "build.definitions = \x7b CMAKE_BUILD_TYPE = \"Fast\", A = \"1\" \x7d") false,
    .file (.ofText "project") (Utf8.encode "build.definitions = \x7b B = \"2\", A = \"2\" \x7d") false]

/-- What these files say. -/
def definingLayers : Layers where
  global := some { Config.empty with
    build := { BuildConfig.empty with
      definitions := .ofList [("CMAKE_BUILD_TYPE", "Fast"), ("A", "1")] } }
  project := some { Config.empty with
    build := { BuildConfig.empty with definitions := .ofList [("B", "2"), ("A", "2")] } }
  explicit := none

/-- The flags define `B` twice. -/
def definingFlags : StepFlags :=
  ⟨.none, none, none, none, none, [("B", "3"), ("B", "4")], false⟩

/-- Each of the three sources decides one key, and the user's file one that every build has. -/
theorem definitions_precedence_shadowed :
    let e : CMakeExample :=
      ⟨.detect, (resolveOptions (.ofText "/w") definingLayers.merged definingFlags).build, .ofText "cmake"⟩
    definingLayers.InFiles defining [] (some (.ofText "user")) (.ofText "project") none ∧
    (∃ events, Config.loadLayers defining [] (some (.ofText "user")) (.ofText "project") none =
      (.ok definingLayers.merged, events)) ∧
    inForce e.definitions "A" = some "2" ∧ inForce e.definitions "B" = some "4" ∧
      inForce e.definitions "CMAKE_BUILD_TYPE" = some "Fast" ∧
      inForce e.definitions "CONAN_EXPORTED" = some "1" := by
  intro e
  have hfiles : definingLayers.InFiles defining [] (some (.ofText "user")) (.ofText "project") none :=
    ⟨show Config.Holds defining [] (.ofText "user") definingLayers.global by decide +kernel,
      by decide +kernel, rfl⟩
  obtain ⟨-, -, -, -, hforce, -, hload⟩ :=
    definitions_precedence definingLayers (.ofText "/w") definingFlags .detect (.ofText "cmake")
  refine ⟨hfiles, hload _ _ _ _ _ hfiles, ?_, ?_, ?_, ?_⟩
  all_goals
    rw [show inForce e.definitions _ = _ from hforce _]
    decide +kernel

end CommandLine

end ConsumerCheck

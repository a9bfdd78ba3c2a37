import ConsumerCheck.FileSystem.Seed
import ConsumerCheck.Proofs.Config.Definitions
import ConsumerCheck.Proofs.Staging.RepeatedRules

/-!
# A project's file that is named as well

The project's file is loaded wherever it stands, and it can be named on the command line as well. It then makes
up two layers. What it sets it sets twice, and its rules stand twice in the list of rules.

* `Config.repeating` — a configuration with some rules once more behind its own.

Principal results: `merge_merge` — a layer above itself only repeats its rules; `project_named_twice` — naming
the project's file changes nothing about the options but the repeated rules, and nothing about what is staged.
-/

namespace ConsumerCheck

theorem orElse_orElse {α : Type} (a b : Option α) : (a <|> (a <|> b)) = (a <|> b) := by
  cases a <;> rfl

theorem Overrides.merge_merge (base upper : Overrides) :
    (base.merge upper).merge upper = base.merge upper := by
  simp only [merge, orElse_orElse]

theorem Definitions.union_union (d upper : Definitions) :
    (d.union upper).union upper = d.union upper := by
  refine eq_of_get? fun key => ?_
  rw [get?_union, get?_union, orElse_orElse]

namespace Config

/-- The configuration with some rules once more behind its own. -/
def repeating (config : Config) (rules : List CopyRule) : Config :=
  { config with imports := { config.imports with rules := config.imports.rules ++ rules } }

/-- **A layer above itself only repeats its rules.** -/
theorem merge_merge (base upper : Config) :
    (base.merge upper).merge upper = (base.merge upper).repeating upper.imports.rules := by
  unfold merge repeating
  simp only [Overrides.merge_merge, Definitions.union_union, orElse_orElse]

variable {fs : FileSystem} {wd : Location} {global : Option Path} {project : Path} {own : Config}

/-- Where the project's file can be read, naming it puts its layer above itself, and whether the configuration
is loaded is decided by the user's file alone. -/
theorem loadLayers_named (h : load fs wd project = .ok own) (global : Option Path) :
    (∃ e, (loadLayers fs wd global project none).1 = .error e ∧
      (loadLayers fs wd global project (some project)).1 = .error e) ∨
    ∃ base : Config, (loadLayers fs wd global project none).1 = .ok (base.merge own) ∧
      (loadLayers fs wd global project (some project)).1 = .ok ((base.merge own).merge own) := by
  have hproject : loadIfPresent fs wd project (.loadingProject project) =
      (.ok own, [.loadingProject project]) := by
    rw [loadIfPresent, if_pos (exists_of_load h), h]
  unfold loadLayers
  simp only [hproject, Option.map_none, Option.map_some, h]
  cases global with
  | none => exact .inr ⟨_, rfl, rfl⟩
  | some p =>
    dsimp only
    rcases loadIfPresent fs wd p (.loadingGlobal p) with ⟨e | base, events⟩
    · exact .inl ⟨e, rfl, rfl⟩
    · exact .inr ⟨base, rfl, rfl⟩

end Config

namespace CommandLine

variable {fs : FileSystem} {wd : Location} {global : Option Path} {project : Path} {own : Config}

theorem resolveOptions_repeating (cwd : Path) (config : Config) (rules : List CopyRule)
    (flags : StepFlags) :
    resolveOptions cwd (config.repeating rules) flags =
      { resolveOptions cwd config flags with
        imports := Staging.repeating (resolveOptions cwd config flags).imports rules } := by
  simp only [resolveOptions, Config.repeating, Staging.repeating, resolveSettings, resolveSourceDir,
    resolveBuildDir, List.append_assoc]

/-- **Naming the project's file changes nothing that matters.** The configuration is loaded or not, and for the
same reason, whether the file is named or not. The options are the same but for the file's rules, which stand
a second time behind all others; and staging with them fails for the same reason or copies the same, and leaves
the same files, whatever files it meets. -/
theorem project_named_twice (h : Config.load fs wd project = .ok own) (global : Option Path) :
    let once := (Config.loadLayers fs wd global project none).1
    let twice := (Config.loadLayers fs wd global project (some project)).1
    (∀ e, once = .error e ↔ twice = .error e) ∧
    ∀ config, once = .ok config → ∃ config', twice = .ok config' ∧ ∀ cwd flags,
      let o := resolveOptions cwd config flags
      let o' := resolveOptions cwd config' flags
      o' = { o with imports := { o.imports with rules := o.imports.rules ++ own.imports.rules } } ∧
      own.imports.rules <:+ o.imports.rules ∧
      ∀ fs' wd', (Staging.stage fs' wd' o'.imports o'.settings).1.map (·.copied) =
          (Staging.stage fs' wd' o.imports o.settings).1.map (·.copied) ∧
        (Staging.stage fs' wd' o'.imports o'.settings).2.1 =
          (Staging.stage fs' wd' o.imports o.settings).2.1 := by
  dsimp only
  rcases Config.loadLayers_named h global with ⟨e, honce, htwice⟩ | ⟨base, honce, htwice⟩
  · rw [honce, htwice]
    exact ⟨fun e => Iff.rfl, by simp⟩
  · rw [honce, htwice]
    refine ⟨by simp, ?_⟩
    rintro config ⟨rfl⟩
    refine ⟨_, rfl, fun cwd flags => ?_⟩
    have hsuffix : own.imports.rules <:+
        (resolveOptions cwd (base.merge own) flags).imports.rules :=
      ⟨defaultRules ++ base.imports.rules, List.append_assoc ..⟩
    rw [Config.merge_merge, resolveOptions_repeating]
    exact ⟨rfl, hsuffix, fun fs' wd' => Staging.stage_repeated fs' wd' _ hsuffix⟩

/-- The project's file, with a rule for the directory `lib64` of the package `p`, which has a library in it. -/
def selfNaming : FileSystem :=
  FileSystem.empty.plantAll [] [
    .file (.ofText "project") (Utf8.encode ("settings.arch = \"x86\"\nbuild.definitions.A = \"1\"\n" ++
      "[[imports.rules]]\nplatform = \"unix\"\npattern = \"*.so\"\nsrc = \"lib64\"\n")) false,
    .file (.ofText "/p/lib64/a.so") [1] false]

/-- What the file says. -/
def selfNamed : Config where
  settings := { Overrides.none with arch := some "x86" }
  build := { BuildConfig.empty with definitions := .ofList [("A", "1")] }
  imports := ⟨none, [⟨.unix, "*.so", .ofText "lib64", runtimeDir⟩]⟩

/-- The package `p` is staged below the directory `x`. -/
def selfNamedFlags : StepFlags :=
  ⟨.none, some (.ofText "/p"), none, some (.ofText "/x"), none, [], false⟩

/-- The rule stands twice, and the library is copied once. -/
theorem project_named_twice_selfNaming :
    Config.load selfNaming [] (.ofText "project") = .ok selfNamed ∧
    ∃ config config',
      (Config.loadLayers selfNaming [] none (.ofText "project") none).1 = .ok config ∧
      (Config.loadLayers selfNaming [] none (.ofText "project") (some (.ofText "project"))).1 =
        .ok config' ∧
      let o := resolveOptions (.ofText "/w") config selfNamedFlags
      let o' := resolveOptions (.ofText "/w") config' selfNamedFlags
      o'.settings = o.settings ∧ o'.build = o.build ∧
      o'.imports.rules = defaultRules ++ selfNamed.imports.rules ++ selfNamed.imports.rules ∧
      (Staging.stage selfNaming [] o'.imports o'.settings).1.map (·.copied) =
        .ok [.ofText "bin/a.so"] ∧
      (Staging.stage selfNaming [] o'.imports o'.settings).2.1.contentsAt
        [[0x78], runtimeDir.octets, (Path.ofText "a.so").octets] = [1] := by
  have hload : Config.load selfNaming [] (.ofText "project") = .ok selfNamed := by decide +kernel
  have honce : (Config.loadLayers selfNaming [] none (.ofText "project") none).1 = .ok selfNamed := by
    decide +kernel
  obtain ⟨config', htwice, hoptions⟩ := (project_named_twice hload none).2 _ honce
  obtain ⟨heq, -, hstage⟩ := hoptions (.ofText "/w") selfNamedFlags
  obtain ⟨hcopied, hfiles⟩ := hstage selfNaming []
  refine ⟨hload, selfNamed, config', honce, htwice, congrArg (·.settings) heq, congrArg (·.build) heq,
    congrArg (·.imports.rules) heq, hcopied.trans ?_, ?_⟩
  · decide +kernel
  · rw [hfiles]
    decide +kernel

end CommandLine

end ConsumerCheck

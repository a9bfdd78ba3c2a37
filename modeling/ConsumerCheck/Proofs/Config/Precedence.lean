import ConsumerCheck.CommandLine.Resolve
import ConsumerCheck.Proofs.Config.Merge

/-!
# Which layer decides

A configuration is loaded from three files, and flags stand above it. An item that a layer may set or
leave open is decided by the highest layer that sets it; the rules of all layers follow one another, the
lowest layer first.

* `Config.Layers` — what the three files say, each if it is there;
* `Layers.highest` — an item as the highest layer says it that says something about it;
* `Layers.InFiles` — the files of a file system say what the layers say.

Principal results: `loadLayers_eq` — loading makes one configuration of the layers;
`Overriding.merged` — an item of it is that of the highest layer; `resolveOptions_precedence` — the
options of a run, item by item.
-/

namespace ConsumerCheck

namespace Config

/-! ## Layers -/

/-- What the files of a configuration say, each if it is there. -/
structure Layers where
  global : Option Config
  project : Option Config
  explicit : Option Config
  deriving DecidableEq, Repr

namespace Layers

/-- The layers that are there, the lowest first. -/
def rising (l : Layers) : List Config :=
  l.global.toList ++ l.project.toList ++ l.explicit.toList

/-- An item as the highest layer says it that says something about it. -/
def highest {α : Type} (l : Layers) (item : Config → Option α) : Option α :=
  l.rising.reverse.findSome? item

/-- The rules of all layers, the lowest layer first. -/
def rules (l : Layers) : List CopyRule := l.rising.flatMap (·.imports.rules)

/-- All layers as one. -/
def merged (l : Layers) : Config := l.rising.foldl Config.merge .empty

end Layers

variable {α : Type} {item : Config → Option α}

theorem Overriding.foldl (h : Overriding item) (base : Config) (layers : List Config) :
    item (layers.foldl Config.merge base) = (layers.reverse.findSome? item <|> item base) := by
  induction layers generalizing base with
  | nil => rfl
  | cons layer layers ih =>
    rw [List.foldl_cons, ih, h.merge, List.reverse_cons, List.findSome?_append]
    cases layers.reverse.findSome? item with
    | some a => rfl
    | none => cases hitem : item layer <;> simp [hitem]

/-- **All layers as one say of an item what the highest layer says that says something about it.** -/
theorem Overriding.merged (h : Overriding item) (l : Layers) : item l.merged = l.highest item := by
  rw [Layers.merged, h.foldl, h.empty, Layers.highest]
  cases l.rising.reverse.findSome? item <;> rfl

theorem rules_foldl (base : Config) (layers : List Config) :
    (layers.foldl Config.merge base).imports.rules =
      base.imports.rules ++ layers.flatMap (·.imports.rules) := by
  induction layers generalizing base with
  | nil => simp
  | cons layer layers ih => simp [ih, Config.merge]

/-- All layers as one have the rules of all layers. -/
theorem rules_merged (l : Layers) : l.merged.imports.rules = l.rules := by
  rw [Layers.merged, rules_foldl]
  rfl

/-! ## Files -/

/-- At the path stands what the layer says, or nothing if there is no such layer. -/
def Holds (fs : FileSystem) (wd : Location) (p : Path) : Option Config → Prop
  | none => fs.exists_ wd p = false
  | some config => load fs wd p = .ok config

instance (fs : FileSystem) (wd : Location) (p : Path) :
    (layer : Option Config) → Decidable (Holds fs wd p layer)
  | none => inferInstanceAs (Decidable (_ = false))
  | some config => inferInstanceAs (Decidable (_ = Except.ok config))

/-- The files say what the layers say. A layer below may be missing because its file is, and the one that
is named must be there if it is named. -/
structure Layers.InFiles (l : Layers) (fs : FileSystem) (wd : Location) (global : Option Path)
    (project : Path) (explicit : Option Path) : Prop where
  global : global.elim (l.global = none) (Holds fs wd · l.global)
  project : Holds fs wd project l.project
  explicit : explicit.map (load fs wd) = l.explicit.map .ok

variable {fs : FileSystem} {wd : Location} {p : Path} {layer : Option Config}

/-- A file that is missing cannot be read. -/
theorem load_of_missing (h : fs.exists_ wd p = false) :
    ∃ cause, load fs wd p = .error (.unreadable p cause) := by
  cases hstat : fs.stat wd p with
  | ok entry =>
    rw [FileSystem.exists_, hstat] at h
    cases h
  | error cause =>
    have hread : fs.readText wd p = .error cause := by
      rw [FileSystem.readText, FileSystem.readFile, hstat]
      rfl
    exact ⟨cause, by rw [load, hread]⟩

theorem exists_of_load {config : Config} (h : load fs wd p = .ok config) :
    fs.exists_ wd p = true := by
  by_contra hmissing
  obtain ⟨cause, hload⟩ := load_of_missing (Bool.eq_false_iff.2 hmissing)
  rw [hload] at h
  cases h

theorem loadIfPresent_of_holds (h : Holds fs wd p layer) (event : Event) :
    ∃ events, loadIfPresent fs wd p event = (.ok (layer.getD .empty), events) := by
  unfold loadIfPresent
  cases layer with
  | none =>
    have habsent : fs.exists_ wd p = false := h
    exact ⟨[], by rw [habsent]; rfl⟩
  | some config =>
    rw [if_pos (exists_of_load h), show load fs wd p = .ok config from h]
    exact ⟨[event], rfl⟩

/-- Once the files below are loaded, the file that is named decides. A user's file that is not looked for says as
little as one that is not there. -/
theorem loadLayers_of_holds {lower upper : Option Config} {project : Path} (global explicit : Option Path)
    (hlower : global.elim (lower = none) (Holds fs wd · lower))
    (hupper : Holds fs wd project upper) :
    let base := (lower.getD empty).merge (upper.getD empty)
    ∃ events, loadLayers fs wd global project explicit =
      ((explicit.map (load fs wd)).elim (.ok base) (.map base.merge), events) := by
  intro base
  obtain ⟨more, hproject⟩ := loadIfPresent_of_holds hupper (.loadingProject project)
  unfold loadLayers
  rw [hproject]
  cases global with
  | none =>
    have hnone : lower = none := hlower
    subst hnone
    refine ⟨[] ++ more, ?_⟩
    rcases explicit.map (load fs wd) with _ | _ | _ <;> rfl
  | some p =>
    obtain ⟨events, hglobal⟩ := loadIfPresent_of_holds hlower (.loadingGlobal p)
    dsimp only
    rw [hglobal]
    refine ⟨events ++ more, ?_⟩
    rcases explicit.map (load fs wd) with _ | _ | _ <;> rfl

/-- **Loading makes one configuration of what the files say.** -/
theorem loadLayers_eq {l : Layers} {global explicit : Option Path} {project : Path}
    (h : l.InFiles fs wd global project explicit) :
    ∃ events, loadLayers fs wd global project explicit = (.ok l.merged, events) := by
  obtain ⟨events, hload⟩ := loadLayers_of_holds global explicit h.global h.project
  refine ⟨events, hload.trans ?_⟩
  have hbase : (l.global.getD empty).merge (l.project.getD empty) =
      (l.global.toList ++ l.project.toList).foldl Config.merge empty := by
    cases l.global <;> cases l.project <;> simp [empty_merge, merge_empty]
  rw [h.explicit, Layers.merged, Layers.rising, List.foldl_append, ← hbase]
  cases l.explicit <;> rfl

end Config

namespace CommandLine

open Config (Layers)

/-! ## Options -/

theorem resolveSourceDir_eq (cwd : Path) (config : Config) (flags : StepFlags) :
    resolveSourceDir cwd config flags =
      ((flags.sourceDir <|> config.build.sourceDir).map cwd.join).getD cwd := by
  unfold resolveSourceDir
  cases flags.sourceDir <|> config.build.sourceDir <;> rfl

theorem resolveBuildDir_eq (cwd : Path) (config : Config) (flags : StepFlags) :
    resolveBuildDir cwd config flags =
      (flags.buildDir.map cwd.join).getD ((resolveSourceDir cwd config flags).join buildDirName) := by
  unfold resolveBuildDir
  cases flags.buildDir <;> rfl

/-- **Each option of a run is decided by the highest source that says something about it.** The flags stand
above the files, and what is usual below them. Only the rules are not decided: those of all files follow
the usual ones. -/
theorem resolveOptions_precedence {fs : FileSystem} {wd : Location} {l : Layers}
    {global explicit : Option Path} {project : Path}
    (h : l.InFiles fs wd global project explicit) (cwd : Path) (flags : StepFlags) :
    ∃ config events, Config.loadLayers fs wd global project explicit = (.ok config, events) ∧
      let o := resolveOptions cwd config flags
      o.settings.os = (flags.settings.os <|> l.highest (·.settings.os)).getD hostOs ∧
      o.settings.compilerVersion =
        (flags.settings.compilerVersion <|> l.highest (·.settings.compilerVersion)) ∧
      o.settings.buildType =
        (flags.settings.buildType <|> l.highest (·.settings.buildType)).getD "Release" ∧
      o.settings.arch = (flags.settings.arch <|> l.highest (·.settings.arch)).getD hostArch ∧
      o.settings.osBuild = (flags.settings.osBuild <|> l.highest (·.settings.osBuild)) ∧
      o.settings.archBuild = (flags.settings.archBuild <|> l.highest (·.settings.archBuild)) ∧
      o.build.generator = (flags.generator <|> l.highest (·.build.generator)) ∧
      o.build.cmake = (l.highest (·.build.cmake)).map (resolveTool cwd) ∧
      o.build.sourceDir =
        ((flags.sourceDir <|> l.highest (·.build.sourceDir)).map cwd.join).getD cwd ∧
      o.build.buildDir =
        (flags.buildDir.map cwd.join).getD (o.build.sourceDir.join (.ofText "build")) ∧
      (o.imports.filterHostPlatform = true ↔
        flags.filterHost = true ∨ l.highest (·.imports.filterHostPlatform) = some true) ∧
      o.imports.rules = defaultRules ++ l.rules := by
  obtain ⟨events, hload⟩ := Config.loadLayers_eq h
  refine ⟨l.merged, events, hload, ?_⟩
  -- what no layer decides is open; an item of all layers as one is that of the highest layer
  have open_below {α : Type} (a : Option α) : (a <|> none) = a :=
    Option.or_eq_orElse.symm.trans Option.or_none
  have item {α : Type} {item : Config → Option α} (h : Config.Overriding item) :=
    (h.merged l).symm
  refine ⟨?os, ?compilerVersion, ?buildType, ?arch, ?osBuild, ?archBuild, ?generator, ?cmake,
    ?sourceDir, resolveBuildDir_eq .., ?filter, ?rules⟩
  case os | buildType | arch | generator | cmake => rw [item ⟨rfl, fun _ _ => rfl⟩]; rfl
  case compilerVersion | osBuild | archBuild =>
    rw [item ⟨rfl, fun _ _ => rfl⟩]
    exact open_below _
  case sourceDir => rw [item ⟨rfl, fun _ _ => rfl⟩]; exact resolveSourceDir_eq ..
  case filter =>
    rw [item ⟨rfl, fun _ _ => rfl⟩]
    cases hfilter : l.merged.imports.filterHostPlatform <;>
      simp [resolveOptions, VerifyOptions.new, hfilter]
  case rules => rw [← Config.rules_merged]; rfl

/-- The text of the user's file. -/
def userText : String :=
  "build.generator = \"Ninja\"\n" ++
  "[[imports.rules]]\nplatform = \"unix\"\npattern = \"*.so*\"\nsrc = \"lib64\"\n"

/-- The text of the project's file. -/
def projectText : String :=
  "settings = \x7b build_type = \"Debug\", arch = \"x86\" \x7d\n" ++
  "imports.filter_host_platform = true\n"

/-- The user's file and the project's, and no other. -/
def layered : FileSystem :=
  (FileSystem.empty.put [(Path.ofText "user").octets] (.file (Utf8.encode userText) .plain)).put
    [(Path.ofText "project").octets] (.file (Utf8.encode projectText) .plain)

/-- What the files say; no file is named. -/
def layers : Layers where
  global := some { Config.empty with
    build := { BuildConfig.empty with generator := some "Ninja" }
    imports := ⟨none, [⟨.unix, "*.so*", .ofText "lib64", runtimeDir⟩]⟩ }
  project := some { Config.empty with
    settings := { Overrides.none with buildType := some "Debug", arch := some "x86" }
    imports := ⟨some true, []⟩ }
  explicit := none

/-- The flags choose the architecture and the build directory. -/
def layeredFlags : StepFlags where
  settings := { Overrides.none with arch := some "armv8" }
  packageFolder := none
  sourceDir := none
  buildDir := some (.ofText "out")
  generator := none
  definitions := []
  filterHost := false

/-- Each source decides one item: the user's file the generator, the project's the build type, the flags the
architecture. -/
theorem resolveOptions_precedence_layered :
    layers.InFiles layered [] (some (.ofText "user")) (.ofText "project") none ∧
    ∃ config events,
      Config.loadLayers layered [] (some (.ofText "user")) (.ofText "project") none =
        (.ok config, events) ∧
      let o := resolveOptions (.ofText "/w") config layeredFlags
      o.build.generator = some "Ninja" ∧ o.settings.buildType = "Debug" ∧
        o.settings.arch = "armv8" ∧ o.settings.os = hostOs ∧ o.build.sourceDir = .ofText "/w" ∧
        o.build.buildDir = .ofText "/w/out" ∧ o.imports.filterHostPlatform = true ∧
        o.imports.rules = defaultRules ++ [⟨.unix, "*.so*", .ofText "lib64", runtimeDir⟩] := by
  have hfiles : layers.InFiles layered [] (some (.ofText "user")) (.ofText "project") none :=
    ⟨show Config.Holds layered [] (.ofText "user") layers.global by decide +kernel,
      by decide +kernel, rfl⟩
  have hjoin : (Path.ofText "/w").join (.ofText "out") = .ofText "/w/out" := by decide +kernel
  obtain ⟨config, events, hload, hos, -, hbuildType, harch, -, -, hgenerator, -, hsource, hbuild,
    hfilter, hrules⟩ := resolveOptions_precedence hfiles (.ofText "/w") layeredFlags
  exact ⟨hfiles, config, events, hload, hgenerator, hbuildType, harch, hos, hsource,
    hbuild.trans hjoin, hfilter.2 (.inr (by decide +kernel)), hrules⟩

end CommandLine

end ConsumerCheck

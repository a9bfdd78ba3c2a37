import ConsumerCheck.CommandLine.Resolve
import ConsumerCheck.FileSystem.Seed
import ConsumerCheck.Proofs.Staging.Selection

/-!
# The layout of a run

Five paths that may be given or missing, relative or absolute, make up the layout of a run. Whatever they are,
the directories of the steps fit together: what one step stages is where another looks for it.

* `Path.Below` — a path that leads by names from a directory to something below it;
* `Staging.copied_planned` — what the journal says was copied was planned.

Principal results: `stage_below` — what staging copies lies below the runtime directory; `resolveOptions_layout`
— which paths of the options are absolute, how they lie to each other, and that files are staged below the
directory of the staged libraries and nowhere else.
-/

namespace ConsumerCheck

namespace Path

/-- The path leads by names from the directory to something below it. -/
def Below (dir p : Path) : Prop :=
  ∃ names, names ≠ [] ∧ names.all isName = true ∧ p.components = dir.components ++ names.map .name

/-- A place leads below the runtime directory by its components, and by its steps. -/
theorem below_of_place (destRoot : Path) {place : Path} (h : place.IsPlace) :
    Below (destRoot.join runtimeDir) (destRoot.join place) ∧
      ∀ wd, (destRoot.join runtimeDir).lexical wd <+: (destRoot.join place).lexical wd := by
  refine ⟨?_, fun wd => ?_⟩
  · obtain ⟨dst, names, hdst, hne, hnames, rfl⟩ := h
    have hplace : (dst.extend names).components = .name runtimeDir.octets :: names.map .name := by
      rw [components_extend dst hnames, hdst, components_runtimeDir]
      rfl
    refine ⟨names, hne, hnames, ?_⟩
    rw [components_join_of_name destRoot hplace, hplace,
      components_join_of_name destRoot components_runtimeDir, components_runtimeDir, List.append_assoc]
    rfl
  · obtain ⟨names, -, -, hlexical⟩ := lexical_place wd destRoot h
    exact ⟨names, hlexical.symm⟩

end Path

namespace Staging

variable {fs fs' : FileSystem} {wd : Location} {destRoot source dest : Path} {plan : Plan}
  {options : ImportOptions} {settings : Settings} {rule : CopyRule} {rules : List CopyRule}
  {s : Survey} {events : List Event}

/-! ## What the journal says was copied -/

theorem copied_not_mem_surveyRule :
    .copied source dest ∉ (surveyRule fs wd options settings rule s).2 := by
  unfold surveyRule
  split
  · simp
  · split
    · simp
    · dsimp only
      split
      · split <;> simp
      · simp

theorem copied_not_mem_surveyRules :
    .copied source dest ∉ (surveyRules fs wd options settings rules s).2 := by
  induction rules generalizing s with
  | nil => simp [surveyRules]
  | cons rule rules ih =>
    have hrule : .copied source dest ∉ (surveyRule fs wd options settings rule s).2 :=
      copied_not_mem_surveyRule
    unfold surveyRules
    split
    · rename_i heq
      rwa [heq] at hrule
    · rename_i heq
      rw [heq] at hrule
      exact List.not_mem_append hrule ih

/-- The first phase copies nothing. -/
theorem copied_not_mem_survey : .copied source dest ∉ (survey fs wd options settings).2 := by
  unfold survey
  split
  · simp
  · split
    · simp
    · exact copied_not_mem_surveyRules

theorem place_of_copied (h : .copied source dest ∈ (carryOut wd destRoot plan fs).2.2) :
    ∃ place, (place, source) ∈ plan ∧ dest = destRoot.join place := by
  induction plan generalizing fs with
  | nil => simp [carryOut] at h
  | cons entry rest ih =>
    obtain ⟨place, source'⟩ := entry
    unfold carryOut at h
    dsimp only at h
    split at h
    · cases h
    split at h
    · cases h
    rcases List.mem_cons.1 h with heq | h
    · cases heq
      exact ⟨place, List.mem_cons_self, rfl⟩
    · obtain ⟨place', hmem, hdest⟩ := ih h
      exact ⟨place', List.mem_cons_of_mem _ hmem, hdest⟩

/-- What is copied was planned, whether staging succeeds or fails. -/
theorem copied_planned (h : .copied source dest ∈ (stage fs wd options settings).2.2) :
    ∃ s place, (survey fs wd options settings).1 = .ok s ∧ (place, source) ∈ s.plan ∧
      dest = options.destRoot.join place := by
  have hsurvey : .copied source dest ∉ (survey fs wd options settings).2 := copied_not_mem_survey
  unfold stage at h
  rcases hs : survey fs wd options settings with ⟨_ | s, events⟩
  · rw [hs] at h hsurvey
    exact absurd h hsurvey
  · rw [hs] at h hsurvey
    dsimp only at h hsurvey
    refine ⟨s, ?_⟩
    have hcarried : .copied source dest ∈ (carryOut wd options.destRoot s.plan fs).2.2 := by
      rcases hcarry : carryOut wd options.destRoot s.plan fs with ⟨_ | ⟨⟩, fs', more⟩
      · rw [hcarry] at h
        exact (List.mem_append.1 h).resolve_left hsurvey
      · rw [hcarry] at h
        simp only [List.mem_append, List.mem_singleton, reduceCtorEq, or_false] at h
        exact h.resolve_left hsurvey
    obtain ⟨place, hmem, hdest⟩ := place_of_copied hcarried
    exact ⟨place, rfl, hmem, hdest⟩

/-- **What staging copies lies below the runtime directory**, whether it succeeds or fails. -/
theorem stage_below {result : Except Failure ImportReport}
    (h : stage fs wd options settings = (result, fs', events)) :
    (∀ report, result = .ok report → ∀ place ∈ report.copied,
      Path.Below (options.destRoot.join runtimeDir) (options.destRoot.join place)) ∧
    ∀ source dest, .copied source dest ∈ events →
      Path.Below (options.destRoot.join runtimeDir) dest ∧
        (options.destRoot.join runtimeDir).lexical wd <+: dest.lexical wd := by
  constructor
  · rintro report rfl place hplace
    obtain ⟨s, more, hsurvey, rfl, -⟩ := stage_ok_cases h
    exact (Path.below_of_place _ ((survey_sound hsurvey).places place hplace)).1
  · intro source dest hcopied
    have hmem : .copied source dest ∈ (stage fs wd options settings).2.2 := by
      rw [h]
      exact hcopied
    obtain ⟨s, place, hsurvey, hplanned, rfl⟩ := copied_planned hmem
    obtain ⟨hbelow, hlexical⟩ := Path.below_of_place options.destRoot
      ((survey_sound hsurvey).places place (List.mem_map_of_mem hplanned))
    exact ⟨hbelow, hlexical wd⟩

end Staging

namespace CommandLine

/-! ## The options of a run -/

theorem isAbsolute_resolveSourceDir {cwd : Path} (hcwd : cwd.isAbsolute = true) (config : Config)
    (flags : StepFlags) : (resolveSourceDir cwd config flags).isAbsolute = true := by
  unfold resolveSourceDir
  split
  · exact Path.isAbsolute_join_of_left hcwd _
  · exact hcwd

theorem isAbsolute_resolveBuildDir {cwd : Path} (hcwd : cwd.isAbsolute = true) (config : Config)
    (flags : StepFlags) : (resolveBuildDir cwd config flags).isAbsolute = true := by
  unfold resolveBuildDir
  split
  · exact Path.isAbsolute_join_of_left hcwd _
  · exact Path.isAbsolute_join_of_left (isAbsolute_resolveSourceDir hcwd config flags) _

theorem isAbsolute_resolvePackageFolder {cwd : Path} (hcwd : cwd.isAbsolute = true)
    {flags : StepFlags} (hgiven : flags.packageFolder.isSome) :
    (resolvePackageFolder cwd flags).isAbsolute = true := by
  obtain ⟨p, hp⟩ := Option.isSome_iff_exists.1 hgiven
  rw [resolvePackageFolder, hp]
  exact Path.isAbsolute_join_of_left hcwd p

/-- A program that is named by a path is meant from the directory, and one that is named by a bare name is
left as it is. -/
theorem resolveTool_cases {cwd : Path} (hcwd : cwd.isAbsolute = true) (tool : Path) :
    (2 ≤ tool.components.length →
      resolveTool cwd tool = cwd.join tool ∧ (resolveTool cwd tool).isAbsolute = true) ∧
    (tool.components.length < 2 → resolveTool cwd tool = tool) := by
  constructor
  · intro hpath
    have hjoined : resolveTool cwd tool = cwd.join tool := if_pos hpath
    exact ⟨hjoined, hjoined ▸ Path.isAbsolute_join_of_left hcwd tool⟩
  · intro hbare
    exact if_neg (by omega)

/-- **Options that are made in an absolute directory have absolute paths and one layout.** The sources, the
build directory and a package folder that is given are absolute. The CMake program is absolute unless it is a
bare name, which is left to the search path. Files are staged where the example is built and run, and whether
staging succeeds or fails, what it copies lies below the directory of the staged libraries. -/
theorem resolveOptions_layout {cwd : Path} (hcwd : cwd.isAbsolute = true) (config : Config)
    (flags : StepFlags) :
    let o := resolveOptions cwd config flags
    o.build.sourceDir.isAbsolute = true ∧ o.build.buildDir.isAbsolute = true ∧
    (flags.packageFolder.isSome → o.imports.packageFolder.isAbsolute = true) ∧
    (config.build.cmake = none → o.build.cmake = none) ∧
    (∀ tool, config.build.cmake = some tool → ∃ cmake, o.build.cmake = some cmake ∧
      (2 ≤ tool.components.length → cmake = cwd.join tool ∧ cmake.isAbsolute = true) ∧
      (tool.components.length < 2 → cmake = tool)) ∧
    o.imports.destRoot = o.build.buildDir ∧ o.test.buildDir = o.build.buildDir ∧
    o.test.runtimeDir = o.imports.destRoot.join (.ofText "bin") ∧
    ∀ fs wd settings result fs' events,
      Staging.stage fs wd o.imports settings = (result, fs', events) →
      (∀ report, result = .ok report → ∀ place ∈ report.copied,
        Path.Below o.test.runtimeDir (o.imports.destRoot.join place)) ∧
      ∀ source dest, .copied source dest ∈ events →
        Path.Below o.test.runtimeDir dest ∧ o.test.runtimeDir.lexical wd <+: dest.lexical wd := by
  intro o
  refine ⟨isAbsolute_resolveSourceDir hcwd config flags, isAbsolute_resolveBuildDir hcwd config flags,
    isAbsolute_resolvePackageFolder hcwd, ?none, ?some, rfl, rfl, rfl,
    fun _ _ _ _ _ _ => Staging.stage_below⟩
  case none => exact fun hnone => congrArg (Option.map (resolveTool cwd)) hnone
  case some =>
    intro tool htool
    exact ⟨resolveTool cwd tool, congrArg (Option.map (resolveTool cwd)) htool,
      resolveTool_cases hcwd tool⟩

/-- A working directory `w`, and beside it a package `p` with a library. -/
def besidePackage : FileSystem :=
  FileSystem.empty.plantAll [] [.directory (.ofText "/w"), .file (.ofText "/p/lib/a.so") [1] false]

/-- CMake is in a directory of its own. -/
def toolConfig : Config :=
  { Config.empty with build := { BuildConfig.empty with cmake := some (.ofText "tools/cmake") } }

/-- The package and the build directory are given by relative paths. -/
def relativeFlags : StepFlags :=
  ⟨.none, some (.ofText "../p"), none, some (.ofText "out/."), none, [], false⟩

/-- The library is staged below the build directory, where the example looks for it. -/
theorem resolveOptions_layout_beside :
    let o := resolveOptions (.ofText "/w") toolConfig relativeFlags
    (Path.ofText "/w").isAbsolute = true ∧ o.build.sourceDir = .ofText "/w" ∧
    o.build.buildDir = .ofText "/w/out/." ∧ o.build.buildDir.isAbsolute = true ∧
    o.imports.packageFolder = .ofText "/w/../p" ∧ o.imports.packageFolder.isAbsolute = true ∧
    o.build.cmake = some (.ofText "/w/tools/cmake") ∧
    o.test.runtimeDir = .ofText "/w/out/./bin" ∧
    (Staging.stage besidePackage [] o.imports o.settings).1 = .ok ⟨[.ofText "bin/a.so"], []⟩ ∧
    Path.Below o.test.runtimeDir (o.imports.destRoot.join (.ofText "bin/a.so")) := by
  intro o
  have hcwd : (Path.ofText "/w").isAbsolute = true := by decide +kernel
  have hstage : (Staging.stage besidePackage [] o.imports o.settings).1 =
      .ok ⟨[.ofText "bin/a.so"], []⟩ := by
    decide +kernel
  obtain ⟨-, hbuild, hpackage, -, hcmake, -, -, hruntime, hstaged⟩ :=
    resolveOptions_layout hcwd toolConfig relativeFlags
  obtain ⟨cmake, hresolved, hlong, -⟩ := hcmake _ rfl
  have hjoin : (Path.ofText "/w").join (.ofText "tools/cmake") = .ofText "/w/tools/cmake" := by
    decide +kernel
  refine ⟨hcwd, rfl, by decide +kernel, hbuild, by decide +kernel, hpackage rfl, ?_, ?_, hstage, ?_⟩
  · rw [hresolved, (hlong (by decide +kernel)).1, hjoin]
  · rw [hruntime]
    decide +kernel
  · exact (hstaged _ _ _ _ _ _ (Prod.ext (y := (Except.ok _, _, _)) hstage rfl)).1 _ rfl _
      List.mem_cons_self

end CommandLine

end ConsumerCheck

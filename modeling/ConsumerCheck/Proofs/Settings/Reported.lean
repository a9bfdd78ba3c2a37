import ConsumerCheck.CommandLine.Run
import ConsumerCheck.Proofs.Lookup
import ConsumerCheck.Proofs.Settings.Overriding
import ConsumerCheck.Proofs.Text.LowerCase

/-!
# Settings that are given back as they were reported

The machine that builds is reported in normal form, and a normal form is its own normal form. The other settings
are reported as they are. So the reported values say all that there is to the settings: given back as flags they
lead to the same settings, whatever the configuration says, but for the spelling of the machine that builds.

* `Settings.reported` — the reported values, as overrides;
* `Settings.pinned` — the settings with the machine that builds in normal form;
* `Overrides.assignments` — overrides as they are reported, one in a line.

Principal results: `normalizeName_normalizeName` — a normal form is normal; `apply_reported` — what reported
values lead to; `resolveSettings_reported` — a run with them is the same run.
-/

namespace ConsumerCheck

/-! ## Normal forms -/

/-- The normal forms in a table of aliases are normal. -/
def StableNames (aliases : List (String × String)) : Prop :=
  ∀ a ∈ aliases, normalizeName aliases a.2 = a.2

theorem stableNames_osAliases : StableNames osAliases := by
  unfold StableNames
  decide +kernel

theorem stableNames_archAliases : StableNames archAliases := by
  unfold StableNames
  decide +kernel

/-- **A normal form is its own normal form.** -/
theorem normalizeName_normalizeName {aliases : List (String × String)} (h : StableNames aliases)
    (name : String) :
    normalizeName aliases (normalizeName aliases name) = normalizeName aliases name := by
  cases hlookup : aliases.lookup (Text.toLower (Text.trim name)) with
  | some normal =>
    have hnormal : normalizeName aliases name = normal := by simp [normalizeName, hlookup]
    rw [hnormal]
    exact h (_, normal) (mem_of_lookup hlookup)
  | none =>
    have hlower : normalizeName aliases name = Text.toLower (Text.trim name) := by
      simp [normalizeName, hlookup]
    rw [hlower, normalizeName, Text.trim_toLower_trim, Text.toLower_toLower, hlookup, Option.getD_none]

/-! ## Reported values -/

/-- Overrides as they are reported, one in a line. -/
def Overrides.assignments (o : Overrides) : List String :=
  [("os", o.os), ("compiler", o.compiler), ("compiler.version", o.compilerVersion),
    ("build_type", o.buildType), ("arch", o.arch), ("os_build", o.osBuild),
    ("arch_build", o.archBuild)].filterMap fun (key, value) => value.map (key ++ "=" ++ ·)

namespace Settings

/-- The reported values. -/
def reported (s : Settings) : Overrides where
  os := some s.os
  compiler := some s.compiler
  compilerVersion := s.compilerVersion
  buildType := some s.buildType
  arch := some s.arch
  osBuild := some s.buildOs
  archBuild := some s.buildArch

/-- The settings with the machine that builds in normal form. -/
def pinned (s : Settings) : Settings :=
  { s with osBuild := some s.buildOs, archBuild := some s.buildArch }

theorem buildOs_pinned (s : Settings) : s.pinned.buildOs = s.buildOs := by
  simp only [buildOs, pinned, normalizeOs, Option.getD_some,
    normalizeName_normalizeName stableNames_osAliases]

theorem buildArch_pinned (s : Settings) : s.pinned.buildArch = s.buildArch := by
  simp only [buildArch, pinned, normalizeArch, Option.getD_some,
    normalizeName_normalizeName stableNames_archAliases]

theorem isCrossBuilding_pinned (s : Settings) : s.pinned.isCrossBuilding = s.isCrossBuilding := by
  rw [isCrossBuilding, buildOs_pinned, buildArch_pinned]
  rfl

theorem reported_pinned (s : Settings) : s.pinned.reported = s.reported := by
  rw [reported, buildOs_pinned, buildArch_pinned]
  rfl

/-- **Reported values lead to the settings they were reported of**, with the machine that builds in normal
form, if what is below them is what was below the overrides that led there. -/
theorem apply_reported (s : Settings) (below above : Overrides) :
    s.apply (below.merge (s.apply (below.merge above)).reported) =
      (s.apply (below.merge above)).pinned := by
  have hversion : (s.apply (below.merge (s.apply (below.merge above)).reported)).compilerVersion =
      (s.apply (below.merge above)).compilerVersion := by
    -- a version that is not reported is not given below either
    simp only [apply, Overrides.merge, reported]
    cases above.compilerVersion <;> cases below.compilerVersion <;> cases s.compilerVersion <;> rfl
  exact Settings.ext rfl (compiler_apply_of_some rfl) hversion rfl rfl rfl rfl

end Settings

namespace CommandLine

/-- The report is made of the reported values and of what they decide. -/
theorem settingsText_eq (s : Settings) :
    settingsText s = linesText (s.reported.assignments ++
      ["cross_building=" ++ (if s.isCrossBuilding then "true" else "false")]) := by
  cases hversion : s.compilerVersion <;>
    simp [settingsText, Overrides.assignments, Settings.reported, hversion]

/-- **The settings of a run, given back as flags as they were reported, make the same run**: the same target, the
same machine that builds, and the same decision whether it is a cross build. They are reported alike. -/
theorem resolveSettings_reported (config : Config) (flags : Overrides) :
    let s := resolveSettings config flags
    let t := resolveSettings config s.reported
    (t.os = s.os ∧ t.compiler = s.compiler ∧ t.compilerVersion = s.compilerVersion ∧
      t.buildType = s.buildType ∧ t.arch = s.arch) ∧
    (t.buildOs = s.buildOs ∧ t.buildArch = s.buildArch) ∧
    t.isCrossBuilding = s.isCrossBuilding ∧
    settingsText s = linesText (s.reported.assignments ++
      ["cross_building=" ++ (if s.isCrossBuilding then "true" else "false")]) ∧
    settingsText t = settingsText s := by
  intro s t
  have hpinned : t = s.pinned := Settings.apply_reported .detect config.settings flags
  have htext : settingsText s.pinned = settingsText s := by
    rw [settingsText_eq, settingsText_eq, s.reported_pinned, s.isCrossBuilding_pinned]
  rw [hpinned]
  exact ⟨⟨rfl, rfl, rfl, rfl, rfl⟩, ⟨s.buildOs_pinned, s.buildArch_pinned⟩, s.isCrossBuilding_pinned,
    settingsText_eq s, htext⟩

end CommandLine

end ConsumerCheck

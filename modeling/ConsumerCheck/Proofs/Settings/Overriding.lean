import ConsumerCheck.Proofs.Config.RepeatedLayer

/-!
# Settings under overrides

A value that is given replaces the one before, whatever the other values are. Only the compiler depends on
another value: a new operating system brings its default compiler with it. The settings of the host have the
compiler that comes with their system, and settings that have it keep it as long as no compiler is given. So
what the comparison of the old system with the new one decides cannot be seen from outside.

* `Settings.Unpinned` — the compiler is the one that comes with the operating system.

Principal results: `compiler_apply` — the compiler of unpinned settings under overrides; `resolved_compiler` — the
compiler of a run; `apply_apply` — overrides one after the other, and merged.
-/

namespace ConsumerCheck

/-- Systems with one normal form come with one compiler. -/
theorem defaultCompiler_congr {os os' : String} (h : normalizeOs os = normalizeOs os') :
    defaultCompiler os = defaultCompiler os' := by
  unfold defaultCompiler
  rw [h]

section Choice

variable {α : Type}

theorem getD_orElse (upper base : Option α) (a : α) :
    (upper <|> base).getD a = upper.getD (base.getD a) := by
  cases upper <;> rfl

theorem getD_getD (given : Option α) (a : α) : given.getD (given.getD a) = given.getD a := by
  cases given <;> rfl

end Choice

attribute [ext] Settings

namespace Settings

variable {s : Settings} {o : Overrides}

theorem os_apply_of_some {os : String} (h : o.os = some os) : (s.apply o).os = os := by
  simp [apply, h]

theorem os_apply_of_none (h : o.os = none) : (s.apply o).os = s.os := by
  simp [apply, h]

/-! ## The compiler -/

/-- The compiler is the one that comes with the operating system. -/
def Unpinned (s : Settings) : Prop := s.compiler = defaultCompiler s.os

theorem unpinned_detect : detect.Unpinned := rfl

theorem compiler_apply_of_some {compiler : String} (h : o.compiler = some compiler) :
    (s.apply o).compiler = compiler := by
  simp [apply, compilerUnder, h]

/-- Without a compiler, overrides that leave the system what it is leave the compiler as well. -/
theorem compiler_apply_of_same (h : o.compiler = none)
    (hos : ∀ os, o.os = some os → normalizeOs os = normalizeOs s.os) :
    (s.apply o).compiler = s.compiler := by
  cases hgiven : o.os with
  | none => simp [apply, compilerUnder, h, hgiven]
  | some os => simp [apply, compilerUnder, h, hgiven, hos os hgiven]

theorem compiler_apply_of_ne {os : String} (h : o.compiler = none) (hos : o.os = some os)
    (hne : normalizeOs os ≠ normalizeOs s.os) : (s.apply o).compiler = defaultCompiler os := by
  simp [apply, compilerUnder, h, hos, hne]

/-- **The compiler of unpinned settings is the one that is given, or comes with the new system.** -/
theorem compiler_apply (hs : s.Unpinned) (o : Overrides) :
    (s.apply o).compiler = o.compiler.getD (defaultCompiler (s.apply o).os) := by
  cases hcompiler : o.compiler with
  | some compiler => exact compiler_apply_of_some hcompiler
  | none =>
    rw [Option.getD_none]
    by_cases hsame : normalizeOs (s.apply o).os = normalizeOs s.os
    · -- the compiler stays: it is the default of the same system under another name
      have hdefault : s.compiler = defaultCompiler s.os := hs
      rw [defaultCompiler_congr hsame, ← hdefault]
      refine compiler_apply_of_same hcompiler fun os hos => ?_
      rw [← hsame, os_apply_of_some hos]
    · cases hos : o.os with
      | none =>
        rw [os_apply_of_none hos] at hsame
        exact absurd rfl hsame
      | some os =>
        rw [os_apply_of_some hos] at hsame ⊢
        exact compiler_apply_of_ne hcompiler hos hsame

theorem Unpinned.apply (hs : s.Unpinned) (h : o.compiler = none) : (s.apply o).Unpinned := by
  show (s.apply o).compiler = defaultCompiler (s.apply o).os
  rw [compiler_apply hs, h, Option.getD_none]

/-! ## Overrides one after the other -/

theorem os_apply_merge (s : Settings) (a b : Overrides) :
    (s.apply (a.merge b)).os = ((s.apply a).apply b).os :=
  getD_orElse b.os a.os s.os

/-- The compiler may differ only if the second overrides bring a system without a compiler, and one was given by the
first or pinned before. -/
theorem compiler_apply_merge {a b : Overrides}
    (h : b.os = none ∨ b.compiler.isSome = true ∨ a.compiler = none ∧ s.Unpinned) :
    ((s.apply a).apply b).compiler = (s.apply (a.merge b)).compiler := by
  cases hcompiler : b.compiler with
  | some compiler =>
    have hmerged : (a.merge b).compiler = some compiler := by simp [Overrides.merge, hcompiler]
    rw [compiler_apply_of_some hcompiler, compiler_apply_of_some hmerged]
  | none =>
    rw [hcompiler] at h
    rcases h with hos | hsome | ⟨hopen, hs⟩
    · -- the second overrides play no part in the compiler
      have hmerged : s.compilerUnder (a.merge b) = s.compilerUnder a := by
        simp [compilerUnder, Overrides.merge, hcompiler, hos]
      rw [compiler_apply_of_same hcompiler (by simp [hos])]
      exact hmerged.symm
    · cases hsome
    · have hmerged : (a.merge b).compiler = none := by simp [Overrides.merge, hcompiler, hopen]
      rw [compiler_apply (hs.apply hopen), compiler_apply hs, hcompiler, hmerged, os_apply_merge]

/-- Overrides that are in force already change nothing. -/
theorem apply_self (s : Settings) (a : Overrides) : (s.apply a).apply a = s.apply a := by
  have hcompiler : ((s.apply a).apply a).compiler = (s.apply a).compiler := by
    cases hgiven : a.compiler with
    | some compiler => rw [compiler_apply_of_some hgiven, compiler_apply_of_some hgiven]
    | none =>
      refine compiler_apply_of_same hgiven fun os hos => ?_
      rw [os_apply_of_some hos]
  exact Settings.ext (getD_getD ..) hcompiler (orElse_orElse ..) (getD_getD ..) (getD_getD ..)
    (orElse_orElse ..) (orElse_orElse ..)

/-- **Overrides one after the other do what they do merged**, but for the compiler: merged overrides no longer
say that a system was given after the compiler. It is the same if the second overrides bring no system, or a
compiler, or if no compiler was pinned before. And the same overrides a second time change nothing. -/
theorem apply_apply (s : Settings) (a b : Overrides) :
    let inTurn := (s.apply a).apply b
    let merged := s.apply (a.merge b)
    (inTurn.os = merged.os ∧ inTurn.compilerVersion = merged.compilerVersion ∧
      inTurn.buildType = merged.buildType ∧ inTurn.arch = merged.arch ∧
      inTurn.osBuild = merged.osBuild ∧ inTurn.archBuild = merged.archBuild) ∧
    (b.os = none ∨ b.compiler.isSome = true ∨ a.compiler = none ∧ s.compiler = defaultCompiler s.os →
      inTurn = merged) ∧
    (s.apply a).apply a = s.apply a := by
  intro inTurn merged
  have hos : inTurn.os = merged.os := (os_apply_merge s a b).symm
  have hversion : inTurn.compilerVersion = merged.compilerVersion := orElse_assoc ..
  have hbuildType : inTurn.buildType = merged.buildType := (getD_orElse ..).symm
  have harch : inTurn.arch = merged.arch := (getD_orElse ..).symm
  have hosBuild : inTurn.osBuild = merged.osBuild := orElse_assoc ..
  have harchBuild : inTurn.archBuild = merged.archBuild := orElse_assoc ..
  exact ⟨⟨hos, hversion, hbuildType, harch, hosBuild, harchBuild⟩,
    fun h => Settings.ext hos (compiler_apply_merge h) hversion hbuildType harch hosBuild harchBuild,
    apply_self s a⟩

/-- The second system brings its compiler with it, whether the first was applied before it or merged with it. -/
theorem apply_apply_systems :
    let a := { Overrides.none with os := some "Macos", arch := some "armv8" }
    let b := { Overrides.none with os := some "Windows" }
    detect.compiler = defaultCompiler detect.os ∧
      ((detect.apply a).apply b).compiler = "Visual Studio" ∧
      (detect.apply a).apply b = detect.apply (a.merge b) := by
  intro a b
  have hdefault : detect.compiler = defaultCompiler detect.os := rfl
  obtain ⟨-, hsame, -⟩ := apply_apply detect a b
  exact ⟨hdefault, by decide +kernel, hsame (.inr (.inr ⟨rfl, hdefault⟩))⟩

/-- A compiler that was given before a system is replaced, and is kept if both come at once. -/
example :
    let a := { Overrides.none with compiler := some "clang" }
    let b := { Overrides.none with os := some "Windows" }
    ((detect.apply a).apply b).compiler = "Visual Studio" ∧
      (detect.apply (a.merge b)).compiler = "clang" := by
  decide +kernel

end Settings

namespace CommandLine

open Config (Layers)

theorem compiler_resolveSettings (config : Config) (flags : Overrides) :
    (resolveSettings config flags).compiler =
      (flags.compiler <|> config.settings.compiler).getD
        (defaultCompiler (resolveSettings config flags).os) :=
  Settings.compiler_apply Settings.unpinned_detect (config.settings.merge flags)

/-- **The compiler of a run is the one that is given, by the flags or else by the configuration, or else the one
that comes with the operating system of the run.** Where that system comes from and how its name is spelled makes
no difference; and a compiler that is given is that of the highest layer that gives one, whatever systems the
layers and the flags give. -/
theorem resolved_compiler (config : Config) (flags : Overrides) :
    let s := resolveSettings config flags
    let given := flags.compiler <|> config.settings.compiler
    s.os = (flags.os <|> config.settings.os).getD hostOs ∧
    s.compiler = given.getD (defaultCompiler s.os) ∧
    (∀ (config' : Config) (flags' : Overrides),
      (flags'.compiler <|> config'.settings.compiler) = given →
      (normalizeOs (resolveSettings config' flags').os = normalizeOs s.os ∨ given.isSome = true) →
      (resolveSettings config' flags').compiler = s.compiler) ∧
    ∀ l : Layers, config = l.merged → given = (flags.compiler <|> l.highest (·.settings.compiler)) := by
  intro s given
  have hcompiler : s.compiler = given.getD (defaultCompiler s.os) := compiler_resolveSettings config flags
  refine ⟨rfl, hcompiler, fun config' flags' hgiven hos => ?same, fun l hlayers => ?layers⟩
  case same =>
    rw [compiler_resolveSettings config' flags', hgiven, hcompiler]
    rcases hos with hos | hsome
    · rw [defaultCompiler_congr hos]
    · obtain ⟨compiler, hcompiler⟩ := Option.isSome_iff_exists.1 hsome
      rw [hcompiler, Option.getD_some, Option.getD_some]
  case layers =>
    have hitem : Config.Overriding (·.settings.compiler) := ⟨rfl, fun _ _ => rfl⟩
    have hmerged : l.merged.settings.compiler = l.highest (·.settings.compiler) := hitem.merged l
    rw [← hmerged, ← hlayers]

/-- A system that the configuration gives, and the same under another name in the flags. -/
theorem resolved_compiler_respelled :
    let config := { Config.empty with settings := { Overrides.none with os := some " DARWIN\t" } }
    let flags := { Overrides.none with os := some "macOS" }
    normalizeOs (resolveSettings .empty flags).os = normalizeOs (resolveSettings config .none).os ∧
      (resolveSettings config .none).compiler = "apple-clang" ∧
      (resolveSettings .empty flags).compiler = (resolveSettings config .none).compiler := by
  intro config flags
  have hos : normalizeOs (resolveSettings .empty flags).os =
      normalizeOs (resolveSettings config .none).os := by decide +kernel
  obtain ⟨-, -, hsame, -⟩ := resolved_compiler config .none
  exact ⟨hos, by decide +kernel, hsame .empty flags rfl (.inl hos)⟩

end CommandLine

end ConsumerCheck

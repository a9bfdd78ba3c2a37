import ConsumerCheck.Config.Basic
import ConsumerCheck.Proofs.Config.Union
import Mathlib.Control.Monad.Basic

/-!
# Layers that are merged

A configuration has items, which an upper layer decides, and rules, which follow those of the layers below; each
cache definition is an item. What holds of the merge for every item and for the rules holds of the whole
configuration.

* `Overriding` — an item of which the upper one of two layers decides.

Principal results: `eq_of_items` — a configuration is determined by its items and its rules; `merge_assoc` — it
does not matter in which groups layers are merged; `merge_empty` and `empty_merge` — a layer that says nothing
changes nothing.
-/

namespace ConsumerCheck

attribute [ext] Overrides BuildConfig ImportsConfig Config

namespace Config

/-- An item that a configuration may leave open. Of two layers the upper one decides it, unless it
leaves it open. -/
structure Overriding {α : Type} (item : Config → Option α) : Prop where
  empty : item .empty = none
  merge : ∀ base upper : Config, item (base.merge upper) = (item upper <|> item base)

/-- Each key is an item that a configuration may leave open. -/
theorem overriding_definition (key : String) :
    Overriding (·.build.definitions.get? key) :=
  ⟨rfl, fun _ _ => Definitions.get?_union ..⟩

/-- **Two configurations with the same items and the same rules are the same.** -/
theorem eq_of_items {a b : Config}
    (hitem : ∀ {α : Type} (item : Config → Option α), Overriding item → item a = item b)
    (hrules : a.imports.rules = b.imports.rules) : a = b := by
  have hfield {α : Type} (field : Config → Option α) (hempty : field .empty = none)
      (hmerge : ∀ base upper : Config, field (base.merge upper) = (field upper <|> field base)) :
      field a = field b :=
    hitem field ⟨hempty, hmerge⟩
  have hsettings : a.settings = b.settings := by
    refine Overrides.ext ?os ?compiler ?compilerVersion ?buildType ?arch ?osBuild ?archBuild
    case os => exact hfield (·.settings.os) rfl fun _ _ => rfl
    case compiler => exact hfield (·.settings.compiler) rfl fun _ _ => rfl
    case compilerVersion => exact hfield (·.settings.compilerVersion) rfl fun _ _ => rfl
    case buildType => exact hfield (·.settings.buildType) rfl fun _ _ => rfl
    case arch => exact hfield (·.settings.arch) rfl fun _ _ => rfl
    case osBuild => exact hfield (·.settings.osBuild) rfl fun _ _ => rfl
    case archBuild => exact hfield (·.settings.archBuild) rfl fun _ _ => rfl
  have hbuild : a.build = b.build := by
    refine BuildConfig.ext ?generator ?cmake ?sourceDir ?definitions
    case generator => exact hfield (·.build.generator) rfl fun _ _ => rfl
    case cmake => exact hfield (·.build.cmake) rfl fun _ _ => rfl
    case sourceDir => exact hfield (·.build.sourceDir) rfl fun _ _ => rfl
    case definitions =>
      exact Definitions.eq_of_get? fun key => hitem _ (overriding_definition key)
  have himports : a.imports = b.imports :=
    ImportsConfig.ext (hfield (·.imports.filterHostPlatform) rfl fun _ _ => rfl) hrules
  exact Config.ext hsettings hbuild himports

/-- **It does not matter which of two neighbouring merges is made first.** -/
theorem merge_assoc (a b c : Config) : (a.merge b).merge c = a.merge (b.merge c) := by
  refine eq_of_items (fun item hitem => ?_) (List.append_assoc ..)
  rw [hitem.merge, hitem.merge, hitem.merge, hitem.merge, orElse_assoc]

/-- A layer that says nothing changes nothing above another. -/
theorem merge_empty (config : Config) : config.merge .empty = config := by
  refine eq_of_items (fun item hitem => ?_) (List.append_nil _)
  rw [hitem.merge, hitem.empty]
  rfl

/-- A layer that says nothing changes nothing below another. -/
theorem empty_merge (config : Config) : Config.empty.merge config = config := by
  refine eq_of_items (fun item hitem => ?_) (List.nil_append _)
  rw [hitem.merge, hitem.empty]
  exact orElse_failure (item config)

end Config

end ConsumerCheck

import ConsumerCheck.Config.Basic
import ConsumerCheck.Toml.Document

/-!
# Reading a configuration

`Config.ofText?` reads a configuration from TOML, as `toml::from_str` fills a `Config`. What has a name that
no field has is passed over, and what has the wrong type makes the whole text no configuration. The fields of
a group may also be given as an array, in order; what is missing at its end has not been said.

* `Fields` — the values of the fields of a group, by name or in order;
* `Config.ofText?` — a configuration from its text.
-/

namespace ConsumerCheck

namespace Toml

/-- The name under which a date or time stands for a table with one member. -/
def dateTimeName : String := "$__toml_private_datetime"

/-- The members of what can stand for a table. -/
def Value.members? : Value → Option (List (String × Value))
  | table members => some members
  | dateTime text => some [(dateTimeName, .string text)]
  | _ => none

/-- The values of a group's fields, by name or in order. -/
inductive Fields where
  | named (members : List (String × Value))
  | ordered (items : List Value)

/-- The fields of what can stand for a group. -/
def Value.fields? : Value → Option Fields
  | array items => some (.ordered items)
  | v => v.members?.map .named

/-- The value of the field with a name and a place in the order. -/
def Fields.get? (f : Fields) (name : String) (place : Nat) : Option Value :=
  match f with
  | named members => members.lookup name
  | ordered items => items[place]?

/-- A text. -/
def Value.text? : Value → Option String
  | string text => some text
  | _ => none

/-- A truth value. -/
def Value.bool? : Value → Option Bool
  | boolean b => some b
  | _ => none

/-- A path. -/
def Value.path? (v : Value) : Option Path := v.text?.map .ofText

/-- Reads a field that need not be there. The outer `none` says that it has the wrong type. -/
def optional (read : Value → Option α) : Option Value → Option (Option α)
  | none => some none
  | some v => (read v).map some

/-- Reads a field that counts as `default` if it is not there. -/
def orDefault (default : α) (read : Value → Option α) : Option Value → Option α
  | none => some default
  | some v => read v

end Toml

open Toml (Value Fields optional orDefault)

/-- Values for some of the settings. -/
def Overrides.ofValue? (v : Value) : Option Overrides := do
  let f ← v.fields?
  let text (name : String) (place : Nat) := optional Value.text? (f.get? name place)
  return {
    os := ← text "os" 0
    compiler := ← text "compiler" 1
    compilerVersion := ← text "compiler_version" 2
    buildType := ← text "build_type" 3
    arch := ← text "arch" 4
    osBuild := ← text "os_build" 5
    archBuild := ← text "arch_build" 6 }

/-- Cache definitions: a table of texts. -/
def Definitions.ofValue? (v : Value) : Option Definitions := do
  let members ← v.members?
  let entries ← members.mapM fun (key, v) => v.text?.map (key, ·)
  return .ofList entries

/-- How the example is built. -/
def BuildConfig.ofValue? (v : Value) : Option BuildConfig := do
  let f ← v.fields?
  return {
    generator := ← optional Value.text? (f.get? "generator" 0)
    cmake := ← optional Value.path? (f.get? "cmake" 1)
    sourceDir := ← optional Value.path? (f.get? "source_dir" 2)
    definitions := ← orDefault .empty Definitions.ofValue? (f.get? "definitions" 3) }

/-- A naming convention: its name, or a table whose one member has that name and is empty. -/
def Platform.ofValue? : Value → Option Platform
  | .string name => ofName? name
  | .table [(name, .table [])] => ofName? name
  | .table [(name, .array [])] => ofName? name
  | _ => none

/-- A copy rule. -/
def CopyRule.ofValue? (v : Value) : Option CopyRule := do
  let f ← v.fields?
  return {
    platform := ← Platform.ofValue? (← f.get? "platform" 0)
    pattern := ← Value.text? (← f.get? "pattern" 1)
    src := ← Value.path? (← f.get? "src" 2)
    dst := ← orDefault runtimeDir Value.path? (f.get? "dst" 3) }

/-- A list of copy rules. -/
def rulesOfValue? : Value → Option (List CopyRule)
  | .array items => items.mapM CopyRule.ofValue?
  | _ => none

/-- How the package is staged. -/
def ImportsConfig.ofValue? (v : Value) : Option ImportsConfig := do
  let f ← v.fields?
  return {
    filterHostPlatform := ← optional Value.bool? (f.get? "filter_host_platform" 0)
    rules := ← orDefault [] rulesOfValue? (f.get? "rules" 1) }

/-- A configuration from its text. -/
def Config.ofText? (text : String) : Option Config := do
  let members ← Toml.parse text
  return {
    settings := ← orDefault .none Overrides.ofValue? (members.lookup "settings")
    build := ← orDefault .empty BuildConfig.ofValue? (members.lookup "build")
    imports := ← orDefault .empty ImportsConfig.ofValue? (members.lookup "imports") }

end ConsumerCheck

import ConsumerCheck.FileSystem.Seed
import ConsumerCheck.Host.Launch
import ConsumerCheck.Toml.Document

/-!
# Description of a host

A host is described in TOML: the directory that the program is started in, the variables that it sees, and
the files that lie there beside the tools of the host. `Host.ofText?` makes the host from its description.

An entry with the key `text` is a file, which `executable = true` allows to be run; one with the key `link` is
a symbolic link; any other is a directory.
-/

namespace ConsumerCheck.Host

open Toml (Value)

/-- The text of a key. -/
def textOf? (members : List (String × Value)) (key : String) : Option String :=
  match members.lookup key with
  | some (.string text) => some text
  | _ => none

/-- The tables of a key. -/
def tablesOf (members : List (String × Value)) (key : String) : List (List (String × Value)) :=
  match members.lookup key with
  | some (.array items) =>
    items.filterMap fun v => match v with
      | .table m => some m
      | _ => none
  | _ => []

/-- One entry of the file system. -/
def seedOf? (members : List (String × Value)) : Option Seed := do
  let path := Path.ofText (← textOf? members "path")
  match textOf? members "text", textOf? members "link" with
  | some text, _ =>
    let executable := match members.lookup "executable" with
      | some (.boolean b) => b
      | _ => false
    return .file path (Utf8.encode text) executable
  | none, some target => return .link path (.ofText target)
  | none, none => return .directory path

/-- The variables. -/
def variablesOf (members : List (String × Value)) : List (Bytes × Bytes) :=
  match members.lookup "variables" with
  | some (.table vars) =>
    vars.filterMap fun (key, v) => match v with
      | .string text => some (Utf8.encode key, Utf8.encode text)
      | _ => none
  | _ => []

/-- The host that a text describes. -/
def ofText? (text : String) : Option (Context × FileSystem) := do
  let members ← Toml.parse text
  let fs := Shell.hostFiles.plantAll [] ((tablesOf members "entries").filterMap seedOf?)
  let directory := Path.ofText ((textOf? members "directory").getD "/")
  let place := (fs.locate [] directory).toOption.getD []
  return (⟨place, variablesOf members, .ofText "/root"⟩, fs)

end ConsumerCheck.Host

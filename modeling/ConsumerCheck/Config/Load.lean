import ConsumerCheck.Config.Reading
import ConsumerCheck.FileSystem.Operation
import ConsumerCheck.Journal

/-!
# Loading the layers of configuration

Three files make up the configuration, each over the one before it: the user's, the project's, and one that is
named on the command line. The first two may be missing; the third must be readable.

* `Config.load` — one file (`Config::load`);
* `Config.loadLayers` — all three (`load_config`).
-/

namespace ConsumerCheck

/-- Why a configuration could not be loaded. -/
inductive ConfigError where
  /-- The file could not be read. -/
  | unreadable (path : Path) (cause : IoError)
  /-- The file is no configuration. -/
  | malformed (path : Path)
  deriving DecidableEq, Repr

/-- The wording of the fault. -/
def ConfigError.message : ConfigError → String
  | unreadable path _ => "failed to read config: " ++ path.display
  | malformed path => "failed to parse config: " ++ path.display

/-- The wordings of the fault and of what caused it, the outermost first. -/
def ConfigError.chain (e : ConfigError) : List String :=
  match e with
  | unreadable _ cause => e.message :: cause.chain
  | malformed _ => [e.message]

namespace Config

/-- The configuration in a file. -/
def load (fs : FileSystem) (wd : Location) (p : Path) : Except ConfigError Config :=
  match fs.readText wd p with
  | .error cause => .error (.unreadable p cause)
  | .ok text =>
    match ofText? text with
    | some config => .ok config
    | none => .error (.malformed p)

/-- The configuration in a file that may be missing, and what is worth noting. -/
def loadIfPresent (fs : FileSystem) (wd : Location) (p : Path) (event : Event) :
    Except ConfigError Config × List Event :=
  if fs.exists_ wd p then (load fs wd p, [event]) else (.ok empty, [])

/-- The configuration in the three files, and what is worth noting. -/
def loadLayers (fs : FileSystem) (wd : Location) (global : Option Path) (project : Path)
    (explicit : Option Path) : Except ConfigError Config × List Event :=
  let first := match global with
    | some p => loadIfPresent fs wd p (.loadingGlobal p)
    | none => (.ok empty, [])
  match first with
  | (.error e, events) => (.error e, events)
  | (.ok base, events) =>
    match loadIfPresent fs wd project (.loadingProject project) with
    | (.error e, more) => (.error e, events ++ more)
    | (.ok upper, more) =>
      let config := base.merge upper
      match explicit.map (load fs wd) with
      | none => (.ok config, events ++ more)
      | some (.error e) => (.error e, events ++ more)
      | some (.ok top) => (.ok (config.merge top), events ++ more)

end Config

end ConsumerCheck

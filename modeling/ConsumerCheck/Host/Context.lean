import ConsumerCheck.FileSystem.Operation

/-!
# The surroundings of a run

A run has a working directory and variables. The home directory is the variable `HOME`, or that of the
account if the variable is missing or empty, as `BaseDirs` has it.
-/

namespace ConsumerCheck

/-- The surroundings of a run. -/
structure Context where
  workingDirectory : Location
  /-- The variables by name; of two entries the first counts. -/
  environment : List (Bytes × Bytes)
  /-- The home directory of the account. -/
  accountHome : Path
  deriving DecidableEq, Repr

namespace Context

/-- The value of a variable. -/
def valueOf? (c : Context) (name : String) : Option Bytes := c.environment.lookup (Utf8.encode name)

/-- Whether what is written for people may be coloured: the variable `NO_COLOR` is missing, empty or no
text. -/
def wantsColours (c : Context) : Bool :=
  match c.valueOf? "NO_COLOR" with
  | none | some [] => true
  | some octets => (Utf8.decode? octets).isNone

/-- The working directory as an absolute path. -/
def directory (c : Context) : Path :=
  ⟨Path.slash :: Path.joinWith Path.slash c.workingDirectory⟩

/-- The home directory. -/
def home (c : Context) : Path :=
  match c.valueOf? "HOME" with
  | none | some [] => c.accountHome
  | some octets => ⟨octets⟩

/-- The colon, which separates the directories of a search path. -/
def colon : UInt8 := 0x3A

/-- The directories of a search path, empty ones included. -/
def splitSearchPath (octets : Bytes) : List Path := (Path.splitAt colon octets).map Path.mk

end Context

end ConsumerCheck

import ConsumerCheck.Host.Context

/-!
# Search for a program

`findExecutable` looks for a program by name, as `find_executable` does with `which`: in the directories of
`PATH`, or, for a name of more than one component, below the working directory. The first candidate that is a
file and may be run is the answer, as an absolute path, unless that begins with `~`.
-/

namespace ConsumerCheck

/-- A path below a directory, unless it is absolute. Of a relative path only the components count, and
`.` at its beginning does not. -/
def Path.absolute (directory p : Path) : Path :=
  if p.isAbsolute then p
  else (p.components.filter (· != .here)).foldl (fun q c => q.join ⟨c.octets⟩) directory

namespace Context

/-- A directory of the search path, where `~` at its beginning stands for the home directory. -/
def expandHome (c : Context) (p : Path) : Path :=
  match p.components with
  | .name [0x7E] :: rest => rest.foldl (fun q d => q.join ⟨d.octets⟩) c.home
  | _ => p

/-- The places where a program may be. Those below the working directory are absolute. -/
def candidates (c : Context) (name : Path) : List Path :=
  if 1 < name.components.length then [c.directory.absolute name]
  else
    match c.valueOf? "PATH" with
    | none => []
    | some octets => (splitSearchPath octets).map fun dir => (c.expandHome dir).join name

/-- Whether the first component of a path is `~`. -/
def beginsAtHome (p : Path) : Bool := p.components.head? == some (.name [0x7E])

/-- The program of a name, as an absolute path unless it begins with `~`. -/
def findExecutable (c : Context) (fs : FileSystem) (name : Path) : Option Path :=
  ((c.candidates name).find? fun p => fs.isExecutable c.workingDirectory p).map fun p =>
    if beginsAtHome p then p else c.directory.absolute p

/-- The CMake program. -/
def findCmake (c : Context) (fs : FileSystem) : Option Path := c.findExecutable fs (.ofText "cmake")

end Context

end ConsumerCheck

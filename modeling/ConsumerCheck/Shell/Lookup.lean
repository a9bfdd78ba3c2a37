import ConsumerCheck.Shell.Builtin.Quoting
import ConsumerCheck.Shell.Process
import ConsumerCheck.Shell.Program

/-!
# What the name of a command stands for

A name stands for a function, for a command that the shell has itself, or for a program on the search path.
The shell keeps in mind where it has found a program.

* `Meaning` — what a name stands for;
* `Session.meaning` — the meaning of a name;
* `Session.withLocated` — a program that is kept in mind.
-/

namespace ConsumerCheck.Shell

/-- What the name of a command stands for. -/
inductive Meaning where
  | function (body : Statement)
  | builtin
  /-- A program at a path; `kept` says that the shell has kept it in mind. -/
  | program (path : Chars) (kept : Bool)
  /-- Nothing that can be run; perhaps there is a file with the name. -/
  | missing (denied : Bool)

/-- The commands that the shell has itself, apart from the special ones. -/
def usualCommands : List String := [
  "[", "alias", "bg", "cd", "chdir", "command", "echo", "false", "fg", "getopts", "hash", "jobs",
  "kill", "printf", "pwd", "read", "test", "true", "type", "ulimit", "umask", "unalias", "wait"]

/-- The commands that only the richer shell has. -/
def richCommands : List String :=
  ["builtin", "declare", "dirs", "let", "mapfile", "popd", "pushd", "readarray", "shopt", "source", "typeset"]

/-- Whether the shell has a command whose failures end a script. -/
def isSpecial (name : Chars) : Bool := specialCommands.contains (String.ofList name)

/-- Whether the shell has a command itself. -/
def isBuiltin (rich : Bool) (name : Chars) : Bool :=
  isSpecial name || (usualCommands.contains (String.ofList name) && !(rich && name = chars "chdir")) ||
    (rich && richCommands.contains (String.ofList name))

/-- Whether a path leads to a file that may be run. -/
def isProgram (s : Session) (path : Chars) : Bool :=
  s.files.isExecutable s.directory (Session.path path)

namespace Session

/-- The directories in which programs are looked for. -/
def searchPath (s : Session) : Chars := (s.stored? (chars "PATH")).getD []

/-- The paths of a program on a search path. -/
def candidates (searchPath name : Chars) : List Chars :=
  (Path.splitAt 0x3A (toOctets searchPath)).map fun dir =>
    if dir = [] then name else ofOctets dir ++ '/' :: name

/-- The first program of a name on a search path. -/
def search (s : Session) (searchPath name : Chars) : Meaning :=
  let paths := candidates searchPath name
  match paths.find? (isProgram s) with
  | some path => .program path false
  | none => .missing (paths.any fun path => s.files.exists_ s.directory (Session.path path))

/-- The meaning of a name. A search path may be given in the place of the usual one. -/
def meaning (s : Session) (functions : Bool) (path : Option Chars) (name : Chars) : Meaning :=
  match if functions then s.functions.lookup name else none with
  | some body => .function body
  | none =>
    if isBuiltin s.rich name then .builtin
    else if name.contains '/' then .program name false
    else
      match path, s.located.lookup name with
      | none, some l =>
        if l.stale && l.path.head? ≠ some '/' then s.search s.searchPath name
        else .program l.path true
      | none, none => s.search s.searchPath name
      | some path, _ => s.search path name

/-- With a program that is kept in mind, or is not. -/
def withLocated (s : Session) (name : Chars) (path : Option Chars) : Session :=
  match path with
  | none => { s with located := s.located.filter (·.1 ≠ name) }
  | some path =>
    let entry := (name, Located.mk path false)
    if s.located.any (·.1 = name) then
      { s with located := s.located.map fun e => if e.1 = name then entry else e }
    else { s with located := s.located ++ [entry] }

end Session

/-- The complaint that a command is not there, or that it may not be run. -/
def missingComplaint (name : Chars) (denied : Bool) : Chars :=
  name ++ chars (": " ++ if denied then OsError.permissionDenied.text else "not found")

/-- The complaint of the richer shell that a command is not there. -/
def richMissingComplaint (s : Session) (name : Chars) : Chars :=
  let shown := if Builtin.needsEscapes name then Builtin.escaped name else name
  shown ++ chars (": " ++ if s.searchPath = [] then OsError.noEntry.text else "command not found")

end ConsumerCheck.Shell

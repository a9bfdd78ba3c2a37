import ConsumerCheck.Shell.Machine

/-!
# Programs of the host

Some files of the host are tools that the library knows. Every other program is a script whose first line
names the program that reads it.

* `Tool` — the tools, with the places where they lie;
* `hostFiles` — the file system of a host before anything is added;
* `interpreter` — the program and the argument that the first line of a script names;
* `image` — the tool that runs if a file is started, with its arguments.
-/

namespace ConsumerCheck.Shell

/-- The tools of the host. -/
inductive Tool where
  | shell
  | richShell
  | env
  | echo
  | printf
  | test
  | bracket
  | pwd
  | printenv
  | succeed
  | fail
  | sleep
  | whoami
  | cat
  | chmod
  | mkdir
  | rmdir
  | rm
  | touch
  | copy
  | move
  | link
  | list
  | readlink
  | basename
  | dirname
  | head
  | tail
  | count
  | sort
  | unique
  | translate
  | cut
  | tee
  | sequence
  | repeat_
  | uname
  | grep
  | edit
  deriving DecidableEq, Repr

namespace Tool

/-- The tools by name. -/
def names : List (String × Tool) := [
  ("sh", shell), ("dash", shell), ("bash", richShell), ("env", env), ("echo", echo), ("printf", printf), ("test", test),
  ("[", bracket), ("pwd", pwd), ("printenv", printenv), ("true", succeed), ("false", fail),
  ("sleep", sleep), ("whoami", whoami), ("cat", cat), ("chmod", chmod), ("mkdir", mkdir),
  ("rmdir", rmdir), ("rm", rm), ("touch", touch), ("cp", copy), ("mv", move), ("ln", link),
  ("ls", list), ("readlink", readlink), ("basename", basename), ("dirname", dirname),
  ("head", head), ("tail", tail), ("wc", count), ("sort", sort), ("uniq", unique),
  ("tr", translate), ("cut", cut), ("tee", tee), ("seq", sequence), ("yes", repeat_), ("uname", uname),
  ("grep", grep), ("sed", edit)]

/-- The directories that hold the tools. -/
def directories : List Location := [[Utf8.encode "bin"], [Utf8.encode "usr", Utf8.encode "bin"]]

/-- The tools by place. -/
def places : List (Location × Tool) :=
  directories.flatMap fun dir => names.map fun (name, tool) => (dir ++ [Utf8.encode name], tool)

/-- The tool at a place. -/
def at? (place : Location) : Option Tool := places.lookup place

end Tool

/-- Scripts of the host that start a tool under another name. -/
def scripts : List (String × String) :=
  [("egrep", "-E"), ("fgrep", "-F")].map fun (name, option) =>
    (name, "#!/bin/sh\ncmd=$\x7b0##*/\x7d\nexec grep " ++ option ++ " \"$@\"\n")

/-- The contents of a file that is no script. -/
def binaryContents : Bytes := [0x7F, 0x45, 0x4C, 0x46]

/-- The devices by name. -/
def devices : List (String × Device) :=
  [("null", .null), ("zero", .zeros), ("full", .full), ("tty", .terminal)]

/-- The file system of a host before anything is added. A run has nothing to read, which is what the name for
its input stands for. -/
def hostFiles : FileSystem :=
  let dirs := [[Utf8.encode "bin"], [Utf8.encode "usr"], [Utf8.encode "usr", Utf8.encode "bin"],
    [Utf8.encode "dev"], [Utf8.encode "tmp"], [Utf8.encode "root"]]
  let fs := dirs.foldl (fun fs place => fs.put place (.directory .folder)) FileSystem.empty
  let at_ (name : String) : Location := [Utf8.encode "dev", Utf8.encode name]
  let fs := devices.foldl (fun fs (name, kind) => fs.put (at_ name) (.device kind)) fs
  let fs := fs.put (at_ "stdin") (.link (.ofText "/dev/null"))
  let fs := Tool.places.foldl (fun fs (place, _) => fs.put place (.file binaryContents .program)) fs
  Tool.directories.foldl (fun fs dir =>
    scripts.foldl (fun fs (name, text) =>
      fs.put (dir ++ [Utf8.encode name]) (.file (Utf8.encode text) .program)) fs) fs

/-- Whether an octet separates the words of a first line. -/
def isGap (b : UInt8) : Bool := b == 0x20 || b == 0x09

/-- Whether an octet ends a word of a first line. -/
def isEnd (b : UInt8) : Bool := isGap b || b == 0

/-- How much of a script is looked at for its first line. -/
def firstLineLimit : Nat := 256

/-- The program that the first line of a script names, and the argument after it. A line that has no end in the
part that is looked at is cut, which a program's name must not be. What lies behind the script counts as zeros. -/
def interpreter (contents : Bytes) : Option (Path × Option Bytes) :=
  match contents with
  | 0x23 :: 0x21 :: rest =>
    let window := (rest ++ List.replicate firstLineLimit 0).take (firstLineLimit - 2)
    let whole := window.contains 0x0A
    let line := if whole then window.takeWhile (· != 0x0A) else window.dropLast
    let line := (line.reverse.dropWhile isGap).reverse.dropWhile isGap
    let name := line.takeWhile fun b => !isEnd b
    let cut := !whole && !(window.dropWhile isGap).any isEnd
    if line = [] ∨ cut then none
    else
      let after := line.drop name.length
      let argument := (after.dropWhile isGap).takeWhile (· != 0)
      some (⟨name⟩, if after.head?.any isGap then some argument else none)
  | _ => none

/-- The number of scripts that may read one another. -/
def maxInterpreters : Nat := 5

/-- The tool that runs if the file at a path is started, with its arguments. The first argument is the name
under which a program was started. -/
def image (fs : FileSystem) (wd : Location) :
    Nat → Path → List Chars → Except OsError (Tool × List Chars)
  | depth, p, arguments =>
    match fs.locate wd p with
    | .error (.os e) => .error e
    | .error _ => .error .noEntry
    | .ok place =>
      match fs.get? place with
      | some (.file contents permissions) =>
        if !permissions.mayEnter then .error .permissionDenied
        else match Tool.at? place with
        | some tool => .ok (tool, arguments)
        | none =>
          match interpreter contents, depth with
          | none, _ => .error .execFormat
          | some _, 0 => .error .tooManyLinks
          | some (name, argument), depth + 1 =>
            if name.octets = [] then .error .permissionDenied
            else image fs wd depth name
              (ofOctets name.octets :: (argument.map ofOctets).toList ++
                ofOctets p.octets :: arguments.tail)
      | some _ => .error .permissionDenied
      | none => .error .noEntry

/-- How much of a file is looked at to see whether it is a text. -/
def textWindow : Nat := 128

/-- Whether an octet may be in the first line of a text. -/
def isTextOctet (b : UInt8) : Bool :=
  (9 ≤ b && b ≤ 15) || b == 27 || (32 ≤ b && b != 127)

/-- Whether a file looks like a text, to judge from its first line. -/
def looksLikeText (contents : Bytes) : Bool :=
  ((contents.take textWindow).takeWhile (· != 0x0A)).all isTextOctet

/-- Whether a file may be a script for the richer shell, to judge from its first line. -/
def looksLikeScript (contents : Bytes) : Bool :=
  !binaryContents.isPrefixOf contents && !((contents.take textWindow).takeWhile (· != 0x0A)).contains 0

/-- Whether the search for a program goes on after a refusal. -/
def searchGoesOn (e : OsError) : Bool :=
  [OsError.permissionDenied, .noEntry, .notDirectory].contains e

/-- The search path where none is set. -/
def usualSearchPath : Bytes := Utf8.encode "/bin:/usr/bin"

/-- The first of these paths that can be started. If none can, it counts that one was there and may not
be run. -/
def firstImage (start : Path → Except OsError α) (denied : Bool) (last : OsError) :
    List Path → Except OsError α
  | [] => .error (if denied then .permissionDenied else last)
  | p :: rest =>
    match start p with
    | .ok a => .ok a
    | .error e =>
      if searchGoesOn e then firstImage start (denied || e == .permissionDenied) e rest
      else .error e

/-- What is started under a name: the file itself if the name has a slash, else the first one on the
search path. -/
def search (searchPath : Option Bytes) (name : Path) (start : Path → Except OsError α) :
    Except OsError α :=
  if name.octets = [] then .error .noEntry
  else if name.octets.contains Path.slash then start name
  else if FileSystem.maxName < name.octets.length then .error .nameTooLong
  else
    let dirs := Path.splitAt 0x3A (searchPath.getD usualSearchPath)
    firstImage start false .noEntry
      (dirs.map fun dir =>
        ⟨if dir = [] then name.octets else dir ++ Path.slash :: name.octets⟩)

end ConsumerCheck.Shell

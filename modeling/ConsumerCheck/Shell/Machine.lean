import ConsumerCheck.FileSystem.Operation
import ConsumerCheck.Shell.Syntax

/-!
# What processes share

Processes share the files of the host, the pipes between them, and the files that they have open: a
descriptor that is handed on, or copied, reads on where the other one has stopped.

* `Pipe` — a text on its way from those who write to those who read;
* `OpenFile` — a file, and how far it was read or written;
* `Channel` — where a descriptor leads;
* `Machine` — all that processes share, with `Machine.write`, `Machine.available` and `Machine.consume`.
-/

namespace ConsumerCheck.Shell

/-- A text on its way. What was written last comes first in `back`. -/
structure Pipe where
  front : Chars
  back : List Chars
  /-- How much more can be written, if that is limited. -/
  room : Option Nat
  deriving Repr

namespace Pipe

/-- A pipe with a text in it. -/
def ofText (text : Chars) : Pipe := ⟨text, [], none⟩

/-- All that is in a pipe. -/
def text (p : Pipe) : Chars := p.front ++ p.back.reverse.flatten

/-- A pipe with more text at its end. -/
def push (p : Pipe) (text : Chars) : Pipe :=
  { p with back := text :: p.back, room := p.room.map (· - text.length) }

/-- Whether a text is too long for a pipe. -/
def overflows (p : Pipe) (text : Chars) : Bool := p.room.any (· < text.length)

/-- A pipe without so many characters at its beginning. -/
def drop (p : Pipe) (n : Nat) : Pipe :=
  if n ≤ p.front.length then { p with front := p.front.drop n }
  else { p with front := p.text.drop n, back := [] }

end Pipe

/-- An open file. -/
structure OpenFile where
  place : Location
  /-- How much of the file lies before the next octet that is read or written. -/
  offset : Nat
  readable : Bool
  writable : Bool
  /-- Whether all writing goes to the end. -/
  appending : Bool
  deriving Repr

/-- Where a descriptor leads. -/
inductive Channel where
  /-- To the end of a pipe at which is written, or to the other one. -/
  | pipe (index : Nat) (writing : Bool)
  | file (index : Nat)
  /-- To a directory, which cannot be read like a file. -/
  | directory
  | device (kind : Device)
  deriving DecidableEq, Repr

/-- What processes share. -/
structure Machine where
  files : FileSystem
  pipes : Array Pipe
  openFiles : Array OpenFile
  /-- The number of the last process. -/
  processes : Nat
  /-- The numbers of the shells that run scripts. -/
  shells : List Nat
  /-- Signals on their way, each with the number of the process that it goes to. -/
  signals : List (Nat × Nat)
  /-- How many commands have run. -/
  commands : Nat

namespace Machine

/-- A host on which nothing runs yet. -/
def ofFiles (files : FileSystem) : Machine := ⟨files, #[], #[], 4711, [], [], 0⟩

/-- With a new pipe, and its number. -/
def newPipe (m : Machine) (pipe : Pipe) : Machine × Nat :=
  ({ m with pipes := m.pipes.push pipe }, m.pipes.size)

/-- With a file that is opened. -/
def openFile (m : Machine) (f : OpenFile) : Machine × Channel :=
  ({ m with openFiles := m.openFiles.push f }, .file m.openFiles.size)

/-- What is in a pipe. -/
def collected (m : Machine) (index : Nat) : Chars := (m.pipes[index]?.map Pipe.text).getD []

/-- The number of a new process. -/
def newProcess (m : Machine) : Machine × Nat :=
  ({ m with processes := m.processes + 1 }, m.processes + 1)

/-- The place of the file that a channel leads to. -/
def placeOf? (m : Machine) (channel : Channel) : Option Location :=
  match channel with
  | .file index => m.openFiles[index]?.map (·.place)
  | _ => none

/-- Text written where a channel leads. -/
def write (m : Machine) (channel : Channel) (text : Chars) : Except OsError Machine :=
  match channel with
  | .device .full => if text = [] then .ok m else .error .noSpace
  | .device _ => .ok m
  | .directory => .error .badDescriptor
  | .pipe _ false => .error .badDescriptor
  | .pipe index true =>
    if m.pipes[index]?.any (·.overflows text) then .error .brokenPipe
    else .ok { m with pipes := m.pipes.modify index (·.push text) }
  | .file index =>
    match m.openFiles[index]? with
    | none => .error .badDescriptor
    | some f =>
      if !f.writable then .error .badDescriptor
      else
        match m.files.get? f.place with
        | some (.file contents permissions) =>
          let octets := toOctets text
          let offset := if f.appending then contents.length else f.offset
          let gap := List.replicate (offset - contents.length) 0
          let after := contents.take offset ++ gap ++ octets ++
            contents.drop (offset + octets.length)
          .ok { m with
            files := m.files.rewrite f.place (.file after permissions)
            openFiles := m.openFiles.modify index fun f =>
              { f with offset := offset + octets.length } }
        | _ => .ok m

/-- How many zeros a device without end gives at once. -/
def zerosAtOnce : Nat := 65536

/-- All that can be read where a channel leads. -/
def available (m : Machine) (channel : Channel) : Except OsError Chars :=
  match channel with
  | .device .zeros | .device .full => .ok (List.replicate zerosAtOnce '\x00')
  | .device _ => .ok []
  | .directory => .error .isDirectory
  | .pipe _ true => .error .badDescriptor
  | .pipe index false => .ok (m.collected index)
  | .file index =>
    match m.openFiles[index]? with
    | none => .error .badDescriptor
    | some f =>
      if !f.readable then .error .badDescriptor
      else .ok (ofOctets ((m.files.contentsAt f.place).drop f.offset))

/-- After so many characters were read where a channel leads. -/
def consume (m : Machine) (channel : Channel) (n : Nat) : Machine :=
  match channel with
  | .pipe index _ => { m with pipes := m.pipes.modify index (·.drop n) }
  | .file index =>
    { m with openFiles := m.openFiles.modify index fun f => { f with offset := f.offset + n } }
  | _ => m

end Machine

end ConsumerCheck.Shell

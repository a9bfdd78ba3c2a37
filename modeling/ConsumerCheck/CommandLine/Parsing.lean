import ConsumerCheck.CommandLine.Invocation
import ConsumerCheck.Host.Context

/-!
# Reading a command line

Arguments are read from left to right, as `clap` reads them. An option that takes a value waits for it: the
next argument that does not look like an option is its value. A value is looked at only when the next option
is met or the arguments end, so a fault in it is found late; `--name=value` and a value after a letter are
looked at directly. After `--` no argument is an option.

* `Level` — what was given so far, and the option whose value is still to be looked at;
* `readLevel` — the arguments of one level, up to a command;
* `parse` — a whole command line, with the variables that stand in for options.
-/

namespace ConsumerCheck.CommandLine

/-- What one level of a command line gives. -/
structure Level where
  given : List (Item × ItemValue)
  /-- An item whose value is still to be looked at, or still to come. -/
  pending : Option (Spelling × Option Bytes)
  deriving DecidableEq, Repr

namespace Level

/-- A level before its first argument. -/
def empty : Level := ⟨[], none⟩

/-- Whether an item is given. -/
def has (l : Level) (item : Item) : Bool := l.given.any (·.1 == item)

/-- The level with one more value, which is looked at. -/
def accept (l : Level) (s : Spelling) (octets : Bytes) : Except UsageError Level :=
  if !s.mayRepeat && l.has s.item then .error .repeated
  else (s.kind.read octets).map fun v => { l with given := l.given ++ [(s.item, v)] }

/-- The level with the pending value looked at. -/
def settle (l : Level) : Except UsageError Level :=
  match l.pending with
  | none => .ok l
  | some (_, none) => .error .invalidValue
  | some (s, some octets) => { l with pending := none }.accept s octets

/-- The level after an option with its value, if it has one. -/
def react (l : Level) (s : Spelling) (octets : Bytes) : Except UsageError Level := do
  let l ← l.settle
  match s.item with
  | .help => .error .helpWanted
  | .version => .error .versionWanted
  | _ => l.accept s octets

/-- The level in which an option waits for its value. -/
def await (l : Level) (s : Spelling) : Except UsageError Level := do
  let l ← l.settle
  .ok { l with pending := some (s, none) }

/-- Whether an option waits for its value. -/
def isWaiting (l : Level) : Bool :=
  match l.pending with
  | some (_, none) => true
  | _ => false

end Level

/-- The equals sign. -/
def equals : UInt8 := 0x3D

/-- An option with a long name, after its two hyphens. -/
def readLong (options : List Spelling) (l : Level) (body : Bytes) : Except UsageError Level :=
  let name := body.takeWhile (· != equals)
  let value := if name.length < body.length then some (body.drop (name.length + 1)) else none
  match options.find? fun s => s.long.any fun long => Utf8.encode long == name with
  | none => .error .unknownArgument
  | some s =>
    match s.takesValue, value with
    | true, some octets => l.react s octets
    | true, none => l.await s
    | false, some _ => .error .unneededValue
    | false, none => l.react s []

/-- Options with one letter each, after their hyphen. What follows a letter that takes a value is the value,
where an equals sign in front does not count. -/
def readShort (options : List Spelling) (l : Level) : Bytes → Except UsageError Level
  | [] => .ok l
  | letter :: rest =>
    match options.find? fun s => s.short == some letter with
    | none => .error .unknownArgument
    | some s =>
      if s.takesValue then
        match rest with
        | [] => l.await s
        | b :: more => l.react s (if b = equals then more else rest)
      else
        match l.react s [] with
        | .error e => .error e
        | .ok l => readShort options l rest

/-- What a level is made of. -/
structure Grammar where
  options : List Spelling
  /-- The argument without a name, if the level takes one. -/
  operand : Option Spelling
  /-- Whether a command may follow. -/
  takesCommand : Bool

/-- What an argument that is no option is. -/
def readOperand (g : Grammar) (trailing : Bool) (l : Level) (arg : Bytes) :
    Except UsageError Level :=
  let fresh (s : Spelling) : Bool := !l.has s.item && l.pending.all (·.1.item != s.item)
  match g.operand.filter fresh with
  | some s => do
    let l ← l.settle
    .ok { l with pending := some (s, some arg) }
  | none =>
    if g.takesCommand && !(trailing && (CommandName.ofOctets? arg).isSome) then
      .error .unknownCommand
    else .error .unknownArgument

/-- The arguments of a level: what they give, and the command that ends them with the arguments after
it. -/
def readLevel (g : Grammar) (trailing : Bool) (l : Level) :
    List Bytes → Except UsageError (Level × Option (CommandName × List Bytes))
  | [] => .ok (l, none)
  | arg :: rest =>
    if trailing then
      match readOperand g true l arg with
      | .error e => .error e
      | .ok l => readLevel g true l rest
    else
      let command := if g.takesCommand && !l.isWaiting then CommandName.ofOctets? arg else none
      match command, arg with
      | some c, _ => .ok (l, some (c, rest))
      | none, [0x2D, 0x2D] => readLevel g true l rest
      | none, 0x2D :: 0x2D :: body =>
        match readLong g.options l body with
        | .error e => .error e
        | .ok l => readLevel g false l rest
      | none, 0x2D :: letter :: letters =>
        match readShort g.options l (letter :: letters) with
        | .error e => .error e
        | .ok l => readLevel g false l rest
      | none, _ =>
        match l.pending with
        | some (s, none) => readLevel g false { l with pending := some (s, some arg) } rest
        | _ =>
          match readOperand g false l arg with
          | .error e => .error e
          | .ok l => readLevel g false l rest

/-- A level with the items that variables give. -/
structure FullLevel where
  arguments : Level
  /-- The items that come from variables. -/
  fallback : Level

/-- The items that variables give where no argument does. -/
def readVariables (c : Context) (arguments : Level) :
    List Spelling → Level → Except UsageError Level
  | [], l => .ok l
  | s :: rest, l =>
    match s.variableName.bind c.valueOf?, arguments.has s.item with
    | some octets, false =>
      match l.accept s octets with
      | .error e => .error e
      | .ok l => readVariables c arguments rest l
    | _, _ => readVariables c arguments rest l

/-- A level with its last value looked at and with the variables. -/
def finish (c : Context) (options : List Spelling) (l : Level) : Except UsageError FullLevel := do
  let arguments ← l.settle
  let fallback ← readVariables c arguments options .empty
  .ok ⟨arguments, fallback⟩

/-- The values of an item in a level. -/
def Level.valuesOf (l : Level) (item : Item) : List ItemValue :=
  l.given.filterMap fun v => if v.1 = item then some v.2 else none

/-- The text of an item. -/
def Level.text? (l : Level) (item : Item) : Option String :=
  (l.valuesOf item).findSome? fun v => match v with
    | .text t => some t
    | _ => none

/-- The path of an item. -/
def Level.path? (l : Level) (item : Item) : Option Path :=
  (l.valuesOf item).findSome? fun v => match v with
    | .path p => some p
    | _ => none

/-- The settings that a level gives. -/
def settingsOf (l : Level) : Overrides where
  os := l.text? .os
  compiler := l.text? .compiler
  compilerVersion := l.text? .compilerVersion
  buildType := l.text? .buildType
  arch := l.text? .arch
  osBuild := l.text? .osBuild
  archBuild := l.text? .archBuild

/-- The definitions that a level gives, in order. -/
def definitionsOf (l : Level) : List (String × String) :=
  (l.valuesOf .define).filterMap fun v => match v with
    | .definition key value => some (key, value)
    | _ => none

/-- What a step is given. -/
def stepFlagsOf (f : FullLevel) : StepFlags where
  settings := settingsOf f.arguments
  packageFolder := f.arguments.path? .packageFolder <|> f.fallback.path? .packageFolder
  sourceDir := f.arguments.path? .sourceDir
  buildDir := f.arguments.path? .buildDir
  generator := f.arguments.text? .generator
  definitions := definitionsOf f.arguments
  filterHost := f.arguments.has .filterHost

/-- The format in which a report is written if none is asked for. -/
def usualFormat : String := "human"

/-- The request of a command. -/
def requestOf (command : CommandName) (f : FullLevel) : Except UsageError Request :=
  match command with
  | .verify =>
    .ok (.verify (stepFlagsOf f) ((f.arguments.text? .outputFormat).getD usualFormat))
  | .imports => .ok (.imports (stepFlagsOf f))
  | .build => .ok (.build (stepFlagsOf f))
  | .test => .ok (.test (stepFlagsOf f))
  | .settings => .ok (.settings (settingsOf f.arguments) (f.arguments.has .json))
  | .completions =>
    match (f.arguments.valuesOf .shell).head? with
    | some (.shell s) => .ok (.completions s)
    | _ => .error .missingArgument
  | .help => .error .helpWanted

/-- What the command `help` answers: it must be asked about commands that exist, and no command has
commands of its own. -/
def helpAnswer : List Bytes → UsageError
  | [] => .helpWanted
  | [arg] => if (CommandName.ofOctets? arg).isSome then .helpWanted else .unknownCommand
  | _ => .unknownCommand

/-- The arguments of a command. -/
def readCommand (c : Context) (command : CommandName) (args : List Bytes) :
    Except UsageError (FullLevel × Request) := do
  let (l, _) ← readLevel ⟨command.options, command.operand?, false⟩ false .empty args
  let f ← finish c command.options l
  .ok (f, ← requestOf command f)

/-- A whole command line. An option that holds for every command may stand in front of the command and after
it; the one after it counts, and an argument counts more than a variable. -/
def parse (c : Context) (args : List Bytes) : Except UsageError Invocation := do
  let (l, rest) ← readLevel ⟨outerOptions, none, true⟩ false .empty args
  match rest with
  | some (.help, more) => .error (helpAnswer more)
  | some (command, more) =>
    let (inner, request) ← readCommand c command more
    let outer ← finish c outerOptions l
    .ok {
      verbose := outer.arguments.has .verbose || inner.arguments.has .verbose
      config := inner.arguments.path? .config <|> outer.arguments.path? .config <|>
        inner.fallback.path? .config <|> outer.fallback.path? .config
      request }
  | none =>
    let outer ← finish c outerOptions l
    if outer.arguments.given.isEmpty && outer.fallback.given.isEmpty then .error .nothingGiven
    else .error .missingCommand

end ConsumerCheck.CommandLine

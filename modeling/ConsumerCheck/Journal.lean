import ConsumerCheck.CopyRule
import ConsumerCheck.Failure
import ConsumerCheck.Settings.Basic

/-!
# The journal of a run

The events that `tracing` is told of, and the log that its subscriber writes.

* `Event` — what is worth noting while the steps are made;
* `Event.level`, `Event.message` — how important it is, and its wording;
* `Event.line` — an event as one entry of the log, where the level may have a colour.
-/

namespace ConsumerCheck

/-- How important an event is. -/
inductive Level where
  | debug
  | info
  | error
  deriving DecidableEq, Repr

/-- The name of a level, five columns wide. -/
def Level.column : Level → String
  | debug => "DEBUG"
  | info => " INFO"
  | error => "ERROR"

/-- The number by which a terminal is asked for the colour of a level. -/
def Level.colour : Level → String
  | debug => "34"
  | info => "32"
  | error => "31"

/-- A text between the signs by which a terminal changes its colour and changes it back. -/
def inColour (colour text : String) : String := "\x1b[" ++ colour ++ "m" ++ text ++ "\x1b[0m"

/-- What happens in a run. -/
inductive Event where
  | loadingGlobal (path : Path)
  | loadingProject (path : Path)
  | ruleSkipped (pattern : String) (platform : Platform)
  | nothingToCopy (src : Path) (pattern : String)
  | matched (pattern : String) (count : Nat) (directory : Path)
  | copied (source dest : Path)
  | imported (count : Nat)
  | configuring (settings : Settings)
  | building
  | running (command : String)
  | built (command : String)
  | testSkipped (reason : String)
  | testing (command : String)
  | exampleOutput (text : String)
  | testPassed
  | stepFailed (step : String) (failure : Failure)
  deriving DecidableEq, Repr

namespace Event

/-- The level of an event. -/
def level : Event → Level
  | imported _ | configuring _ | building | testSkipped _ | testing _ | testPassed => .info
  | stepFailed .. => .error
  | _ => .debug

/-- The wording of an event. -/
def message : Event → String
  | loadingGlobal path => "Loading global config from " ++ path.display
  | loadingProject path => "Loading project config from " ++ path.display
  | ruleSkipped pattern platform => "Skipping `" ++ pattern ++ "` rule for " ++ platform.name
  | nothingToCopy src pattern =>
    "No `" ++ src.display ++ "` directory in package folder, nothing to copy for `" ++ pattern ++ "`"
  | matched pattern count directory =>
    "`" ++ pattern ++ "` matched " ++ toString count ++ " file(s) in " ++ directory.display
  | copied source dest => "Copied " ++ source.display ++ " -> " ++ dest.display
  | imported count => "Imported " ++ toString count ++ " runtime artifact(s)"
  | configuring settings => "Configuring example (" ++ settings.display ++ ")"
  | building => "Building example"
  | running command => "Running `" ++ command ++ "`"
  | built command => "Built with `" ++ command ++ "`"
  | testSkipped reason => "Smoke test skipped (" ++ reason ++ ")"
  | testing command => "Running `" ++ command ++ "`"
  | exampleOutput text => "example output:\n" ++ text
  | testPassed => "Smoke test passed"
  | stepFailed step failure => step ++ " step failed: " ++ failure.message

/-- A control character that a terminal would act on, spelled out; any other character. -/
def visible (c : Char) : List Char :=
  let n := c.toNat
  if n = 0x07 ∨ n = 0x08 ∨ n = 0x0C ∨ n = 0x1B ∨ n = 0x7F then
    '\\' :: 'x' :: (if n < 0x10 then ['0'] else []) ++ Nat.toDigits 16 n
  else if 0x80 ≤ n ∧ n ≤ 0x9F then
    ['\\', 'u', '\x7b'] ++ Nat.toDigits 16 n ++ ['\x7d']
  else [c]

/-- The entry of an event in the log. -/
def line (coloured : Bool) (e : Event) : String :=
  (if coloured then inColour e.level.colour e.level.column else e.level.column) ++ " " ++ String.ofList (e.message.toList.flatMap visible) ++ "\n"

end Event

/-- The log of the events at the levels that are wanted. -/
def journalText (coloured verbose : Bool) (events : List Event) : String :=
  String.join ((events.filter fun e => verbose || e.level != .debug).map (Event.line coloured))

end ConsumerCheck

import ConsumerCheck.Shell.Evaluate

/-!
# The shell, tied together

Statements hold statements, and functions call functions. A script that goes deeper than `maxDepth` is stopped
as if by a signal.

* `runStatement` — a statement, run with all that is in it;
* `runProgram` — a program of the host.
-/

namespace ConsumerCheck.Shell

/-- A statement, run up to a depth. -/
def runStatement : Nat → Evaluate
  | 0 => fun _ _ => throw (.killed depthSignal)
  | n + 1 => evaluate (runStatement n)

/-- How deep a script may go. -/
def maxDepth : Nat := 30000

/-- A program of the host, started by a process. -/
def runProgram (starter : Session) (tool : Tool) (arguments environment : List Chars) :
    Exit × Machine :=
  runTool (runStatement maxDepth) maxStarts starter tool arguments environment

end ConsumerCheck.Shell

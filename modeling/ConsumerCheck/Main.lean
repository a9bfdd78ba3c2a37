import ConsumerCheck.CommandLine.Run
import ConsumerCheck.Host.Description

/-!
# The command line

The program takes its arguments from its caller and a description of the host from standard input. It makes
what the arguments ask for on that host and answers with the output, the error output and the exit code.
-/

namespace ConsumerCheck

/-- Everything that is left to read. -/
partial def readAll (input : IO.FS.Stream) (before : String) : IO String := do
  let line ← input.getLine
  if line.isEmpty then return before else readAll input (before ++ line)

end ConsumerCheck

/-- Runs a command line on the host that standard input describes. -/
def main (args : List String) : IO UInt32 := do
  let text ← ConsumerCheck.readAll (← IO.getStdin) ""
  match ConsumerCheck.Host.ofText? text with
  | none =>
    (← IO.getStderr).putStr "error: the description of the host is malformed\n"
    return 2
  | some (context, files) =>
    let (result, _) := ConsumerCheck.CommandLine.run context (ConsumerCheck.Runner.system context)
      (args.map ConsumerCheck.Utf8.encode) (.start files ())
    (← IO.getStdout).putStr result.stdout
    (← IO.getStderr).putStr result.stderr
    return UInt32.ofNat result.exitCode

import ConsumerCheck.CommandLine.Invocation

/-!
# Completions

The command `completions` writes a script with which a shell completes the commands. What such a script says is
up to the generator that makes it (`clap_complete`), and so it is a parameter of the program.

* `CompletionScripts` — a script for each shell;
* `CompletionScripts.plain` — scripts that know the names of the commands and no more.
-/

namespace ConsumerCheck.CommandLine

/-- The name of the program. -/
def programName : String := "pkgcheck"

/-- The version of the program. -/
def programVersion : String := "0.1.0"

/-- The names of the commands with blanks between them. -/
def commandNames : String := " ".intercalate (CommandName.all.map CommandName.text)

/-- A script for each shell. -/
abbrev CompletionScripts := CompletionShell → String

/-- Scripts that make a shell complete the names of the commands. -/
def CompletionScripts.plain : CompletionScripts
  | .bash => "complete -W \"" ++ commandNames ++ "\" " ++ programName ++ "\n"
  | .zsh =>
    "#compdef " ++ programName ++ "\n_arguments '1:command:(" ++ commandNames ++ ")'\n"
  | .fish => "complete -c " ++ programName ++ " -f -a \"" ++ commandNames ++ "\"\n"
  | .elvish =>
    "set edit:completion:arg-completer[" ++ programName ++ "] = \x7b|@words| put " ++
      commandNames ++ " \x7d\n"
  | .powershell =>
    "Register-ArgumentCompleter -Native -CommandName " ++ programName ++
      " -ScriptBlock \x7b \"" ++ commandNames ++ "\".Split(' ') \x7d\n"

end ConsumerCheck.CommandLine

import ConsumerCheck.Shell.Syntax

/-!
# Modes of the shell

* `Mode` — what can be switched on and off;
* `Mode.table` — every mode with its name and its letter;
* `Mode.letters` — the letters of modes, as a script can ask for them;
* `Mode.habits` — what else the richer shell can be made to do.
-/

namespace ConsumerCheck.Shell

/-- What can be switched on and off. -/
inductive Mode where
  /-- The first command that fails ends the script. -/
  | stopOnFailure
  /-- Patterns in words stand for themselves. -/
  | noGlobbing
  | ignoreEnd
  | interactive
  | monitor
  /-- Commands are read and not run. -/
  | noRunning
  /-- Commands are read from the standard input. -/
  | standardInput
  /-- Commands are shown before they run. -/
  | tracing
  /-- Lines are shown when they are read. -/
  | verbose
  | viKeys
  | emacsKeys
  /-- A redirection does not overwrite a file. -/
  | noClobber
  /-- Every variable that is set is seen by commands. -/
  | exportAll
  | notify
  /-- A variable without a value ends the script. -/
  | stopOnUnset
  | privileged
  | noLog
  | debug
  /-- A pipeline fails if any of its commands does. -/
  | failingPipes
  /-- The script is an argument of the richer shell. -/
  | commandText
  /-- A mode of the richer shell without effect here. -/
  | named (name : String)
  /-- A habit of the richer shell is not as it is at first. -/
  | habit (name : String)
  deriving DecidableEq, Repr

namespace Mode

/-- Every mode with its name and its letter, in the order of lists. -/
def table : List (Mode × String × Option Char) := [
  (stopOnFailure, "errexit", some 'e'), (noGlobbing, "noglob", some 'f'),
  (ignoreEnd, "ignoreeof", some 'I'), (interactive, "interactive", some 'i'),
  (monitor, "monitor", some 'm'), (noRunning, "noexec", some 'n'),
  (standardInput, "stdin", some 's'), (tracing, "xtrace", some 'x'),
  (verbose, "verbose", some 'v'), (viKeys, "vi", some 'V'), (emacsKeys, "emacs", some 'E'),
  (noClobber, "noclobber", some 'C'), (exportAll, "allexport", some 'a'),
  (notify, "notify", some 'b'), (stopOnUnset, "nounset", some 'u'),
  (privileged, "privileged", some 'p'), (noLog, "nolog", none), (debug, "debug", none)]

/-- Every mode of the richer shell with its name and its letter, in the order of lists. -/
def richTable : List (Mode × String × Option Char) :=
  let other (name : String) (letter : Option Char) : Mode × String × Option Char := (named name, name, letter)
  [(exportAll, "allexport", some 'a'), other "braceexpand" (some 'B'), (emacsKeys, "emacs", none),
    (stopOnFailure, "errexit", some 'e'), other "errtrace" (some 'E'), other "functrace" (some 'T'),
    other "hashall" (some 'h'), other "histexpand" (some 'H'), other "history" none,
    (ignoreEnd, "ignoreeof", none), other "interactive-comments" none, other "keyword" (some 'k'),
    (monitor, "monitor", some 'm'), (noClobber, "noclobber", some 'C'), (noRunning, "noexec", some 'n'),
    (noGlobbing, "noglob", some 'f'), (noLog, "nolog", none), (notify, "notify", some 'b'),
    (stopOnUnset, "nounset", some 'u'), other "onecmd" (some 't'), other "physical" (some 'P'),
    (failingPipes, "pipefail", none), other "posix" none, (privileged, "privileged", some 'p'),
    (verbose, "verbose", some 'v'), (viKeys, "vi", none), (tracing, "xtrace", some 'x')]

/-- The modes with which the richer shell begins. -/
def firstRich : List Mode := [named "braceexpand", named "hashall", named "interactive-comments"]

/-- The table of a shell. -/
def tableOf (rich : Bool) : List (Mode × String × Option Char) := if rich then richTable else table

/-- The mode of a letter. -/
def ofLetter? (rich : Bool) (c : Char) : Option Mode :=
  ((tableOf rich).find? fun (_, _, letter) => letter == some c).map (·.1)

/-- The mode of a name. -/
def ofName? (rich : Bool) (name : Chars) : Option Mode :=
  ((tableOf rich).find? fun (_, text, _) => chars text == name).map (·.1)

/-- The letters of modes in the richer shell. -/
def richLetters (modes : List Mode) : Chars :=
  let given := richTable.filterMap fun (mode, _, letter) => if modes.contains mode then letter else none
  let order := "abefhikmnprtuvxBCEHPT".toList.filter given.contains
  order ++ (if modes.contains commandText then ['c'] else []) ++
    if modes.contains standardInput then ['s'] else []

/-- The habits of the richer shell, and whether it begins with them. -/
def habits : List (String × Bool) := [
  ("autocd", false), ("assoc_expand_once", false), ("cdable_vars", false), ("cdspell", false),
  ("checkhash", false), ("checkjobs", false), ("checkwinsize", true), ("cmdhist", true), ("compat31", false),
  ("compat32", false), ("compat40", false), ("compat41", false), ("compat42", false), ("compat43", false),
  ("compat44", false), ("complete_fullquote", true), ("direxpand", false), ("dirspell", false),
  ("dotglob", false), ("execfail", false), ("expand_aliases", false), ("extdebug", false), ("extglob", false),
  ("extquote", true), ("failglob", false), ("force_fignore", true), ("globasciiranges", true),
  ("globskipdots", true), ("globstar", false), ("gnu_errfmt", false), ("histappend", false),
  ("histreedit", false), ("histverify", false), ("hostcomplete", true), ("huponexit", false),
  ("inherit_errexit", false), ("interactive_comments", true), ("lastpipe", false), ("lithist", false),
  ("localvar_inherit", false), ("localvar_unset", false), ("login_shell", false), ("mailwarn", false),
  ("no_empty_cmd_completion", false), ("nocaseglob", false), ("nocasematch", false),
  ("noexpand_translation", false), ("nullglob", false), ("patsub_replacement", true), ("progcomp", true),
  ("progcomp_alias", false), ("promptvars", true), ("restricted_shell", false), ("shift_verbose", false),
  ("sourcepath", true), ("varredir_close", false), ("xpg_echo", false)]

/-- Whether the richer shell has a habit. -/
def hasHabit (modes : List Mode) (name : String) : Bool :=
  modes.contains (habit name) != (habits.lookup name).getD false

/-- Modes with one of them switched on or off. -/
def set (modes : List Mode) (mode : Mode) (on : Bool) : List Mode :=
  let others := modes.filter (· != mode)
  if on then mode :: others else others

/-- The letters of modes, the last of the table first. -/
def letters (modes : List Mode) : Chars :=
  table.reverse.filterMap fun (mode, _, letter) => if modes.contains mode then letter else none

end Mode

end ConsumerCheck.Shell

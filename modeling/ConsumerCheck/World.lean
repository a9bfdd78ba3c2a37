import ConsumerCheck.Command
import ConsumerCheck.FileSystem.Basic
import ConsumerCheck.Journal

/-!
# Runners and the state of a run

Commands are handed to a runner. It answers from a state of its own, and may change the file system in any
way; nothing else is known about it.

* `Runner` — what answers commands (`CommandRunner`);
* `World` — the file system, the journal, the commands that were handed out and the runner's state;
* `World.launch` — one command handed to the runner.
-/

namespace ConsumerCheck

/-- What answers commands. -/
structure Runner (σ : Type) where
  /-- What the runner itself notes when it is given a command. -/
  announce : Command → List Event
  /-- The answer to a command, with the runner's state and the file system after it. -/
  respond : Command → σ → FileSystem → Reply × σ × FileSystem

/-- The state of a run. -/
structure World (σ : Type) where
  files : FileSystem
  journal : List Event
  /-- The commands that were handed to the runner, in order. -/
  trace : List Command
  runner : σ

namespace World

variable {σ : Type}

/-- The state before anything has happened. -/
def start (files : FileSystem) (runner : σ) : World σ := ⟨files, [], [], runner⟩

/-- The state with events noted. -/
def note (w : World σ) (events : List Event) : World σ := { w with journal := w.journal ++ events }

/-- One command handed to the runner. -/
def launch (w : World σ) (r : Runner σ) (c : Command) : Reply × World σ :=
  let (reply, runner, files) := r.respond c w.runner w.files
  (reply, { files, journal := w.journal ++ r.announce c, trace := w.trace ++ [c], runner })

end World

end ConsumerCheck

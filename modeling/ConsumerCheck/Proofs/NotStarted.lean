import ConsumerCheck.Host.Scripted
import ConsumerCheck.Proofs.Exchange
import Mathlib.Control.Monad.Basic

/-!
# Commands that were not started and commands that died

A failure says of a command with which code it ended, and gives a text: the output of the command, or why it was not
started. A command that died of a signal has no code, and one that was not started has none either. So only the texts
tell one from the other: the failures are the same, and are worded alike, if the command wrote before it died what
would have been the cause of its not being started. A command that ended with a code is told from both.

* `World.answer`, `CMakeExample.exchanged` — what a runner answers to a command, and all answers in a build;
* `Output.ReadsAs` — nothing tells the command from one that was not started for certain causes;
* `SameIff` — two failures are the same, and worded alike, on a condition.

Principal results: `sameIff_build`, `sameIff_testExecution` — the failures of one command; `not_started_told_apart` —
a test and a build with a command that was not started, and with one that failed; `killed_as_not_started` — where
they are the same.
-/

namespace ConsumerCheck

/-- Texts that differ at one place differ, whatever follows. -/
theorem Text.append_ne_append {i : Nat} {a b : Char} {s t : String} (h : a ≠ b)
    (hs : s.toList[i]? = some a) (ht : t.toList[i]? = some b) (x y : String) : s ++ x ≠ t ++ y := by
  intro heq
  have hplace := congrArg (fun s => s.toList[i]?) heq
  obtain ⟨hi, -⟩ := List.getElem?_eq_some_iff.1 hs
  obtain ⟨hi', -⟩ := List.getElem?_eq_some_iff.1 ht
  simp only [String.toList_append] at hplace
  rw [List.getElem?_append_left hi, List.getElem?_append_left hi', hs, ht] at hplace
  exact h (Option.some.inj hplace)

/-! ## Failures of one command -/

/-- Both ended in failures, which are the same, and are worded alike, exactly on this condition. -/
def SameIff {α : Type} (condition : Prop) (x y : Except Failure α) : Prop :=
  ∃ failure failure', x = .error failure ∧ y = .error failure' ∧
    (failure = failure' ↔ condition) ∧ (failure.message = failure'.message ↔ condition)

theorem SameIff.congr {α : Type} {p q : Prop} {x y : Except Failure α} (h : SameIff p x y)
    (hpq : p ↔ q) : SameIff q x y := by
  obtain ⟨failure, failure', hx, hy, hsame, hworded⟩ := h
  exact ⟨failure, failure', hx, hy, hsame.trans hpq, hworded.trans hpq⟩

namespace Failure

variable {α : Type} {command text text' : String} {code : Option Int}

theorem message_build_none_iff :
    (build command none text).message = (build command code text').message ↔
      code = none ∧ text = text' := by
  constructor
  · intro h
    cases code with
    | none =>
      unfold message at h
      exact ⟨rfl, (String.append_right_inj _).1 h⟩
    | some n =>
      unfold message codeText at h
      simp only [String.append_assoc, String.append_right_inj] at h
      -- `None` and `Some(…)`
      exact absurd h (Text.append_ne_append (by decide : 'N' ≠ 'S') (i := 0) rfl rfl _ _)
  · rintro ⟨rfl, rfl⟩
    rfl

theorem message_testExecution_none_iff :
    (testExecution command none text).message = (testExecution command code text').message ↔
      code = none ∧ text = text' := by
  constructor
  · intro h
    cases code with
    | none =>
      unfold message at h
      exact ⟨rfl, (String.append_right_inj _).1 h⟩
    | some n =>
      unfold message at h
      simp only [String.append_assoc, String.append_right_inj] at h
      -- `could not be run` and `exited with status`, after a quote and a blank
      exact absurd h (Text.append_ne_append (by decide : 'c' ≠ 'e') (i := 2) rfl rfl _ _)
  · rintro ⟨rfl, rfl⟩
    rfl

theorem sameIff_build (command text text' : String) (code : Option Int) :
    SameIff (α := α) (code = none ∧ text = text') (.error (build command none text))
      (.error (build command code text')) := by
  refine ⟨_, _, rfl, rfl, ?_, message_build_none_iff⟩
  rw [build.injEq, eq_comm (a := none)]
  exact and_iff_right rfl

theorem sameIff_testExecution (command text text' : String) (code : Option Int) :
    SameIff (α := α) (code = none ∧ text = text') (.error (testExecution command none text))
      (.error (testExecution command code text')) := by
  refine ⟨_, _, rfl, rfl, ?_, message_testExecution_none_iff⟩
  rw [testExecution.injEq, eq_comm (a := none)]
  exact and_iff_right rfl

end Failure

/-! ## Answers -/

variable {σ : Type} {c : Context} {r : Runner σ} {w : World σ}

/-- What a runner answers to a command. -/
def World.answer (w : World σ) (r : Runner σ) (cmd : Command) : Reply := (r.respond cmd w.runner w.files).1

/-- The command had no code at its end, and wrote what the causes say. -/
def Output.ReadsAs (o : Output) (f : LaunchFailure) : Prop :=
  o.exit.code? = none ∧ f.message = o.combined

namespace SmokeTest

/-- A native test whose command failed fails with it. -/
theorem run_of_answer {options : TestOptions} {settings : Settings}
    (hnative : settings.isCrossBuilding = false) {reply : Reply}
    (hreply : w.answer r (exampleCommand c w.files options settings) = reply)
    (hfailed : exitedZero reply = false) :
    (run c options settings r w).1 =
      .error (.testExecution (shownCommand options) (exitCode? reply) (replyText reply)) := by
  have hcross : ¬settings.isCrossBuilding = true := by simp [hnative]
  have hlaunch : (w.note [.testing (shownCommand options)]).launch r
      (exampleCommand c w.files options settings) = (reply, _) := Prod.ext hreply rfl
  unfold run
  rw [if_neg hcross]
  dsimp only
  rw [hlaunch]
  cases reply with
  | error f => rfl
  | ok o =>
    have hsuccess : ¬o.success = true := by simpa [exitedZero_ok] using hfailed
    dsimp only
    rw [if_neg hsuccess]
    rfl

end SmokeTest

namespace CMakeExample

variable {e : CMakeExample}

/-- The commands of a build, each with the answer to it. -/
def exchanged (e : CMakeExample) (c : Context) (r : Runner σ) (w : World σ) : List (Command × Reply) :=
  (e.build c r.recording (w.carrying [])).2.runner.2

theorem exchanged_course (e : CMakeExample) (c : Context) (r : Runner σ) (w : World σ) :
    BuildCourse e c w.files (e.exchanged c r w) (e.build c r w).1 := by
  obtain ⟨asked, hrecorded, -, hcourse⟩ := e.build_recording c r w []
  rw [exchanged, hrecorded]
  exact hcourse

/-- A build with a command that failed fails with it as well. -/
theorem build_of_exchanged {cmd : Command} {reply : Reply} (h : (cmd, reply) ∈ e.exchanged c r w)
    (hfailed : exitedZero reply = false) : (e.build c r w).1 = .error (failureAfter cmd reply) :=
  ((e.exchanged_course c r w).eq_of_failed h hfailed).2

end CMakeExample

/-- **What tells a command that was not started from one that failed**: a code, if the command ended with one, and else
nothing but the text. This holds of the command of a test and of each command of a build, of the failures and of their
wordings, whatever the runners do. -/
theorem not_started_told_apart {τ : Type} (c : Context) (r : Runner σ) (r' : Runner τ) (w : World σ)
    (w' : World τ) (hfiles : w'.files = w.files) {f : LaunchFailure} {o : Output}
    (hfailed : o.success = false) :
    (∀ options settings, settings.isCrossBuilding = false →
      w.answer r (SmokeTest.exampleCommand c w.files options settings) = .error f →
      w'.answer r' (SmokeTest.exampleCommand c w.files options settings) = .ok o →
      SameIff (o.ReadsAs f) (SmokeTest.run c options settings r w).1
        (SmokeTest.run c options settings r' w').1) ∧
    ∀ options settings cmd,
      (cmd, .error f) ∈ (CMakeExample.new c w.files settings options).exchanged c r w →
      (cmd, .ok o) ∈ (CMakeExample.new c w.files settings options).exchanged c r' w' →
      SameIff (o.ReadsAs f) (buildExample c options settings r w).1
        (buildExample c options settings r' w').1 := by
  have hcode : exitedZero (.ok o) = false := (exitedZero_ok o).trans hfailed
  refine ⟨fun options settings hnative herror hok => ?test,
    fun options settings cmd herror hok => ?build⟩
  case test =>
    rw [← hfiles] at hok
    rw [SmokeTest.run_of_answer hnative herror rfl, SmokeTest.run_of_answer hnative hok hcode]
    exact Failure.sameIff_testExecution ..
  case build =>
    rw [buildExample, buildExample, hfiles, CMakeExample.build_of_exchanged herror rfl,
      CMakeExample.build_of_exchanged hok hcode]
    exact Failure.sameIff_build ..

/-! ### One answer among others -/

/-- A build beside that test. -/
def buildOptions : BuildOptions := ⟨.ofText "src", .ofText "out", none, [], some (.ofText "cmake")⟩

/-- A runner that has this answer to the command of a test. -/
def testAnswers (reply : Reply) : World (List PreparedReply) := .start .empty [⟨[], reply⟩]

/-- A runner that has this answer to the second command of a build. -/
def buildAnswers (reply : Reply) : World (List PreparedReply) :=
  .start .empty [⟨[], .ok ⟨.code 0, [], []⟩⟩, ⟨[], reply⟩]

/-- A test with this answer. -/
abbrev testedWith (reply : Reply) : Except Failure TestResult :=
  (SmokeTest.run bareContext idleOptions .detect (.scripted []) (testAnswers reply)).1

/-- A build with this answer. -/
abbrev builtWith (reply : Reply) : Except Failure BuildResult :=
  (buildExample bareContext buildOptions .detect (.scripted []) (buildAnswers reply)).1

/-- A command that was not started, and one that died of a signal and wrote something else. -/
theorem not_started_told_apart_bang :
    let f : LaunchFailure := ⟨["boom"]⟩
    let o : Output := ⟨.signal 11, Utf8.encode "bang", []⟩
    o.success = false ∧ ¬o.ReadsAs f ∧ SameIff False (testedWith (.error f)) (testedWith (.ok o)) ∧
      SameIff False (builtWith (.error f)) (builtWith (.ok o)) := by
  intro f o
  have hother : ¬o.ReadsAs f := fun h => absurd h.2 (by decide +kernel)
  have hnative : Settings.detect.isCrossBuilding = false := by decide +kernel
  have hfailed : o.success = false := by decide
  obtain ⟨htest, -⟩ := not_started_told_apart bareContext (.scripted []) (.scripted [])
    (testAnswers (.error f)) (testAnswers (.ok o)) rfl hfailed
  obtain ⟨-, hbuild⟩ := not_started_told_apart bareContext (.scripted []) (.scripted [])
    (buildAnswers (.error f)) (buildAnswers (.ok o)) rfl hfailed
  let e := CMakeExample.new bareContext .empty .detect buildOptions
  have herror : (e.buildCommand, .error f) ∈
      e.exchanged bareContext (.scripted []) (buildAnswers (.error f)) := by decide +kernel
  have hok : (e.buildCommand, .ok o) ∈
      e.exchanged bareContext (.scripted []) (buildAnswers (.ok o)) := by decide +kernel
  exact ⟨hfailed, hother,
    (htest idleOptions .detect hnative rfl rfl).congr (iff_false_intro hother),
    (hbuild buildOptions .detect e.buildCommand herror hok).congr (iff_false_intro hother)⟩

/-- **A command that died of a signal is taken for one that was not started**, if it wrote what would have been the
cause. -/
theorem killed_as_not_started :
    let f : LaunchFailure := ⟨["boom"]⟩
    let o : Output := ⟨.signal 11, Utf8.encode "boom", []⟩
    testedWith (.error f) = testedWith (.ok o) ∧
      testedWith (.ok o) = .error (.testExecution "./example" none "boom") ∧
      builtWith (.error f) = builtWith (.ok o) ∧
      builtWith (.ok o) = .error (.build "cmake --build out" none "boom") := by
  decide +kernel

end ConsumerCheck

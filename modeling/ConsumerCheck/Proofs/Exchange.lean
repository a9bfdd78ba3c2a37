import ConsumerCheck.FileSystem.Seed
import ConsumerCheck.Verification

/-!
# What a run exchanges with its runner

A runner may answer anything and change every file, so what a run asks of it and what it is answered
is all that can be said about the two together. `Runner.recording` answers as a runner does and
keeps both, each command with its answer, in the order in which the commands were given.

* `Succeeded`, `InTurn` — a command ended with the code zero, and each was given only after all
  before it did;
* `BuildCourse`, `TestCourse` — the ways in which a build and a test can go, each with what was
  exchanged and with the result.

Principal results: `build_recording` and `run_recording` — a build and a test go one of these ways,
and recording changes neither what they answer nor what they leave behind.
-/

namespace ConsumerCheck

variable {σ : Type}

/-- A command was started and ended by itself with the code zero. -/
def exitedZero : Reply → Bool
  | .ok output => output.exit == .code 0
  | .error _ => false

theorem exitedZero_ok (output : Output) : exitedZero (.ok output) = output.success := by
  rw [Bool.eq_iff_iff, Output.success_iff, exitedZero, beq_iff_eq]

/-- The exit code that an answer shows: none if the command was not started or died of a signal. -/
def exitCode? : Reply → Option Int
  | .ok output => output.exit.code?
  | .error _ => none

/-- What an answer says to a reader: the output of the command, or why it was not started. -/
def replyText : Reply → String
  | .ok output => output.combined
  | .error f => f.message

/-- One of the answers to `cmd` was that it ended with the code zero. -/
def Succeeded (xs : List (Command × Reply)) (cmd : Command) : Prop :=
  ∃ reply, (cmd, reply) ∈ xs ∧ exitedZero reply = true

theorem succeeded_append {xs ys : List (Command × Reply)} {cmd : Command} :
    Succeeded (xs ++ ys) cmd ↔ Succeeded xs cmd ∨ Succeeded ys cmd := by
  simp only [Succeeded, List.mem_append, or_and_right, exists_or]

theorem Succeeded.mem {xs : List (Command × Reply)} {cmd : Command} (h : Succeeded xs cmd) :
    cmd ∈ xs.map (·.1) := by
  obtain ⟨reply, hm, -⟩ := h
  exact List.mem_map_of_mem hm

/-- Each command was given only after all before it had ended with the code zero. -/
def InTurn (xs : List (Command × Reply)) : Prop :=
  ∀ before x after, xs = before ++ x :: after → ∀ y ∈ before, exitedZero y.2 = true

theorem InTurn.nil : InTurn [] := by
  intro before x after h
  simp at h

theorem InTurn.cons {x : Command × Reply} {xs : List (Command × Reply)}
    (hx : xs ≠ [] → exitedZero x.2 = true) (h : InTurn xs) : InTurn (x :: xs) := by
  intro before y after he z hz
  cases before with
  | nil => cases hz
  | cons b before =>
    rw [List.cons_append, List.cons.injEq] at he
    obtain ⟨rfl, rfl⟩ := he
    rcases List.mem_cons.1 hz with rfl | hz
    · exact hx (by simp)
    · exact h before y after rfl z hz

theorem InTurn.append {xs ys : List (Command × Reply)} (hxs : ∀ x ∈ xs, exitedZero x.2 = true)
    (h : InTurn ys) : InTurn (xs ++ ys) := by
  induction xs with
  | nil => exact h
  | cons x xs ih =>
    exact InTurn.cons (fun _ => hxs x List.mem_cons_self)
      (ih fun y hy => hxs y (List.mem_cons_of_mem _ hy))

/-- The runner that answers as `r` does and keeps every command with its answer. -/
def Runner.recording (r : Runner σ) : Runner (σ × List (Command × Reply)) where
  announce := r.announce
  respond c s fs :=
    let (reply, state, files) := r.respond c s.1 fs
    (reply, (state, s.2 ++ [(c, reply)]), files)

/-- Programs that all succeed, and leave files behind when they are told to build. -/
def Runner.leaving (wd : Location) (seeds : List Seed) : Runner Unit where
  announce _ := []
  respond c _ fs := (.ok ⟨.code 0, [], []⟩, (),
    if c.arguments.contains "--build" then fs.plantAll wd seeds else fs)

/-- The root as the working directory, and no variables. -/
def bareContext : Context := ⟨[], [], .ofText "/root"⟩

/-- A test for a layout in which nothing has been built. -/
def idleOptions : TestOptions := ⟨.ofText "out", exampleName, .ofText "out/bin"⟩

/-- The state of a run with what has been exchanged so far. -/
def World.carrying (w : World σ) (xs : List (Command × Reply)) :
    World (σ × List (Command × Reply)) :=
  ⟨w.files, w.journal, w.trace, (w.runner, xs)⟩

namespace World

@[simp] theorem carrying_files (w : World σ) (xs : List (Command × Reply)) :
    (w.carrying xs).files = w.files := rfl

theorem carrying_note (w : World σ) (xs : List (Command × Reply)) (events : List Event) :
    (w.carrying xs).note events = (w.note events).carrying xs := rfl

theorem carrying_setFiles (w : World σ) (xs : List (Command × Reply)) (files : FileSystem) :
    { w.carrying xs with files } = { w with files }.carrying xs := rfl

@[simp] theorem note_trace (w : World σ) (events : List Event) :
    (w.note events).trace = w.trace := rfl

@[simp] theorem launch_trace (w : World σ) (r : Runner σ) (c : Command) :
    (w.launch r c).2.trace = w.trace ++ [c] := rfl

theorem carrying_launch (w : World σ) (xs : List (Command × Reply)) (r : Runner σ) (c : Command) :
    (w.carrying xs).launch r.recording c =
      ((w.launch r c).1, (w.launch r c).2.carrying (xs ++ [(c, (w.launch r c).1)])) := rfl

end World

/-! ## The three commands -/

theorem configureCommand_ne_buildCommand (e : CMakeExample) :
    e.configureCommand ≠ e.buildCommand := by
  intro h
  have := congrArg Command.arguments h
  simp [CMakeExample.configureCommand, CMakeExample.buildCommand] at this

theorem exampleCommand_arguments (c : Context) (fs : FileSystem) (options : TestOptions)
    (settings : Settings) : (SmokeTest.exampleCommand c fs options settings).arguments = [] := rfl

theorem configureCommand_ne_exampleCommand (e : CMakeExample) (c : Context) (fs : FileSystem)
    (options : TestOptions) (settings : Settings) :
    e.configureCommand ≠ SmokeTest.exampleCommand c fs options settings := by
  intro h
  have := congrArg Command.arguments h
  simp [CMakeExample.configureCommand, exampleCommand_arguments] at this

theorem buildCommand_ne_exampleCommand (e : CMakeExample) (c : Context) (fs : FileSystem)
    (options : TestOptions) (settings : Settings) :
    e.buildCommand ≠ SmokeTest.exampleCommand c fs options settings := by
  intro h
  have := congrArg Command.arguments h
  simp [CMakeExample.buildCommand, exampleCommand_arguments] at this

/-! ## The build -/

namespace CMakeExample

variable {e : CMakeExample} {c : Context} {r : Runner σ} {w : World σ}

/-- The failure that a command of the build ends in after this answer. -/
def failureAfter (cmd : Command) (reply : Reply) : Failure :=
  .build cmd.display (exitCode? reply) (replyText reply)

/-- The ways in which a build can go, with what was exchanged and with the result. -/
inductive BuildCourse (e : CMakeExample) (c : Context) (fs : FileSystem) :
    List (Command × Reply) → Except Failure BuildResult → Prop
  | noDirectory {cause : IoError} :
      (fs.makeDirectories c.workingDirectory e.options.buildDir).1 = .error cause →
      BuildCourse e c fs [] (.error (.filesystem e.options.buildDir cause))
  | configureFailed {reply : Reply} :
      (fs.makeDirectories c.workingDirectory e.options.buildDir).1 = .ok () →
      exitedZero reply = false →
      BuildCourse e c fs [(e.configureCommand, reply)]
        (.error (failureAfter e.configureCommand reply))
  | buildFailed {configured reply : Reply} :
      (fs.makeDirectories c.workingDirectory e.options.buildDir).1 = .ok () →
      exitedZero configured = true → exitedZero reply = false →
      BuildCourse e c fs [(e.configureCommand, configured), (e.buildCommand, reply)]
        (.error (failureAfter e.buildCommand reply))
  | built {configured reply : Reply} :
      (fs.makeDirectories c.workingDirectory e.options.buildDir).1 = .ok () →
      exitedZero configured = true → exitedZero reply = true →
      BuildCourse e c fs [(e.configureCommand, configured), (e.buildCommand, reply)]
        (.ok ⟨e.configureCommand.display, e.buildCommand.display⟩)

/-- A command of the build is answered once, and its answer alone decides how the build goes on. -/
theorem runChecked_recording (w : World σ) (xs : List (Command × Reply)) (r : Runner σ)
    (cmd : Command) :
    ∃ reply, runChecked r.recording (w.carrying xs) cmd =
        ((runChecked r w cmd).1, (runChecked r w cmd).2.carrying (xs ++ [(cmd, reply)])) ∧
      (runChecked r w cmd).2.trace = w.trace ++ [cmd] ∧
      (runChecked r w cmd).1 =
        if exitedZero reply then .ok () else .error (failureAfter cmd reply) := by
  refine ⟨((w.note [.running cmd.display]).launch r cmd).1, ?_⟩
  unfold runChecked
  rw [World.carrying_note, World.carrying_launch]
  cases h : (w.note [.running cmd.display]).launch r cmd with
  | mk reply w' =>
    have ht : w'.trace = w.trace ++ [cmd] := by
      have := World.launch_trace (w.note [.running cmd.display]) r cmd
      rw [h] at this
      exact this
    cases reply with
    | error f => exact ⟨rfl, ht, rfl⟩
    | ok output =>
      by_cases hs : output.success = true
      · simp [exitedZero_ok, hs, ht]
      · simp [exitedZero_ok, hs, ht, failureAfter, exitCode?, replyText]

/-- **A build goes one of the ways of `BuildCourse`**, and recording it changes nothing else. -/
theorem build_recording (e : CMakeExample) (c : Context) (r : Runner σ) (w : World σ)
    (xs : List (Command × Reply)) :
    ∃ asked, e.build c r.recording (w.carrying xs) =
        ((e.build c r w).1, (e.build c r w).2.carrying (xs ++ asked)) ∧
      (e.build c r w).2.trace = w.trace ++ asked.map (·.1) ∧
      BuildCourse e c w.files asked (e.build c r w).1 := by
  unfold build
  rw [World.carrying_files]
  cases hd : w.files.makeDirectories c.workingDirectory e.options.buildDir with
  | mk made files =>
    cases made with
    | error cause =>
      exact ⟨[], by rw [List.append_nil]; rfl, by simp, .noDirectory (by rw [hd])⟩
    | ok made =>
      have hok : (w.files.makeDirectories c.workingDirectory e.options.buildDir).1 = .ok () := by
        rw [hd]
      simp only [World.carrying_setFiles, World.carrying_note]
      obtain ⟨configured, hrec, htrace, hres⟩ := runChecked_recording
        ({ w with files }.note [.configuring e.settings]) xs r e.configureCommand
      rw [hrec]
      cases h1 : runChecked r ({ w with files }.note [.configuring e.settings])
          e.configureCommand with
      | mk first w1 =>
        rw [h1] at htrace hres
        simp only [World.note_trace] at htrace hres
        by_cases hz : exitedZero configured = true
        · rw [if_pos hz] at hres
          subst hres
          simp only [World.carrying_note]
          obtain ⟨reply, hrec', htrace', hres'⟩ := runChecked_recording (w1.note [.building])
            (xs ++ [(e.configureCommand, configured)]) r e.buildCommand
          rw [hrec']
          cases h2 : runChecked r (w1.note [.building]) e.buildCommand with
          | mk second w2 =>
            rw [h2] at htrace' hres'
            simp only [World.note_trace] at htrace' hres'
            refine ⟨[(e.configureCommand, configured), (e.buildCommand, reply)], ?_⟩
            by_cases hz' : exitedZero reply = true
            · rw [if_pos hz'] at hres'
              subst hres'
              exact ⟨by simp, by simp [htrace', htrace], .built hok hz hz'⟩
            · rw [if_neg hz'] at hres'
              subst hres'
              exact ⟨by simp, by simp [htrace', htrace],
                .buildFailed hok hz (Bool.eq_false_iff.2 hz')⟩
        · rw [if_neg hz] at hres
          subst hres
          exact ⟨[(e.configureCommand, configured)], by simp, by simp [htrace],
            .configureFailed hok (Bool.eq_false_iff.2 hz)⟩

end CMakeExample

namespace CMakeExample.BuildCourse

variable {e : CMakeExample} {c : Context} {fs : FileSystem} {asked : List (Command × Reply)}
  {result : Except Failure BuildResult}

theorem commands_prefix (h : BuildCourse e c fs asked result) :
    asked.map (·.1) <+: [e.configureCommand, e.buildCommand] := by
  cases h with
  | noDirectory _ => exact List.nil_prefix
  | configureFailed _ _ => exact ⟨[e.buildCommand], rfl⟩
  | buildFailed _ _ _ => exact List.prefix_refl _
  | built _ _ _ => exact List.prefix_refl _

/-- The directory is made before the first command is given. -/
theorem made_of_ne_nil (h : BuildCourse e c fs asked result) (hne : asked ≠ []) :
    (fs.makeDirectories c.workingDirectory e.options.buildDir).1 = .ok () := by
  cases h with
  | noDirectory _ => exact absurd rfl hne
  | configureFailed hd _ => exact hd
  | buildFailed hd _ _ => exact hd
  | built hd _ _ => exact hd

theorem commands_of_ok {built : BuildResult} (h : BuildCourse e c fs asked (.ok built)) :
    asked.map (·.1) = [e.configureCommand, e.buildCommand] ∧
      ∀ x ∈ asked, exitedZero x.2 = true := by
  cases h with
  | built _ hc hb => exact ⟨rfl, by simp [hc, hb]⟩

theorem inTurn (h : BuildCourse e c fs asked result) : InTurn asked := by
  cases h with
  | noDirectory _ => exact .nil
  | configureFailed _ _ => exact .cons (by simp) .nil
  | buildFailed _ hc _ => exact .cons (fun _ => hc) (.cons (by simp) .nil)
  | built _ hc _ => exact .cons (fun _ => hc) (.cons (by simp) .nil)

/-- A build succeeds exactly if the directory could be made and both commands ended with zero. -/
theorem ok_iff (h : BuildCourse e c fs asked result) :
    (∃ built, result = .ok built) ↔
      (fs.makeDirectories c.workingDirectory e.options.buildDir).1 = .ok () ∧
        Succeeded asked e.configureCommand ∧ Succeeded asked e.buildCommand := by
  have hne := (configureCommand_ne_buildCommand e).symm
  cases h with
  | noDirectory hd => simp [hd]
  | configureFailed hd hz => simp [Succeeded, hz]
  | buildFailed hd hc hz => simp [Succeeded, hz, hne]
  | built hd hc hb => simp [Succeeded, hd, hc, hb]

theorem ok_of_succeeded (h : BuildCourse e c fs asked result)
    (hc : Succeeded asked e.configureCommand) (hb : Succeeded asked e.buildCommand) :
    ∃ built, result = .ok built := by
  have hne := (configureCommand_ne_buildCommand e).symm
  cases h with
  | noDirectory _ => simp [Succeeded] at hc
  | configureFailed _ hz => simp [Succeeded, hz] at hc
  | buildFailed _ _ hz => simp [Succeeded, hz, hne] at hb
  | built _ _ _ => exact ⟨_, rfl⟩

/-- A command of the build that did not end with zero was the last, and the build failed with its
display and its exit code. -/
theorem eq_of_failed (h : BuildCourse e c fs asked result) {cmd : Command} {reply : Reply}
    (hm : (cmd, reply) ∈ asked) (hz : exitedZero reply = false) :
    asked.getLast? = some (cmd, reply) ∧ result = .error (failureAfter cmd reply) := by
  cases h with
  | noDirectory _ => cases hm
  | configureFailed _ _ =>
    simp only [List.mem_singleton, Prod.mk.injEq] at hm
    obtain ⟨rfl, rfl⟩ := hm
    exact ⟨rfl, rfl⟩
  | buildFailed _ hc _ =>
    simp only [List.mem_cons, Prod.mk.injEq, List.not_mem_nil, or_false] at hm
    rcases hm with ⟨rfl, rfl⟩ | ⟨rfl, rfl⟩
    · rw [hc] at hz
      cases hz
    · exact ⟨rfl, rfl⟩
  | built _ hc hb =>
    simp only [List.mem_cons, Prod.mk.injEq, List.not_mem_nil, or_false] at hm
    rcases hm with ⟨rfl, rfl⟩ | ⟨rfl, rfl⟩
    · rw [hc] at hz
      cases hz
    · rw [hb] at hz
      cases hz

end CMakeExample.BuildCourse

/-! ## The test -/

namespace SmokeTest

/-- The ways in which a test can go, with what was exchanged and with the result. -/
inductive TestCourse (c : Context) (options : TestOptions) (settings : Settings) (fs : FileSystem) :
    List (Command × Reply) → Except Failure TestResult → Prop
  | skipped : settings.isCrossBuilding = true →
      TestCourse c options settings fs [] (.ok (.skipped (skipReason settings)))
  | failed {reply : Reply} : settings.isCrossBuilding = false → exitedZero reply = false →
      TestCourse c options settings fs [(exampleCommand c fs options settings, reply)]
        (.error (.testExecution (shownCommand options) (exitCode? reply) (replyText reply)))
  | passed {reply : Reply} : settings.isCrossBuilding = false → exitedZero reply = true →
      TestCourse c options settings fs [(exampleCommand c fs options settings, reply)]
        (.ok (.passed (shownCommand options)))

/-- **A test goes one of the ways of `TestCourse`**, and recording it changes nothing else. -/
theorem run_recording (c : Context) (options : TestOptions) (settings : Settings) (r : Runner σ)
    (w : World σ) (xs : List (Command × Reply)) :
    ∃ asked, run c options settings r.recording (w.carrying xs) =
        ((run c options settings r w).1, (run c options settings r w).2.carrying (xs ++ asked)) ∧
      (run c options settings r w).2.trace = w.trace ++ asked.map (·.1) ∧
      TestCourse c options settings w.files asked (run c options settings r w).1 := by
  unfold run
  by_cases hc : settings.isCrossBuilding = true
  · rw [if_pos hc, if_pos hc]
    exact ⟨[], by simp [World.carrying_note], by simp, .skipped hc⟩
  · have hc' : settings.isCrossBuilding = false := Bool.eq_false_iff.2 hc
    rw [if_neg hc, if_neg hc]
    simp only [World.carrying_note, World.carrying_launch, World.carrying_files]
    cases h : (w.note [.testing (shownCommand options)]).launch r
        (exampleCommand c w.files options settings) with
    | mk reply w' =>
      have ht : w'.trace = w.trace ++ [exampleCommand c w.files options settings] := by
        have := World.launch_trace (w.note [.testing (shownCommand options)]) r
          (exampleCommand c w.files options settings)
        rw [h] at this
        exact this
      refine ⟨[(exampleCommand c w.files options settings, reply)], ?_⟩
      cases reply with
      | error f => exact ⟨rfl, ht, .failed hc' rfl⟩
      | ok output =>
        by_cases hs : output.success = true
        · simp only [hs, if_true]
          exact ⟨rfl, ht, .passed hc' ((exitedZero_ok output).trans hs)⟩
        · simp only [hs]
          exact ⟨rfl, ht, .failed hc' ((exitedZero_ok output).trans (Bool.eq_false_iff.2 hs))⟩

end SmokeTest

namespace SmokeTest.TestCourse

variable {c : Context} {options : TestOptions} {settings : Settings} {fs : FileSystem}
  {asked : List (Command × Reply)} {result : Except Failure TestResult}

theorem commands_eq (h : TestCourse c options settings fs asked result) :
    asked.map (·.1) =
      if settings.isCrossBuilding then [] else [exampleCommand c fs options settings] := by
  cases h with
  | skipped hc => simp [hc]
  | failed hc _ => simp [hc]
  | passed hc _ => simp [hc]

theorem inTurn (h : TestCourse c options settings fs asked result) : InTurn asked := by
  cases h with
  | skipped _ => exact .nil
  | failed _ _ => exact .cons (by simp) .nil
  | passed _ _ => exact .cons (by simp) .nil

/-- A test does not fail exactly if it is not made, or if the example ended with zero. -/
theorem ok_iff (h : TestCourse c options settings fs asked result) :
    (∃ tested, result = .ok tested) ↔
      settings.isCrossBuilding = true ∨ Succeeded asked (exampleCommand c fs options settings) := by
  cases h with
  | skipped hc => simp [hc]
  | failed hc hz => simp [Succeeded, hc, hz]
  | passed hc hz => simp [Succeeded, hz]

end SmokeTest.TestCourse

end ConsumerCheck

import ConsumerCheck.Proofs.Verification

/-!
# A step does not look back

What was noted and started before a step is kept, and changes nothing about it: a step sees the files and
the runner's state only.

* `World.behind` — a state of a run with an earlier journal and earlier commands in front;
* `Forgetful` — an action that answers and does the same behind any history.

Principal results: `importArtifacts_forgetful`, `buildExample_forgetful`, `SmokeTest.run_forgetful` — the
steps are forgetful; `Forgetful.fresh` — such an action is the one of a run that begins with it.
-/

namespace ConsumerCheck

variable {σ α : Type}

namespace World

/-- The state with what was noted and what was started before it. -/
def behind (w : World σ) (journal : List Event) (trace : List Command) : World σ :=
  { w with journal := journal ++ w.journal, trace := trace ++ w.trace }

variable (w : World σ) (journal : List Event) (trace : List Command)

@[simp] theorem behind_files : (w.behind journal trace).files = w.files := rfl

@[simp] theorem behind_trace : (w.behind journal trace).trace = trace ++ w.trace := rfl

theorem behind_setFiles (files : FileSystem) :
    { w.behind journal trace with files } = { w with files }.behind journal trace := rfl

theorem behind_note (events : List Event) :
    (w.behind journal trace).note events = (w.note events).behind journal trace := by
  simp [behind, note, List.append_assoc]

theorem behind_launch (r : Runner σ) (cmd : Command) :
    (w.behind journal trace).launch r cmd =
      ((w.launch r cmd).1, (w.launch r cmd).2.behind journal trace) := by
  simp [behind, launch, List.append_assoc]

/-- Every state is that of a run that has just begun, behind what has happened. -/
theorem start_behind : (start w.files w.runner).behind w.journal w.trace = w := by
  simp [start, behind]

end World

/-- An action that answers and does the same, whatever was noted and started before it. -/
def Forgetful (f : World σ → α × World σ) : Prop :=
  ∀ w journal trace, f (w.behind journal trace) = ((f w).1, (f w).2.behind journal trace)

/-- **A forgetful action answers and does what it does at the start of a run**, and what it starts comes
after what was started. -/
theorem Forgetful.fresh {f : World σ → α × World σ} (hf : Forgetful f) (w : World σ) :
    (f w).1 = (f (.start w.files w.runner)).1 ∧
      (f w).2.files = (f (.start w.files w.runner)).2.files ∧
      (f w).2.trace = w.trace ++ (f (.start w.files w.runner)).2.trace := by
  have h := hf (.start w.files w.runner) w.journal w.trace
  rw [w.start_behind] at h
  rw [h]
  exact ⟨rfl, rfl, rfl⟩

theorem importArtifacts_forgetful (c : Context) (options : ImportOptions) (settings : Settings) :
    Forgetful (@importArtifacts σ c options settings) := by
  intro w journal trace
  unfold importArtifacts
  rw [w.behind_files]
  rcases Staging.stage w.files c.workingDirectory options settings with ⟨result, files, events⟩
  simp only [World.behind_setFiles, World.behind_note]

namespace CMakeExample

theorem runChecked_behind (r : Runner σ) (cmd : Command) (w : World σ) (journal : List Event)
    (trace : List Command) :
    runChecked r (w.behind journal trace) cmd =
      ((runChecked r w cmd).1, (runChecked r w cmd).2.behind journal trace) := by
  simp only [runChecked, World.behind_note, World.behind_launch]
  rcases (w.note [.running cmd.display]).launch r cmd with ⟨_ | output, w'⟩
  · rfl
  · cases hsuccess : output.success <;> simp [hsuccess]

theorem build_forgetful (e : CMakeExample) (c : Context) (r : Runner σ) : Forgetful (e.build c r) := by
  intro w journal trace
  unfold build
  rw [w.behind_files]
  rcases w.files.makeDirectories c.workingDirectory e.options.buildDir with ⟨_ | _, files⟩
  · rfl
  · simp only [World.behind_setFiles, World.behind_note, runChecked_behind]
    cases runChecked r ({ w with files }.note [.configuring e.settings]) e.configureCommand with
    | mk result configured =>
      cases result with
      | error f => rfl
      | ok _ =>
        simp only [World.behind_note, runChecked_behind]
        rcases runChecked r (configured.note [.building]) e.buildCommand with ⟨_ | _, _⟩ <;> rfl

end CMakeExample

theorem buildExample_forgetful (c : Context) (options : BuildOptions) (settings : Settings)
    (r : Runner σ) : Forgetful (buildExample c options settings r) :=
  fun w journal trace =>
    (CMakeExample.new c w.files settings options).build_forgetful c r w journal trace

theorem SmokeTest.run_forgetful (c : Context) (options : TestOptions) (settings : Settings)
    (r : Runner σ) : Forgetful (SmokeTest.run c options settings r) := by
  intro w journal trace
  unfold SmokeTest.run
  cases settings.isCrossBuilding with
  | true => simp [World.behind_note]
  | false =>
    simp only [World.behind_note, World.behind_launch, World.behind_files]
    rcases (w.note [.testing (shownCommand options)]).launch r
        (exampleCommand c w.files options settings) with ⟨_ | output, w'⟩
    · rfl
    · cases hsuccess : output.success <;> simp [hsuccess, World.behind_note]

end ConsumerCheck

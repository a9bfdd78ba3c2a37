import ConsumerCheck.Report.Basic

/-!
# The verdict of a report and its steps

A report keeps its verdict in more than one place: a flag that a failed step takes back for good, the kinds of
failure at the steps, and the numbers of steps with each end. `Accounts` ties the flag and the steps of a report
to the steps that were taken. A step that is added preserves it, and where it holds, all places agree.

* `TakenStep` — a step with what it ended in;
* `Report.Accounts` — a report of the steps that were taken.

Principal results: `Accounts.add` — a step that is added; `Accounts.foldl` — all steps of a run;
`foldl_add_agrees` — the flag, the kind of failure and the numbers after these steps.
-/

namespace ConsumerCheck

/-! ## Steps that were taken -/

/-- A step that was taken, with what it ended in. -/
inductive TakenStep where
  | passed (name message : String) (duration : Duration)
  | skipped (name message : String) (duration : Duration)
  | failed (name : String) (failure : Failure) (duration : Duration)

namespace TakenStep

/-- The step as it is reported. -/
def step : TakenStep → ReportStep
  | passed name message duration => .pass name message duration
  | skipped name message duration => .skip name message duration
  | failed name failure duration => .fail name failure duration

/-- The failure that the step ended in. -/
def failure? : TakenStep → Option Failure
  | failed _ failure _ => some failure
  | _ => none

theorem errorKind_step (t : TakenStep) : t.step.errorKind = t.failure?.map Failure.kind := by
  cases t <;> rfl

theorem isSuccess_step (t : TakenStep) : t.step.status.isSuccess = t.failure?.isNone := by
  cases t <;> rfl

theorem status_step_eq_failed_iff (t : TakenStep) :
    t.step.status = .failed ↔ t.failure?.isSome = true := by
  cases t <;> simp [step, failure?, ReportStep.pass, ReportStep.skip, ReportStep.fail]

end TakenStep

namespace Report

/-! ## Numbers of steps -/

/-- Each step has passed, was skipped or has failed. -/
theorem count_add_count (r : Report) :
    r.passedCount + r.skippedCount + r.count .failed = r.steps.length := by
  unfold passedCount skippedCount count
  induction r.steps with
  | nil => rfl
  | cons step steps ih =>
    simp only [List.countP_cons, List.length_cons, ← ih]
    cases step.status <;> simp <;> omega

/-! ## Reports of the steps that were taken -/

/-- The report has the steps that were taken, and its flag says whether none of them failed. -/
structure Accounts (r : Report) (s : Settings) (taken : List TakenStep) : Prop where
  steps : r.steps = taken.map TakenStep.step
  passed : r.passed = taken.all (·.failure?.isNone)
  settings : r.settings = s
  crossBuilding : r.crossBuilding = s.isCrossBuilding

theorem accounts_new (s : Settings) : (new s).Accounts s [] := ⟨rfl, rfl, rfl, rfl⟩

namespace Accounts

variable {r : Report} {s : Settings} {taken : List TakenStep}

/-- A report stays one of the steps that were taken if a step is added. -/
theorem add (h : r.Accounts s taken) (t : TakenStep) :
    (r.add t.step).Accounts s (taken ++ [t]) where
  steps := by simp [Report.add, h.steps]
  passed := by simp [Report.add, h.passed, t.isSuccess_step]
  settings := h.settings
  crossBuilding := h.crossBuilding

theorem foldl (h : r.Accounts s taken) (more : List TakenStep) :
    ((more.map TakenStep.step).foldl Report.add r).Accounts s (taken ++ more) := by
  induction more generalizing r taken with
  | nil =>
    rw [List.append_nil]
    exact h
  | cons t more ih =>
    rw [List.append_cons]
    exact ih (h.add t)

/-- The kind of failure is that of the first step that failed. -/
theorem failureKind_eq (h : r.Accounts s taken) :
    r.failureKind = (taken.findSome? TakenStep.failure?).map Failure.kind := by
  have hkinds : (fun t : TakenStep => t.step.errorKind) = fun t => t.failure?.map Failure.kind :=
    funext TakenStep.errorKind_step
  rw [failureKind, h.steps, List.findSome?_map, List.map_findSome?]
  exact congrArg (List.findSome? · taken) hkinds

theorem isSome_failureKind_iff (h : r.Accounts s taken) :
    r.failureKind.isSome = true ↔ ∃ t ∈ taken, t.failure?.isSome = true := by
  rw [h.failureKind_eq, Option.isSome_map, List.findSome?_isSome_iff]

theorem exists_failed_iff (h : r.Accounts s taken) :
    (∃ step ∈ r.steps, step.status = .failed) ↔ ∃ t ∈ taken, t.failure?.isSome = true := by
  rw [h.steps]
  constructor
  · rintro ⟨step, hstep, hstatus⟩
    obtain ⟨t, ht, rfl⟩ := List.mem_map.1 hstep
    exact ⟨t, ht, t.status_step_eq_failed_iff.1 hstatus⟩
  · rintro ⟨t, ht, hfailure⟩
    exact ⟨t.step, List.mem_map_of_mem ht, t.status_step_eq_failed_iff.2 hfailure⟩

theorem passed_eq_false_iff (h : r.Accounts s taken) :
    r.passed = false ↔ ∃ t ∈ taken, t.failure?.isSome = true := by
  simp [h.passed, ← Option.isSome_iff_ne_none]

end Accounts

/-- **The places where a report keeps its verdict agree after any number of steps, in any order.** The flag says
that not all is well exactly if a step failed. Exactly then there is a kind of failure, and it is that of the
first step that failed. Each step counts once, the steps are those that were taken, and the settings stay. -/
theorem foldl_add_agrees (s : Settings) (taken : List TakenStep) :
    let r := (taken.map TakenStep.step).foldl Report.add (new s)
    (r.passed = false ↔ ∃ step ∈ r.steps, step.status = .failed) ∧
    (r.passed = false ↔ r.failureKind.isSome = true) ∧
    r.failureKind = (taken.findSome? TakenStep.failure?).map Failure.kind ∧
    r.passedCount + r.skippedCount + r.count .failed = r.steps.length ∧
    r.steps = taken.map TakenStep.step ∧
    r.settings = s ∧ r.crossBuilding = s.isCrossBuilding := by
  intro r
  have h : r.Accounts s taken := (accounts_new s).foldl taken
  exact ⟨h.passed_eq_false_iff.trans h.exists_failed_iff.symm,
    h.passed_eq_false_iff.trans h.isSome_failureKind_iff.symm, h.failureKind_eq, r.count_add_count,
    h.steps, h.settings, h.crossBuilding⟩

end Report

end ConsumerCheck

import ConsumerCheck.Failure
import ConsumerCheck.Report.Duration
import ConsumerCheck.Settings.Basic

/-!
# Reports

A report (`VerifyResult`) lists the steps of a run in the order in which they were made, with the verdict over
all.

* `Report.Step` — one step: passed, skipped or failed, with a message;
* `Report.add` — a report with one more step (`add_step`);
* `Report.passed` — no step failed so far;
* `Report.failureKind` — the kind of the first failure.
-/

namespace ConsumerCheck

/-- How a step ended. -/
inductive StepStatus where
  | passed
  /-- Left out on purpose, which counts as success. -/
  | skipped
  | failed
  deriving DecidableEq, Repr

namespace StepStatus

/-- Whether a step with this end counts as success. -/
def isSuccess : StepStatus → Bool
  | failed => false
  | _ => true

/-- The mark of an end in the report for a reader. -/
def label : StepStatus → String
  | passed => "[OK]"
  | skipped => "[SKIP]"
  | failed => "[FAIL]"

/-- The name of an end. -/
def name : StepStatus → String
  | passed => "passed"
  | skipped => "skipped"
  | failed => "failed"

end StepStatus

/-- One step of a run. -/
structure ReportStep where
  name : String
  status : StepStatus
  message : String
  duration : Duration
  /-- The kind of failure, for a step that failed. -/
  errorKind : Option FailureKind
  deriving DecidableEq, Repr

namespace ReportStep

/-- A step that passed. -/
def pass (name message : String) (duration : Duration) : ReportStep :=
  ⟨name, .passed, message, duration, none⟩

/-- A step that was skipped. -/
def skip (name message : String) (duration : Duration) : ReportStep :=
  ⟨name, .skipped, message, duration, none⟩

/-- A step that ended in a failure. -/
def fail (name : String) (failure : Failure) (duration : Duration) : ReportStep :=
  ⟨name, .failed, failure.message, duration, some failure.kind⟩

end ReportStep

/-- What a run found. -/
structure Report where
  settings : Settings
  crossBuilding : Bool
  steps : List ReportStep
  totalDuration : Duration
  /-- The files that were staged, relative to the run layout. -/
  artifacts : List Path
  passed : Bool
  deriving DecidableEq, Repr

namespace Report

/-- The report before the first step. -/
def new (settings : Settings) : Report where
  settings := settings
  crossBuilding := settings.isCrossBuilding
  steps := []
  totalDuration := .zero
  artifacts := []
  passed := true

/-- The report with one more step. -/
def add (r : Report) (step : ReportStep) : Report :=
  { r with steps := r.steps ++ [step], passed := r.passed && step.status.isSuccess }

/-- The first step of a name. -/
def step? (r : Report) (name : String) : Option ReportStep := r.steps.find? (·.name == name)

/-- The kind of the first failure. -/
def failureKind (r : Report) : Option FailureKind := r.steps.findSome? (·.errorKind)

/-- The number of steps with an end. -/
def count (r : Report) (status : StepStatus) : Nat := r.steps.countP (·.status == status)

/-- The number of steps that passed. -/
def passedCount (r : Report) : Nat := r.count .passed

/-- The number of steps that were skipped. -/
def skippedCount (r : Report) : Nat := r.count .skipped

/-- The report with the durations of its steps set, in order, and that of the whole run. A step for
which none is given took no time. -/
def timed (r : Report) (durations : List Duration) (total : Duration) : Report :=
  { r with
    steps := r.steps.zipIdx.map fun (step, i) => { step with duration := durations.getD i .zero }
    totalDuration := total }

end Report

end ConsumerCheck

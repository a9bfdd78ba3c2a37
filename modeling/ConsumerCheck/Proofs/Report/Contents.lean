import ConsumerCheck.Proofs.Json
import ConsumerCheck.Proofs.Text.Utf8
import ConsumerCheck.Report.Json

/-!
# What the report for a machine tells

Whoever reads the report for a machine gets back all that it tells: the settings, the steps, the durations in
whole milliseconds, the staged files and the verdict, whatever characters stand in the texts. The reader here is
strict. An object has no key twice and none that is not expected, and every member has the form that is expected
of it.

* `Json.Row` — the members of an object, read with `member?` and `optionalMember?`;
* `ReportContents` — what a report tells, and `Report.contents`, what is told of a report;
* `ReportContents.ofJson?` — what a document tells;
* `Report.Writable` — all of the report can be written.

Principal result: `json_read_back` — the text is one document that tells just the contents of the report, so
that reports with different contents have different texts.
-/

namespace ConsumerCheck

namespace Json

/-! ## The parts of a document -/

/-- The members of an object. -/
abbrev Row := List (String × Json)

/-- The members of an object that has no others than these, and none of them twice. -/
def row? (keys : List String) : Json → Option Row
  | object members =>
    if (members.map (·.1)).Nodup ∧ members.map (·.1) ⊆ keys then some members else none
  | _ => none

/-- What a member is read as. -/
def Row.member? {α : Type} (row : Row) (key : String) (read : Json → Option α) : Option α :=
  (row.lookup key).bind read

/-- What a member is read as that may be left out. -/
def Row.optionalMember? {α : Type} (row : Row) (key : String) (read : Json → Option α) :
    Option (Option α) :=
  match row.lookup key with
  | some value => (read value).map some
  | none => some none

/-- What the items of an array are read as. -/
def items? {α : Type} (read : Json → Option α) : Json → Option (List α)
  | array items => items.mapM read
  | _ => none

/-- The text that a document is. -/
def text? : Json → Option String
  | string text => some text
  | _ => none

/-- The number that a document is. -/
def number? : Json → Option Nat
  | number n => some n
  | _ => none

/-- The truth value that a document is. -/
def truth? : Json → Option Bool
  | bool b => some b
  | _ => none

/-- What has the name that a document is. -/
def named? {α : Type} (all : List α) (name : α → String) (document : Json) : Option α :=
  document.text?.bind fun text => all.find? (name · == text)

theorem mapM_eq_some_map {α β : Type} {f : α → Option β} {g : α → β} {row : List α}
    (h : ∀ a ∈ row, f a = some (g a)) : row.mapM f = some (row.map g) := by
  induction row with
  | nil => rfl
  | cons a row ih =>
    obtain ⟨ha, hrow⟩ := List.forall_mem_cons.1 h
    rw [List.mapM_cons, ha, ih hrow]
    rfl

theorem items?_map {α β : Type} {read : Json → Option β} {write : α → Json} {value : α → β}
    {row : List α} (h : ∀ a ∈ row, read (write a) = some (value a)) :
    items? read (array (row.map write)) = some (row.map value) := by
  rw [items?, List.mapM_map]
  exact mapM_eq_some_map h

end Json

/-! ## Settings -/

/-- The settings that a document tells. -/
def Settings.ofJson? (document : Json) : Option Settings := do
  let row ← document.row?
    ["os", "compiler", "compiler_version", "build_type", "arch", "os_build", "arch_build"]
  some {
    os := ← row.member? "os" Json.text?
    compiler := ← row.member? "compiler" Json.text?
    compilerVersion := ← row.optionalMember? "compiler_version" Json.text?
    buildType := ← row.member? "build_type" Json.text?
    arch := ← row.member? "arch" Json.text?
    osBuild := ← row.optionalMember? "os_build" Json.text?
    archBuild := ← row.optionalMember? "arch_build" Json.text? }

theorem Settings.ofJson?_json (s : Settings) : ofJson? s.json = some s := by
  obtain ⟨os, compiler, compilerVersion, buildType, arch, osBuild, archBuild⟩ := s
  cases compilerVersion <;> cases osBuild <;> cases archBuild <;> rfl

/-! ## Steps -/

/-- What a report tells of a step. -/
structure StepContents where
  name : String
  status : StepStatus
  message : String
  milliseconds : Nat
  /-- The kind of failure, for a step that failed. -/
  errorKind : Option FailureKind
  deriving DecidableEq, Repr

/-- What is told of a step. The duration is rounded down. -/
def ReportStep.contents (step : ReportStep) : StepContents where
  name := step.name
  status := step.status
  message := step.message
  milliseconds := step.duration.total / 1000000
  errorKind := step.errorKind

/-- What a document tells of a step. -/
def StepContents.ofJson? (document : Json) : Option StepContents := do
  let row ← document.row? ["name", "status", "message", "duration", "error_kind"]
  some {
    name := ← row.member? "name" Json.text?
    status := ← row.member? "status" (Json.named? [.passed, .skipped, .failed] StepStatus.name)
    message := ← row.member? "message" Json.text?
    milliseconds := ← row.member? "duration" Json.number?
    errorKind := ← row.optionalMember? "error_kind"
      (Json.named? [.filesystem, .build, .testExecution, .config] FailureKind.name) }

/-- A number of 64 bits holds the milliseconds of the span. -/
def Duration.Short (d : Duration) : Prop := d.total / 1000000 < 18446744073709551616

instance : DecidablePred Duration.Short := fun _ => inferInstanceAs (Decidable (_ < _))

theorem Duration.Short.milliseconds_eq {d : Duration} (h : d.Short) :
    d.milliseconds = d.total / 1000000 :=
  Nat.mod_eq_of_lt h

theorem StepContents.ofJson?_stepJson {step : ReportStep} (h : step.duration.Short) :
    ofJson? (Report.stepJson step) = some step.contents := by
  obtain ⟨name, status, message, duration, errorKind⟩ := step
  rw [Report.stepJson, ReportStep.contents, h.milliseconds_eq]
  cases status <;> rcases errorKind with _ | (_ | _ | _ | _) <;> rfl

/-! ## The whole report -/

/-- What a report tells. -/
structure ReportContents where
  settings : Settings
  crossBuilding : Bool
  steps : List StepContents
  totalMilliseconds : Nat
  /-- The files that were staged, relative to the run layout. -/
  artifacts : List Path
  passed : Bool
  deriving DecidableEq, Repr

/-- What is told of a report. The durations are rounded down. -/
def Report.contents (r : Report) : ReportContents where
  settings := r.settings
  crossBuilding := r.crossBuilding
  steps := r.steps.map ReportStep.contents
  totalMilliseconds := r.totalDuration.total / 1000000
  artifacts := r.artifacts
  passed := r.passed

/-- What a document tells. -/
def ReportContents.ofJson? (document : Json) : Option ReportContents := do
  let row ← document.row?
    ["settings", "cross_building", "steps", "total_duration", "artifacts", "passed"]
  some {
    settings := ← row.member? "settings" Settings.ofJson?
    crossBuilding := ← row.member? "cross_building" Json.truth?
    steps := ← row.member? "steps" (Json.items? StepContents.ofJson?)
    totalMilliseconds := ← row.member? "total_duration" Json.number?
    artifacts := ← row.member? "artifacts" (Json.items? fun item => item.text?.map .ofText)
    passed := ← row.member? "passed" Json.truth? }

/-- All of the report can be written: the names of the staged files are text, and a number of 64 bits holds
the milliseconds of every span. -/
structure Report.Writable (r : Report) : Prop where
  artifacts : ∀ p ∈ r.artifacts, p.IsText
  durations : ∀ step ∈ r.steps, step.duration.Short
  totalDuration : r.totalDuration.Short

namespace Report

variable {r : Report}

/-- A document that has the parts of a report tells its contents. -/
theorem Writable.ofJson?_parts (h : r.Writable) :
    ReportContents.ofJson? (.object [
      ("settings", r.settings.json),
      ("cross_building", .bool r.crossBuilding),
      ("steps", .array (r.steps.map stepJson)),
      ("total_duration", .number r.totalDuration.milliseconds),
      ("artifacts", .array ((r.artifacts.map Path.display).map .string)),
      ("passed", .bool r.passed)]) = some r.contents := by
  have hsteps : Json.items? StepContents.ofJson? (.array (r.steps.map stepJson)) =
      some (r.steps.map ReportStep.contents) :=
    Json.items?_map fun step hstep => StepContents.ofJson?_stepJson (h.durations step hstep)
  have hartifacts : Json.items? (fun item => item.text?.map Path.ofText)
      (.array (r.artifacts.map (.string ∘ Path.display))) = some (r.artifacts.map Path.legible) :=
    Json.items?_map fun p _ => rfl
  rw [Path.map_legible_eq_iff.2 h.artifacts] at hartifacts
  simp [ReportContents.ofJson?, Json.row?, Json.Row.member?, List.lookup_cons, Settings.ofJson?_json,
    Json.truth?, Json.number?, hsteps, hartifacts, h.totalDuration.milliseconds_eq, contents]

theorem Writable.document (h : r.Writable) :
    ∃ document, r.document? = some document ∧ ReportContents.ofJson? document = some r.contents := by
  have hnames : r.artifacts.mapM (fun p => Utf8.decode? p.octets) =
      some (r.artifacts.map Path.display) :=
    Json.mapM_eq_some_map fun p hp => (h.artifacts p hp).decode?
  refine ⟨_, ?_, h.ofJson?_parts⟩
  rw [document?, hnames]
  rfl

/-- **The report for a machine is one document that tells just the contents of the report**, so that reports
with different contents have different texts. -/
theorem json_read_back (h : r.Writable) :
    (∃ document, Json.parse r.json = some document ∧
      ReportContents.ofJson? document = some r.contents) ∧
    ∀ r' : Report, r'.Writable → r'.contents ≠ r.contents → r'.json ≠ r.json := by
  have hread : ∀ {r : Report}, r.Writable → ∃ document,
      Json.parse r.json = some document ∧ ReportContents.ofJson? document = some r.contents := by
    intro r h
    obtain ⟨document, hdocument, htold⟩ := h.document
    refine ⟨document, ?_, htold⟩
    rw [json, hdocument]
    exact Json.parse_pretty document
  refine ⟨hread h, fun r' h' hne hsame => hne ?_⟩
  obtain ⟨document, hparse, htold⟩ := hread h
  obtain ⟨document', hparse', htold'⟩ := hread h'
  rw [hsame, hparse] at hparse'
  cases hparse'
  rw [htold] at htold'
  exact (Option.some.inj htold').symm

/-- A report with quotes, backslashes and control characters in its texts. -/
def garbled : Report where
  settings := { Settings.detect with os := "\"Linux\\", osBuild := some "\x00\t\x7f" }
  crossBuilding := true
  steps := [⟨"Build\r", .passed, "größer\n100%\x1b[0m", .ofParts 1 2999999, none⟩,
    .fail "Test" (.config (.other "no \"dst\"")) .zero]
  totalDuration := .ofParts 2 0
  artifacts := [.ofText "bin/ü\\\n.so"]
  passed := false

theorem json_read_back_garbled :
    garbled.Writable ∧
    (∃ document, Json.parse garbled.json = some document ∧ ReportContents.ofJson? document = some {
      settings := { Settings.detect with os := "\"Linux\\", osBuild := some "\x00\t\x7f" }
      crossBuilding := true
      steps := [⟨"Build\r", .passed, "größer\n100%\x1b[0m", 1002, none⟩,
        ⟨"Test", .failed, "invalid configuration: no \"dst\"", 0, some .config⟩]
      totalMilliseconds := 2000
      artifacts := [.ofText "bin/ü\\\n.so"]
      passed := false }) ∧
    { garbled with artifacts := [] }.json ≠ garbled.json := by
  have hgarbled : garbled.Writable := ⟨by simp [garbled, Path.IsText], by decide, by decide⟩
  have hbare : { garbled with artifacts := [] }.Writable :=
    ⟨by simp, hgarbled.durations, hgarbled.totalDuration⟩
  obtain ⟨hread, hdifferent⟩ := json_read_back hgarbled
  exact ⟨hgarbled, hread, hdifferent _ hbare (by simp [contents, garbled])⟩

end Report

end ConsumerCheck

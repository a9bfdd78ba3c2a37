import ConsumerCheck.Proofs.CommandLine.Stepwise
import ConsumerCheck.Proofs.Json

/-!
# The verdict for a machine

With the format `json` the command `verify` writes one document to its output and nothing else. The document
is the report, with the verdict as its last member. A report cannot be written if the path of a staged file
is no text; the document then says so and has no verdict.

* `Verifies` — a command line gets as far as the steps of a verification;
* `stagedPaths` — the files that a run stages.

Principal results: `run_of_verifies` — the exit code and the output of such a command line;
`run_verify_json` — the output is one document, and its verdict is that of the exit code, if the paths of
all staged files are texts; `run_verify_json_without_verdict` — else it has none.
-/

namespace ConsumerCheck

namespace Report

/-- The members of the document that stands for a report that cannot be written. -/
def faultMembers : List (String × Json) :=
  [("error", .string "Failed to serialize result: path contains invalid UTF-8 characters")]

theorem parse_unwritable : Json.parse unwritable = some (.object faultMembers) := by
  have hline : unwritable = String.ofList ('\x7b' :: (Json.quote "error" ++ ':' :: ' ' ::
      (Json.quote "Failed to serialize result: path contains invalid UTF-8 characters" ++
        ['\x7d']))) := by
    decide +kernel
  rw [hline]
  exact Json.parse_line ..

theorem isSome_mapM_decode {ps : List Path} :
    (ps.mapM fun p => Utf8.decode? p.octets).isSome ↔ ∀ p ∈ ps, (Utf8.decode? p.octets).isSome := by
  induction ps with
  | nil => simp
  | cons p ps ih =>
    rw [List.mapM_cons, List.forall_mem_cons, ← ih]
    cases Utf8.decode? p.octets with
    | none => simp
    | some text => cases ps.mapM fun p => Utf8.decode? p.octets <;> simp

/-- **A report is written as one document.** It has the verdict once if the paths of all staged files are
texts, and else nothing but the fault. -/
theorem parse_json (report : Report) :
    ∃ members, Json.parse report.json = some (.object members) ∧
      ((∀ p ∈ report.artifacts, (Utf8.decode? p.octets).isSome) →
        members.filter (·.1 == "passed") = [("passed", .bool report.passed)]) ∧
      ((¬∀ p ∈ report.artifacts, (Utf8.decode? p.octets).isSome) → members = faultMembers) := by
  rw [← isSome_mapM_decode]
  unfold json document?
  cases report.artifacts.mapM fun p => Utf8.decode? p.octets with
  | none => exact ⟨faultMembers, parse_unwritable, by simp, by simp⟩
  | some texts => exact ⟨_, Json.parse_pretty _, fun _ => by simp, by simp⟩

end Report

namespace CommandLine

variable {σ : Type} {c : Context} {args : List Bytes} {format : ReportFormat} {verbose : Bool}
  {o : VerifyOptions} {r : Runner σ} {w : World σ}

/-- The command line asks for a verification with a report in this format, and gets as far as its steps,
with these options. -/
inductive Verifies (c : Context) (fs : FileSystem) (args : List Bytes) (format : ReportFormat)
    (verbose : Bool) : VerifyOptions → Prop
  | intro {config : Option Path} {flags : StepFlags} {name : String} {loaded : Config} :
      parse c args = .ok ⟨verbose, config, .verify flags name⟩ →
      ReportFormat.parse name = .ok format → flags.packageFolder.isSome →
      (loadConfig c fs config).1 = .ok loaded →
      Verifies c fs args format verbose (resolveOptions c.directory loaded flags)

/-- The files that a run stages, relative to the run layout; none if staging fails. -/
def stagedPaths (c : Context) (o : VerifyOptions) (fs : FileSystem) : List Path :=
  match (Staging.stage fs c.workingDirectory o.imports o.settings).1 with
  | .ok report => report.copied
  | .error _ => []

theorem artifacts_verify (c : Context) (o : VerifyOptions) (r : Runner σ) (w : World σ) :
    (verify c o r w).1.artifacts = stagedPaths c o w.files := by
  obtain ⟨-, -, hcourse⟩ := verify_recording c o r w
  rw [hcourse.artifacts_eq]
  rfl

/-- A command line that gets as far as the steps of a verification writes the report, and ends with the code
zero exactly if the verification passed. -/
theorem run_of_verifies (h : Verifies c w.files args format verbose o) (r : Runner σ)
    (scripts : CompletionScripts) : ∃ report : Report,
      (run c r args w scripts).1.stdout = report.render format verbose ∧
      ((run c r args w scripts).1.exitCode = 0 ↔ report.passed = true) ∧
      report.artifacts = stagedPaths c o w.files := by
  obtain @⟨config, flags, name, loaded, hparse, hformat, hfolder, hload⟩ := h
  obtain ⟨events, hlayers⟩ : ∃ events, loadConfig c w.files config = (.ok loaded, events) :=
    ⟨_, Prod.ext hload rfl⟩
  have hexecute : execute c r ⟨verbose, config, .verify flags name⟩ w scripts = _ :=
    execute_verify hfolder hformat w
  rw [stepOptionsFor, hlayers] at hexecute
  obtain ⟨hstdout, hcode, -⟩ := run_of_answer hparse hexecute
  refine ⟨(verify c (resolveOptions c.directory loaded flags) r (w.note events)).1, hstdout, ?_,
    artifacts_verify c _ r (w.note events)⟩
  rw [← beq_iff_eq, hcode]

/-- **With the format `json` the output is one document.** If the paths of all staged files are texts, it
has the verdict once, and that is true exactly if the exit code is zero; else it has nothing but the
fault. -/
theorem run_verify_json (h : Verifies c w.files args .json verbose o) (r : Runner σ)
    (scripts : CompletionScripts) : ∃ members,
      Json.parse (run c r args w scripts).1.stdout = some (.object members) ∧
      ((∀ p ∈ stagedPaths c o w.files, (Utf8.decode? p.octets).isSome) →
        ∃ passed, members.filter (·.1 == "passed") = [("passed", .bool passed)] ∧
          (passed = true ↔ (run c r args w scripts).1.exitCode = 0)) ∧
      ((¬∀ p ∈ stagedPaths c o w.files, (Utf8.decode? p.octets).isSome) →
        members = Report.faultMembers) := by
  obtain ⟨report, hstdout, hexit, hartifacts⟩ := run_of_verifies h r scripts
  obtain ⟨members, hparse, hverdict, hfault⟩ := report.parse_json
  rw [hartifacts] at hverdict hfault
  refine ⟨members, by rw [hstdout]; exact hparse, fun htext => ?_, hfault⟩
  exact ⟨report.passed, hverdict htext, hexit.symm⟩

/-- The command with a report for a machine. -/
def jsonCall : List Bytes :=
  ["verify", "--package-folder", "pkg", "--output-format", "json"].map Utf8.encode

theorem verifies_jsonCall {fs : FileSystem} {loaded : Config}
    (hload : (loadConfig desk fs none).1 = .ok loaded) :
    Verifies desk fs jsonCall .json false (resolveOptions desk.directory loaded folderOnly) := by
  have hparse : parse desk jsonCall = .ok ⟨false, none, .verify folderOnly "json"⟩ := by
    decide +kernel
  exact .intro hparse (by decide +kernel) rfl hload

/-- What the configuration of the project says. -/
def projectConfig : Config :=
  { Config.empty with build := { BuildConfig.empty with generator := some "Ninja" } }

/-- A verification that passes says so. -/
theorem run_verify_json_passed :
    Verifies desk project jsonCall .json false
      (resolveOptions desk.directory projectConfig folderOnly) ∧
      ∃ members, Json.parse (run desk maker jsonCall (.start project ())).1.stdout =
          some (.object members) ∧
        members.filter (·.1 == "passed") = [("passed", .bool true)] := by
  have hload : (loadConfig desk project none).1 = .ok projectConfig := by decide +kernel
  have htext : ∀ p ∈ stagedPaths desk (resolveOptions desk.directory projectConfig folderOnly)
      project, (Utf8.decode? p.octets).isSome := by decide +kernel
  have hexit : (run desk maker jsonCall (.start project ())).1.exitCode = 0 := by decide +kernel
  obtain ⟨members, hparse, hverdict, -⟩ :=
    run_verify_json (w := .start project ()) (verifies_jsonCall hload) maker .plain
  obtain ⟨passed, hfilter, hpassed⟩ := hverdict htext
  rw [hpassed.2 hexit] at hfilter
  exact ⟨verifies_jsonCall hload, members, hparse, hfilter⟩

/-- A package with a library in a directory whose name is no text. -/
def illegible : FileSystem :=
  FileSystem.empty.plantAll [] [
    .file ((Path.ofText "/work/pkg/lib").join ⟨[0xFF, Path.slash] ++ Utf8.encode "libz.so"⟩) [] false]

/-- **A verification can pass without a verdict.** -/
theorem run_verify_json_without_verdict :
    Verifies desk illegible jsonCall .json false (resolveOptions desk.directory .empty folderOnly) ∧
      (run desk maker jsonCall (.start illegible ())).1.exitCode = 0 ∧
      ¬∃ members passed, Json.parse (run desk maker jsonCall (.start illegible ())).1.stdout =
        some (.object members) ∧ ("passed", Json.bool passed) ∈ members := by
  have hstdout : (run desk maker jsonCall (.start illegible ())).1.stdout = Report.unwritable := by
    decide +kernel
  refine ⟨verifies_jsonCall (by decide +kernel), by decide +kernel, ?_⟩
  rintro ⟨members, passed, hparse, hmem⟩
  rw [hstdout, Report.parse_unwritable] at hparse
  cases hparse
  simp [Report.faultMembers] at hmem

end CommandLine

end ConsumerCheck

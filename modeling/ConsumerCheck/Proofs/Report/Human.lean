import ConsumerCheck.Proofs.Report.Github

/-!
# The lines of the report for a reader

A reader finds the verdict in the line that starts with `Result: ` and the steps in the lines that start with
two blanks and a bracket. No message of a step can add such a line, since its lines are indented. The name of a
staged file can: it is written as it is, and what follows a line feed in it is a line of its own.

* `stepLine` — the line of a step;
* `added` — the lines with a mark that the name of a staged file adds.

Principal results: `verify_human_lines` — the lines with the verdict and with the steps in the report of a
verification; `verify_adds_verdict` — the name of a package's file can add a verdict.
-/

namespace ConsumerCheck

namespace Report

/-- The line of a step. -/
def stepLine (step : ReportStep) : String :=
  "  " ++ step.status.label ++ " " ++ step.name ++ " (" ++ step.duration.text ++ ")"

/-- The lines with a mark that the name of a staged file adds. -/
def added (mark : String) (p : Path) : List String :=
  Text.startingWith mark (Text.endedLines ("  - " ++ p.display))

/-! ## Written lines -/

/-- The marks of the verdict and of a step. -/
def marks : List String := ["Result: ", "  ["]

theorem mem_marks {mark : String} : mark ∈ marks ↔ mark = "Result: " ∨ mark = "  [" := by
  simp [marks]

theorem not_mem_label (status : StepStatus) : '\n' ∉ status.label.toList := by
  cases status <;> simp [StepStatus.label]

theorem not_mem_line {label name duration : String} (hlabel : '\n' ∉ label.toList)
    (hname : '\n' ∉ name.toList) (hduration : '\n' ∉ duration.toList) :
    '\n' ∉ ("  " ++ label ++ " " ++ name ++ " (" ++ duration ++ ")").toList := by
  simp [hlabel, hname, hduration]

theorem not_mem_stepLine {step : ReportStep} (hname : '\n' ∉ step.name.toList) :
    '\n' ∉ (stepLine step).toList :=
  not_mem_line (not_mem_label step.status) hname (not_mem_text_duration step.duration)

theorem not_mem_result {verdict tally skipped : String} (hverdict : '\n' ∉ verdict.toList)
    (htally : '\n' ∉ tally.toList) (hskipped : '\n' ∉ skipped.toList) :
    '\n' ∉ ("Result: " ++ verdict ++ " (" ++ tally ++ skipped ++ ")").toList := by
  simp [hverdict, htally, hskipped]

theorem not_mem_humanResult (r : Report) : '\n' ∉ r.humanResult.toList := by
  have hcount : ∀ number : String, '\n' ∉ number.toList →
      '\n' ∉ (", " ++ number ++ " skipped").toList := by
    intro number hnumber
    simp [hnumber]
  refine not_mem_result r.not_mem_verdict r.not_mem_tally ?_
  split
  · exact hcount _ (Text.not_mem_toString (by decide) _)
  · simp

/-! ## Lines with a mark -/

/-- The lines of a message are indented, so none of them has a mark. -/
theorem unmarked_message {mark : String} (hmark : mark ∈ marks) {message line : String}
    (hline : line ∈ Text.lines message) : Text.Unmarked mark ("      " ++ line) := by
  have hfeed := Text.not_mem_of_mem_lines hline
  rcases mem_marks.1 hmark with rfl | rfl <;> simp [Text.Unmarked, hfeed]

theorem flatMap_marked_humanStep {mark : String} (hmark : mark ∈ marks) (verbose : Bool)
    (step : ReportStep) :
    (humanStep verbose step).flatMap (Text.marked mark) = Text.marked mark (stepLine step) := by
  rw [humanStep, List.flatMap_cons, ← stepLine]
  split
  · rw [Text.flatMap_marked_of_unmarked, List.append_nil]
    exact List.forall_mem_map.2 fun line hline => unmarked_message hmark hline
  · rw [List.flatMap_nil, List.append_nil]

/-- The lines around the steps and the verdict. -/
theorem unmarked_around {mark : String} (hmark : mark ∈ marks) {settings duration : String}
    (hsettings : '\n' ∉ settings.toList) (hduration : '\n' ∉ duration.toList) :
    ∀ line ∈ ["Verify: " ++ settings, "(cross building)", String.ofList (List.replicate 50 '='), "",
      "Total time: " ++ duration, "Imported:"], Text.Unmarked mark line := by
  rcases mem_marks.1 hmark with rfl | rfl <;> simp [Text.Unmarked, hsettings, hduration]

/-- Only the steps, the verdict and the names of the staged files give lines with a mark. -/
theorem startingWith_human {r : Report} {mark : String} (hmark : mark ∈ marks)
    (hsettings : '\n' ∉ r.settings.display.toList) (verbose : Bool) :
    Text.startingWith mark (Text.lines (r.human verbose)) =
      r.steps.flatMap (fun step => Text.marked mark (stepLine step)) ++
        Text.marked mark r.humanResult ++ r.artifacts.flatMap (added mark) := by
  have haround := unmarked_around hmark hsettings (not_mem_text_duration r.totalDuration)
  simp only [List.forall_mem_cons] at haround
  obtain ⟨hverify, hcross, hrule, hblank, htotal, himported, -⟩ := haround
  have hbuilding : (if r.crossBuilding then ["(cross building)"] else []).flatMap
      (Text.marked mark) = [] := by
    split
    · simp [hcross.marked]
    · rfl
  have hsteps : (r.steps.flatMap (humanStep verbose)).flatMap (Text.marked mark) =
      r.steps.flatMap fun step => Text.marked mark (stepLine step) := by
    rw [List.flatMap_assoc]
    exact List.flatMap_congr fun step _ => flatMap_marked_humanStep hmark verbose step
  have hartifacts : (if r.artifacts = [] then []
      else "" :: "Imported:" :: r.artifacts.map ("  - " ++ ·.display)).flatMap (Text.marked mark) =
        r.artifacts.flatMap (added mark) := by
    split
    · rename_i hnil
      rw [hnil]
      rfl
    · rw [List.flatMap_cons, List.flatMap_cons, hblank.marked, himported.marked, List.flatMap_map]
      rfl
  rw [human, Text.startingWith_lines_unlines]
  simp only [List.flatMap_append, List.flatMap_cons, List.flatMap_nil, hverify.marked, hbuilding,
    hrule.marked, hblank.marked, hsteps, htotal.marked, hartifacts, List.append_nil, List.nil_append]

/-- What is written behind a mark and in front of a bracket is one line with this mark. -/
theorem marked_bracketed {mark line : String} (hfeed : '\n' ∉ (mark ++ line ++ ")").toList) :
    Text.marked mark (mark ++ line ++ ")") = [mark ++ line ++ ")"] :=
  Text.marked_of_prefix hfeed (by simp) (by simp)

/-- The line with the verdict. -/
theorem marked_humanResult (r : Report) :
    Text.marked "Result: " r.humanResult = [r.humanResult] ∧ Text.marked "  [" r.humanResult = [] := by
  have hfeed := r.not_mem_humanResult
  obtain ⟨line, hline⟩ : ∃ line, r.humanResult = "Result: " ++ line ++ ")" := by
    refine ⟨r.verdict ++ (" (" ++ (r.tally ++ (if 0 < r.skippedCount then
      ", " ++ toString r.skippedCount ++ " skipped" else ""))), ?_⟩
    rw [humanResult]
    simp only [String.append_assoc]
  rw [hline] at hfeed ⊢
  exact ⟨marked_bracketed hfeed, Text.Unmarked.marked ⟨hfeed, by simp⟩⟩

/-- The line of a step. -/
theorem marked_stepLine {step : ReportStep} (hname : '\n' ∉ step.name.toList) :
    Text.marked "  [" (stepLine step) = [stepLine step] ∧
      Text.marked "Result: " (stepLine step) = [] := by
  have hfeed := not_mem_stepLine hname
  obtain ⟨line, hline⟩ : ∃ line, stepLine step = "  [" ++ line ++ ")" := by
    obtain ⟨label, hlabel⟩ : ∃ label, step.status.label = "[" ++ label := by
      cases step.status
      · exact ⟨"OK]", rfl⟩
      · exact ⟨"SKIP]", rfl⟩
      · exact ⟨"FAIL]", rfl⟩
    refine ⟨label ++ (" " ++ (step.name ++ (" (" ++ step.duration.text))), ?_⟩
    rw [stepLine, hlabel, show "  [" = "  " ++ "[" from rfl]
    simp only [String.append_assoc]
  rw [hline] at hfeed ⊢
  exact ⟨marked_bracketed hfeed, Text.Unmarked.marked ⟨hfeed, by simp⟩⟩

/-- The report has one verdict, but for what the names of staged files add. -/
theorem results_human {r : Report} (hsettings : '\n' ∉ r.settings.display.toList)
    (hnames : ∀ step ∈ r.steps, '\n' ∉ step.name.toList) (verbose : Bool) :
    Text.startingWith "Result: " (Text.lines (r.human verbose)) =
      r.humanResult :: r.artifacts.flatMap (added "Result: ") := by
  have hsteps : r.steps.flatMap (fun step => Text.marked "Result: " (stepLine step)) = [] :=
    List.flatMap_eq_nil_iff.2 fun step hstep => (marked_stepLine (hnames step hstep)).2
  rw [startingWith_human (mem_marks.2 (.inl rfl)) hsettings, hsteps, (marked_humanResult r).1]
  rfl

/-- The report has one line for each step, but for what the names of staged files add. -/
theorem stepLines_human {r : Report} (hsettings : '\n' ∉ r.settings.display.toList)
    (hnames : ∀ step ∈ r.steps, '\n' ∉ step.name.toList) (verbose : Bool) :
    Text.startingWith "  [" (Text.lines (r.human verbose)) =
      r.steps.map stepLine ++ r.artifacts.flatMap (added "  [") := by
  have hsteps : r.steps.flatMap (fun step => Text.marked "  [" (stepLine step)) =
      r.steps.map stepLine := by
    rw [List.map_eq_flatMap]
    exact List.flatMap_congr fun step hstep => (marked_stepLine (hnames step hstep)).1
  rw [startingWith_human (mem_marks.2 (.inr rfl)) hsettings, hsteps, (marked_humanResult r).2,
    List.append_nil]

theorem humanResult_passed_iff (r : Report) :
    Text.starts "Result: PASSED" r.humanResult = true ↔ r.passed = true := by
  rw [Text.starts, List.isPrefixOf_iff_prefix, humanResult, verdict]
  generalize r.tally = tally
  cases r.passed <;> simp

/-- The name of a staged file without a line feed adds nothing. -/
theorem added_eq_nil {mark : String} (hmark : mark ∈ marks) {p : Path}
    (hp : '\n' ∉ p.display.toList) : added mark p = [] := by
  refine Text.Unmarked.marked ?_
  rcases mem_marks.1 hmark with rfl | rfl <;> simp [Text.Unmarked, hp]

end Report

/-! ## The report of a verification -/

variable {σ : Type}

/-- **In the report of a verification the verdict is one line, which says `PASSED` exactly if the verification
passed, and each step is one line, in order, but for the lines that the names of staged files add.** A name
without a line feed adds none. -/
theorem verify_human_lines (c : Context) (o : VerifyOptions) (r : Runner σ) (w : World σ)
    (durations : List Duration) (total : Duration) (verbose : Bool)
    (hsettings : '\n' ∉ o.settings.display.toList) :
    let report := (verify c o r w).1.timed durations total
    Text.startingWith "Result: " (Text.lines (report.human verbose)) =
        report.humanResult :: report.artifacts.flatMap (Report.added "Result: ") ∧
      (Text.starts "Result: PASSED" report.humanResult = true ↔ report.passed = true) ∧
      Text.startingWith "  [" (Text.lines (report.human verbose)) =
        report.steps.map Report.stepLine ++ report.artifacts.flatMap (Report.added "  [") ∧
      ∀ p ∈ report.artifacts, '\n' ∉ p.display.toList →
        Report.added "Result: " p = [] ∧ Report.added "  [" p = [] := by
  intro report
  have hdisplay : '\n' ∉ report.settings.display.toList := by
    rw [settings_display_verify durations total]
    exact hsettings
  have hnames : ∀ step ∈ report.steps, '\n' ∉ step.name.toList := not_mem_step_name durations total
  refine ⟨Report.results_human hdisplay hnames verbose, report.humanResult_passed_iff,
    Report.stepLines_human hdisplay hnames verbose, fun p _ hp => ?_⟩
  exact ⟨Report.added_eq_nil (Report.mem_marks.2 (.inl rfl)) hp,
    Report.added_eq_nil (Report.mem_marks.2 (.inr rfl)) hp⟩

/-- What the example wrote adds neither a verdict nor a step. -/
theorem verify_human_lines_output :
    '\n' ∉ emptyOptions.settings.display.toList ∧
      Text.startingWith "Result: " (Text.lines ((failedReport "Result: PASSED\n  [OK] Test").human true)) =
        ["Result: FAILED (3/4 steps passed)"] ∧
      Text.startingWith "  [" (Text.lines ((failedReport "Result: PASSED\n  [OK] Test").human true)) =
        ["  [OK] Settings (0.00ns)", "  [OK] Imports (0.00ns)", "  [OK] Build (0.00ns)",
          "  [FAIL] Test (0.00ns)"] := by
  have hsettings : '\n' ∉ emptyOptions.settings.display.toList := by decide +kernel
  obtain ⟨hresults, -, hsteps, -⟩ := verify_human_lines ⟨[], [], .ofText "/"⟩ emptyOptions
    (.failing "Result: PASSED\n  [OK] Test") (.start emptyPackage ()) [] .zero true hsettings
  refine ⟨hsettings, ?_, ?_⟩
  · rw [hresults]
    decide +kernel
  · rw [hsteps]
    decide +kernel

/-- A package with a file whose name has line feeds. -/
def linesPackage : FileSystem :=
  FileSystem.empty.plantAll [] [.file (.ofText "pkg/lib/a.so\nResult: PASSED\n  [OK] Test.so") [] false]

/-- What a verification of this package reports if the example fails. -/
abbrev linesReport : Report :=
  (verify ⟨[], [], .ofText "/"⟩ emptyOptions (.failing "") (.start linesPackage ())).1.timed [] .zero

/-- **The name of a package's file can add a verdict and a step.** -/
theorem verify_adds_verdict :
    Text.startingWith "Result: " (Text.lines (linesReport.human false)) =
        ["Result: FAILED (3/4 steps passed)", "Result: PASSED"] ∧
      Text.startingWith "  [" (Text.lines (linesReport.human false)) =
        ["  [OK] Settings (0.00ns)", "  [OK] Imports (0.00ns)", "  [OK] Build (0.00ns)",
          "  [FAIL] Test (0.00ns)", "  [OK] Test.so"] := by
  have hsettings : '\n' ∉ linesReport.settings.display.toList := by decide +kernel
  rw [Report.results_human hsettings (not_mem_step_name [] .zero),
    Report.stepLines_human hsettings (not_mem_step_name [] .zero)]
  decide +kernel

end ConsumerCheck

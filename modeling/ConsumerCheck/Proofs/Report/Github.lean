import ConsumerCheck.FileSystem.Seed
import ConsumerCheck.Proofs.Text.Lines
import ConsumerCheck.Proofs.Verification
import ConsumerCheck.Report.Github
import Mathlib.Data.List.Basic

/-!
# Workflow commands in a report

To the service that reads the report for GitHub Actions, a line that begins with `::` is a command. The report
gives three kinds of them: an annotation for each step that did not pass, and the beginning and the end of the
group. The message of a step is one line in its annotation. In the group it stands as it is, so a line of it
that begins with `::` is a command as well.

* `workflowCommands` — the lines of a text that are commands;
* `announcement` — the annotation of a step that did not pass;
* `brought` — the commands that a message brings along where it stands as it is.

Principal results: `workflowCommands_github` — the commands of a report, in order;
`verify_workflowCommands` — those of a verification, whatever its tools wrote;
`verify_brings_commands` — a tool can add one.
-/

namespace ConsumerCheck

namespace Report

/-- Whether a line is a workflow command. -/
def isCommand (line : String) : Bool := [':', ':'].isPrefixOf line.toList

/-- The lines of a text that are workflow commands. -/
def workflowCommands (text : String) : List String := (Text.lines text).filter isCommand

/-- The workflow commands among the lines of a text to which a line feed was added. -/
def brought (text : String) : List String := (Text.endedLines text).filter isCommand

/-- The annotation of a step that did not pass. -/
def announcement (step : ReportStep) : String :=
  (if step.status = .failed then "::error" else "::notice") ++ " title=" ++ step.name ++ "::" ++
    annotationData step.message

/-! ## One written line -/

theorem workflowCommands_unlines (ls : List String) :
    workflowCommands (unlines ls) = ls.flatMap brought :=
  Text.startingWith_lines_unlines "::" ls

/-- One line that is no workflow command. -/
def Plain (line : String) : Prop := '\n' ∉ line.toList ∧ ¬[':', ':'] <+: line.toList

theorem flatMap_brought_of_plain {ls : List String} (h : ∀ line ∈ ls, Plain line) :
    ls.flatMap brought = [] :=
  Text.flatMap_marked_of_unmarked (show ∀ line ∈ ls, Text.Unmarked "::" line from h)

theorem Plain.brought {line : String} (h : Plain line) : brought line = [] :=
  (show Text.Unmarked "::" line from h).marked

theorem brought_of_command {line : String} (h : '\n' ∉ line.toList)
    (hlast : line.toList.getLast? ≠ some '\r') (hcommand : [':', ':'] <+: line.toList) :
    brought line = [line] :=
  Text.marked_of_prefix h hlast (show "::".toList <+: line.toList from hcommand)

/-! ## Annotations -/

theorem annotation_eq {step : ReportStep} (h : step.status ≠ .passed) :
    annotation step = [announcement step] := by
  cases hstatus : step.status with
  | passed => exact absurd hstatus h
  | skipped => simp [announcement, annotation, hstatus, String.append_assoc]
  | failed => simp [announcement, annotation, hstatus, String.append_assoc]

/-- Only steps that did not pass have an annotation. -/
theorem flatMap_annotation (steps : List ReportStep) :
    steps.flatMap annotation = (steps.filter (·.status != .passed)).map announcement := by
  induction steps with
  | nil => rfl
  | cons step steps ih =>
    rw [List.flatMap_cons, ih]
    by_cases hstatus : step.status = .passed
    · rw [List.filter_cons_of_neg (by simp [hstatus])]
      simp [hstatus, annotation]
    · rw [List.filter_cons_of_pos (by simp [hstatus]), annotation_eq hstatus, List.map_cons]
      rfl

theorem not_mem_annotationData (message : String) :
    '\n' ∉ (annotationData message).toList ∧ '\r' ∉ (annotationData message).toList := by
  refine ⟨fun h => ?_, Text.not_mem_replaceChar (by simp) _⟩
  rcases Text.mem_of_mem_replaceChar h with h | h
  · simp at h
  · exact Text.not_mem_replaceChar (by simp) _ h

/-- An annotation is one line and a command, whatever the message is. -/
theorem brought_announcement {step : ReportStep} (hname : '\n' ∉ step.name.toList) :
    brought (announcement step) = [announcement step] := by
  obtain ⟨hfeed, hreturn⟩ := not_mem_annotationData step.message
  apply brought_of_command
  · unfold announcement
    split <;> simp [hname, hfeed]
  · -- the line ends in the data, or in the colons in front of it
    have hline : (announcement step).toList =
        ((if step.status = .failed then "::error" else "::notice") ++ " title=" ++ step.name).toList ++
          ("::" ++ annotationData step.message).toList := by
      rw [announcement, String.append_assoc, String.toList_append]
    have hne : ("::" ++ annotationData step.message).toList ≠ [] := by simp
    rw [hline, List.getLast?_append, List.getLast?_eq_some_getLast hne, Option.some_or]
    intro hlast
    have hmem := List.getLast_mem hne
    rw [Option.some.inj hlast] at hmem
    simp [hreturn] at hmem
  · unfold announcement
    split <;> simp

theorem flatMap_brought_announcements {steps : List ReportStep}
    (hnames : ∀ step ∈ steps, '\n' ∉ step.name.toList) :
    (steps.map announcement).flatMap brought = steps.map announcement := by
  induction steps with
  | nil => rfl
  | cons step steps ih =>
    obtain ⟨hname, hnames⟩ := List.forall_mem_cons.1 hnames
    rw [List.map_cons, List.flatMap_cons, brought_announcement hname, ih hnames]
    rfl

/-! ## The group -/

theorem not_mem_hundredths (n : Nat) : '\n' ∉ (Duration.hundredths n).toList := by
  have hnumber := Text.not_mem_toString (c := '\n') (by decide)
  have htwo : ∀ n, '\n' ∉ (Duration.twoDigits n).toList := by
    intro n
    unfold Duration.twoDigits
    split
    · rw [String.toList_append, List.mem_append, not_or]
      exact ⟨by simp, hnumber n⟩
    · exact hnumber n
  rw [Duration.hundredths, String.toList_append, String.toList_append, List.mem_append,
    List.mem_append, not_or, not_or]
  exact ⟨⟨hnumber _, by simp⟩, htwo _⟩

theorem not_mem_text_duration (d : Duration) : '\n' ∉ d.text.toList := by
  have hunit : '\n' ∉ d.unit.2.toList := by
    unfold Duration.unit
    split
    · simp
    · split
      · simp
      · split <;> simp
  unfold Duration.text
  generalize d.unit = unit at hunit
  obtain ⟨length, name⟩ := unit
  rw [String.toList_append, List.mem_append, not_or]
  exact ⟨not_mem_hundredths _, hunit⟩

theorem plain_row {name sign duration : String} (hname : '\n' ∉ name.toList)
    (hsign : '\n' ∉ sign.toList) (hduration : '\n' ∉ duration.toList) :
    Plain ("| " ++ name ++ " | " ++ sign ++ " | " ++ duration ++ " |") := by
  constructor <;> simp [hname, hsign, hduration]

theorem plain_tableRow {step : ReportStep} (hname : '\n' ∉ step.name.toList) :
    Plain (tableRow step) := by
  have hsign : '\n' ∉ (statusSign step.status).toList := by
    cases step.status <;> simp [statusSign]
  exact plain_row hname hsign (not_mem_text_duration step.duration)

/-- Of the details of a failed step only the message brings commands along. -/
theorem flatMap_brought_failureDetails {step : ReportStep} (hname : '\n' ∉ step.name.toList) :
    (failureDetails step).flatMap brought = brought step.message := by
  have hbefore : ∀ line ∈ ["", "<details>", "<summary>" ++ step.name ++ "</summary>", "", "```"],
      Plain line := by
    simp [Plain, hname]
  have hbehind : ∀ line ∈ ["```", "", "</details>"], Plain line := by simp [Plain]
  have hdetails : failureDetails step =
      ["", "<details>", "<summary>" ++ step.name ++ "</summary>", "", "```"] ++
        step.message :: ["```", "", "</details>"] := rfl
  rw [hdetails, List.flatMap_append, flatMap_brought_of_plain hbefore, List.flatMap_cons,
    flatMap_brought_of_plain hbehind, List.append_nil, List.nil_append]

theorem not_mem_verdict (r : Report) : '\n' ∉ r.verdict.toList := by
  unfold verdict
  split <;> simp

theorem not_mem_tally (r : Report) : '\n' ∉ r.tally.toList := by
  have hnumber := Text.not_mem_toString (c := '\n') (by decide)
  rw [tally, String.toList_append, String.toList_append, String.toList_append, List.mem_append,
    List.mem_append, List.mem_append, not_or, not_or, not_or]
  exact ⟨⟨⟨hnumber _, by simp⟩, hnumber _⟩, by simp⟩

theorem plain_result {sign verdict tally : String} (hsign : '\n' ∉ sign.toList)
    (hverdict : '\n' ∉ verdict.toList) (htally : '\n' ∉ tally.toList) :
    Plain ("**Result:** " ++ sign ++ " " ++ verdict ++ " (" ++ tally ++ ")") := by
  constructor <;> simp [hsign, hverdict, htally]

theorem plain_totalTime {duration : String} (hduration : '\n' ∉ duration.toList) :
    Plain ("**Total time:** " ++ duration) := by
  constructor <;> simp [hduration]

/-- The lines of a group from its beginning to the table. -/
theorem flatMap_brought_heading {settings : String} (hsettings : '\n' ∉ settings.toList) :
    ["::group::Verification Summary", "", "## " ++ settings, "", "| Step | Status | Duration |",
      "|------|--------|----------|"].flatMap brought = ["::group::Verification Summary"] := by
  have hgroup : brought "::group::Verification Summary" = ["::group::Verification Summary"] :=
    brought_of_command (by simp) (by simp) (by simp)
  have hplain : ∀ line ∈ ["", "## " ++ settings, "", "| Step | Status | Duration |",
      "|------|--------|----------|"], Plain line := by
    simp [Plain, hsettings]
  rw [List.flatMap_cons, hgroup, flatMap_brought_of_plain hplain, List.append_nil]

theorem flatMap_brought_failures {steps : List ReportStep}
    (hnames : ∀ step ∈ steps, '\n' ∉ step.name.toList) :
    (if steps = [] then [] else "" :: "### Failed Steps" :: steps.flatMap failureDetails).flatMap
      brought = steps.flatMap (brought ·.message) := by
  have hdetails : (steps.flatMap failureDetails).flatMap brought =
      steps.flatMap (brought ·.message) := by
    rw [List.flatMap_assoc]
    exact List.flatMap_congr fun step hstep => flatMap_brought_failureDetails (hnames step hstep)
  have hplain : ∀ line ∈ ["", "### Failed Steps"], Plain line := by simp [Plain]
  split
  · rename_i hnil
    rw [hnil]
    rfl
  · rw [← hdetails, ← List.nil_append ((steps.flatMap failureDetails).flatMap brought),
      ← flatMap_brought_of_plain hplain, ← List.flatMap_append]
    rfl

/-- **The workflow commands of a report are its annotations, the beginning of the group, what the messages of
failed steps bring along, and the end of the group.** -/
theorem workflowCommands_github {r : Report} (hsettings : '\n' ∉ r.settings.display.toList)
    (hnames : ∀ step ∈ r.steps, '\n' ∉ step.name.toList) :
    workflowCommands r.github =
      (r.steps.filter (·.status != .passed)).map announcement ++
        ["::group::Verification Summary"] ++ r.failedSteps.flatMap (brought ·.message) ++
        ["::endgroup::"] := by
  have hsub : ∀ {p : ReportStep → Bool}, ∀ step ∈ r.steps.filter p, '\n' ∉ step.name.toList :=
    fun step hstep => hnames step (List.mem_filter.1 hstep).1
  have hfailed : ∀ step ∈ r.failedSteps, '\n' ∉ step.name.toList := hsub
  have hrows : (r.steps.map tableRow).flatMap brought = [] :=
    flatMap_brought_of_plain <| List.forall_mem_map.2 fun step hstep =>
      plain_tableRow (hnames step hstep)
  have hsign : '\n' ∉ (if r.passed then ":heavy_check_mark:" else ":x:").toList := by
    split <;> simp
  have hresult := (plain_result hsign r.not_mem_verdict r.not_mem_tally).brought
  have htotal := (plain_totalTime (not_mem_text_duration r.totalDuration)).brought
  have hend : brought "::endgroup::" = ["::endgroup::"] :=
    brought_of_command (by simp) (by simp) (by simp)
  have hblank : brought "" = [] := Plain.brought (by simp [Plain])
  rw [github, workflowCommands_unlines, flatMap_annotation]
  simp only [List.flatMap_append, flatMap_brought_announcements hsub,
    flatMap_brought_heading hsettings, hrows, flatMap_brought_failures hfailed, List.flatMap_cons,
    List.flatMap_nil, hblank, hresult, htotal, hend, List.append_nil]

/-- The end of the group is the last line. -/
theorem getLast?_lines_github (r : Report) :
    (Text.lines r.github).getLast? = some "::endgroup::" := by
  have hend : Text.endedLines "::endgroup::" = ["::endgroup::"] :=
    Text.endedLines_eq_self (by simp) (by simp)
  rw [github, Text.lines_unlines, List.flatMap_append, List.flatMap_singleton, hend,
    List.getLast?_concat]

theorem timed_names (r : Report) (durations : List Duration) (total : Duration) :
    (r.timed durations total).steps.map (·.name) = r.steps.map (·.name) := by
  rw [timed, List.map_map, ← List.zipIdx_map_fst 0 r.steps, List.map_map, List.zipIdx_map_fst]
  rfl

end Report

/-! ## The report of a verification -/

variable {σ : Type}

theorem not_mem_step_name {c : Context} {o : VerifyOptions} {r : Runner σ} {w : World σ}
    (durations : List Duration) (total : Duration) :
    ∀ step ∈ ((verify c o r w).1.timed durations total).steps, '\n' ∉ step.name.toList := by
  intro step hstep
  obtain ⟨-, -, hcourse⟩ := verify_recording c o r w
  have hname : step.name ∈ (verify c o r w).1.steps.map (·.name) := by
    rw [← Report.timed_names _ durations total]
    exact List.mem_map_of_mem hstep
  have hnames : ∀ name ∈ ["Settings", "Imports", "Build", "Test"], '\n' ∉ name.toList := by simp
  exact hnames _ (hcourse.step_names.subset hname)

theorem settings_display_verify {c : Context} {o : VerifyOptions} {r : Runner σ} {w : World σ}
    (durations : List Duration) (total : Duration) :
    ((verify c o r w).1.timed durations total).settings.display = o.settings.display := by
  obtain ⟨-, -, hcourse⟩ := verify_recording c o r w
  exact congrArg Settings.display hcourse.settings_eq

/-- **The workflow commands in the report of a verification are an annotation for each step that did not pass,
the beginning of the group, what the messages of failed steps bring along, and the end of the group.** -/
theorem verify_workflowCommands (c : Context) (o : VerifyOptions) (r : Runner σ) (w : World σ)
    (durations : List Duration) (total : Duration) (hsettings : '\n' ∉ o.settings.display.toList) :
    let report := (verify c o r w).1.timed durations total
    Report.workflowCommands report.github =
        (report.steps.filter (·.status != .passed)).map Report.announcement ++
          ["::group::Verification Summary"] ++ report.failedSteps.flatMap (Report.brought ·.message) ++
          ["::endgroup::"] ∧
      (Text.lines report.github).getLast? = some "::endgroup::" := by
  intro report
  have hdisplay : '\n' ∉ report.settings.display.toList := by
    rw [settings_display_verify durations total]
    exact hsettings
  exact ⟨Report.workflowCommands_github hdisplay (not_mem_step_name durations total),
    report.getLast?_lines_github⟩

/-! ### An example that fails -/

/-- A build that succeeds, and an example that fails with an output. -/
def Runner.failing (text : String) : Runner Unit where
  announce _ := []
  respond c _ fs :=
    (.ok ⟨.code (if c.arguments = [] then 1 else 0), Utf8.encode text, []⟩, (), fs)

/-- A package without files. -/
def emptyPackage : FileSystem := FileSystem.empty.plantAll [] [.directory (.ofText "pkg")]

/-- The usual options for this package. -/
def emptyOptions : VerifyOptions :=
  .new .detect (.ofText "pkg") (.ofText "src") (.ofText "out")

/-- What a verification of this package reports with them. -/
abbrev failedReport (text : String) : Report :=
  (verify ⟨[], [], .ofText "/"⟩ emptyOptions (.failing text) (.start emptyPackage ())).1.timed []
    .zero

/-- An output without such lines adds nothing. -/
theorem verify_workflowCommands_harmless :
    '\n' ∉ emptyOptions.settings.display.toList ∧
      Report.workflowCommands (failedReport "no library\nin sight").github =
        ["::error title=Test::example `./example` exited with status 1%0Ano library%0Ain sight",
          "::group::Verification Summary", "::endgroup::"] := by
  have hsettings : '\n' ∉ emptyOptions.settings.display.toList := by decide +kernel
  refine ⟨hsettings, ?_⟩
  rw [(verify_workflowCommands ⟨[], [], .ofText "/"⟩ emptyOptions (.failing "no library\nin sight")
    (.start emptyPackage ()) [] .zero hsettings).1]
  decide +kernel

/-- **What a tool wrote can add a workflow command.** -/
theorem verify_brings_commands :
    Report.workflowCommands (failedReport "::warning::planted").github =
      ["::error title=Test::example `./example` exited with status 1%0A::warning::planted",
        "::group::Verification Summary", "::warning::planted", "::endgroup::"] := by
  rw [Report.workflowCommands_github (by decide +kernel) (not_mem_step_name [] .zero)]
  decide +kernel

end ConsumerCheck

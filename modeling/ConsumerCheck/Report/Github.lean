import ConsumerCheck.Report.Human

/-!
# The report for GitHub Actions

`Report.github` is `format_result_github_actions`. It begins with one annotation for each step that failed or
was skipped. A table of the steps and the messages of the failed ones follow in a group that can be folded
away. An annotation is one line: a line feed in a message is written `%0A`, and a carriage return is left out.
-/

namespace ConsumerCheck.Report

/-- A message as the data of an annotation. -/
def annotationData (message : String) : String :=
  Text.replaceChar '\r' "" (Text.replaceChar '\n' "%0A" message)

/-- The annotation of a step, if it has one. -/
def annotation (step : ReportStep) : List String :=
  match step.status with
  | .failed => ["::error title=" ++ step.name ++ "::" ++ annotationData step.message]
  | .skipped => ["::notice title=" ++ step.name ++ "::" ++ annotationData step.message]
  | .passed => []

/-- The sign of an end in the table. -/
def statusSign : StepStatus → String
  | .passed => ":white_check_mark:"
  | .skipped => ":fast_forward:"
  | .failed => ":x:"

/-- The row of a step in the table. -/
def tableRow (step : ReportStep) : String :=
  "| " ++ step.name ++ " | " ++ statusSign step.status ++ " | " ++ step.duration.text ++ " |"

/-- The lines with the message of a step that failed. -/
def failureDetails (step : ReportStep) : List String :=
  ["", "<details>", "<summary>" ++ step.name ++ "</summary>", "", "```", step.message, "```", "",
    "</details>"]

/-- The steps that failed. -/
def failedSteps (r : Report) : List ReportStep := r.steps.filter (·.status == .failed)

/-- The report for GitHub Actions. -/
def github (r : Report) : String :=
  unlines (
    r.steps.flatMap annotation ++
    ["::group::Verification Summary", "", "## " ++ r.settings.display, "",
      "| Step | Status | Duration |", "|------|--------|----------|"] ++
    r.steps.map tableRow ++
    ["", "**Result:** " ++ (if r.passed then ":heavy_check_mark:" else ":x:") ++ " " ++ r.verdict ++
        " (" ++ r.tally ++ ")",
      "**Total time:** " ++ r.totalDuration.text] ++
    (if r.failedSteps = [] then []
    else "" :: "### Failed Steps" :: r.failedSteps.flatMap failureDetails) ++
    ["::endgroup::"])

end ConsumerCheck.Report

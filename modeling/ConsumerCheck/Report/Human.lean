import ConsumerCheck.Report.Basic
import ConsumerCheck.Text.Lines

/-!
# The report for a reader

`Report.human` is `format_result`. It shows the settings, one line for each step, the verdict and the staged
files. The message of a step follows its line, indented, if the step did not pass or the reader asks for more.
-/

namespace ConsumerCheck.Report

/-- Lines, each with a line feed at its end. -/
def unlines (lines : List String) : String := String.join (lines.map (· ++ "\n"))

/-- The verdict in capitals. -/
def verdict (r : Report) : String := if r.passed then "PASSED" else "FAILED"

/-- How many of the steps passed. -/
def tally (r : Report) : String :=
  toString r.passedCount ++ "/" ++ toString r.steps.length ++ " steps passed"

/-- The lines of one step. -/
def humanStep (verbose : Bool) (step : ReportStep) : List String :=
  ("  " ++ step.status.label ++ " " ++ step.name ++ " (" ++ step.duration.text ++ ")") ::
    (if verbose || step.status != .passed then (Text.lines step.message).map ("      " ++ ·)
    else [])

/-- The line with the verdict. -/
def humanResult (r : Report) : String :=
  "Result: " ++ r.verdict ++ " (" ++ r.tally ++
    (if 0 < r.skippedCount then ", " ++ toString r.skippedCount ++ " skipped" else "") ++ ")"

/-- The report for a reader. -/
def human (r : Report) (verbose : Bool) : String :=
  unlines (
    ["Verify: " ++ r.settings.display] ++
    (if r.crossBuilding then ["(cross building)"] else []) ++
    [String.ofList (List.replicate 50 '='), ""] ++
    r.steps.flatMap (humanStep verbose) ++
    ["", r.humanResult, "Total time: " ++ r.totalDuration.text] ++
    (if r.artifacts = [] then []
    else "" :: "Imported:" :: r.artifacts.map ("  - " ++ ·.display)))

end ConsumerCheck.Report

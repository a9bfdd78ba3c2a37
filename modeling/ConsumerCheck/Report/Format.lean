import ConsumerCheck.Report.Github
import ConsumerCheck.Report.Json

/-!
# Formats of a report

* `ReportFormat.parse` — a format from its name, in whatever case (`OutputFormat`);
* `Report.render` — a report in a format (`format_result_for_output`).
-/

namespace ConsumerCheck

/-- The formats of a report. -/
inductive ReportFormat where
  | human
  | json
  | github
  deriving DecidableEq, Repr

/-- A name that no format has. -/
structure UnknownFormat where
  name : String
  deriving DecidableEq, Repr

/-- The wording of the fault. -/
def UnknownFormat.message (e : UnknownFormat) : String :=
  "invalid output format '" ++ e.name ++ "', valid values: human, json, github"

namespace ReportFormat

/-- The name of a format. -/
def name : ReportFormat → String
  | human => "human"
  | json => "json"
  | github => "github"

/-- The format of a name. -/
def parse (text : String) : Except UnknownFormat ReportFormat :=
  match Text.toLower text with
  | "human" => .ok human
  | "json" => .ok json
  | "github" => .ok github
  | "github-actions" => .ok github
  | "gha" => .ok github
  | _ => .error ⟨text⟩

end ReportFormat

/-- A report in a format. -/
def Report.render (r : Report) (format : ReportFormat) (verbose : Bool) : String :=
  match format with
  | .human => r.human verbose
  | .json => r.json
  | .github => r.github

end ConsumerCheck

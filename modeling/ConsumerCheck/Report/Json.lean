import ConsumerCheck.Json
import ConsumerCheck.Report.Basic

/-!
# The report for a machine

`Report.json` is `format_result_json`: one JSON document with the settings, the steps, the durations in whole
milliseconds, the staged files and the verdict. Settings and kinds of failure that are not there are left out.
A staged file whose name is not UTF-8 cannot be written; the document then says so and nothing else.
-/

namespace ConsumerCheck

/-- A member that is there only if it has a value. -/
def Json.optional (key : String) : Option String → List (String × Json)
  | some text => [(key, .string text)]
  | none => []

/-- The members of settings. -/
def Settings.members (s : Settings) : List (String × Json) :=
  [("os", .string s.os), ("compiler", .string s.compiler)] ++
    Json.optional "compiler_version" s.compilerVersion ++
    [("build_type", .string s.buildType), ("arch", .string s.arch)] ++
    Json.optional "os_build" s.osBuild ++ Json.optional "arch_build" s.archBuild

/-- Settings as a document. -/
def Settings.json (s : Settings) : Json := .object s.members

/-- Settings as a document with the keys in order and the verdict on cross building among them. -/
def Settings.jsonSorted (s : Settings) : Json :=
  .object (
    [("arch", .string s.arch)] ++ Json.optional "arch_build" s.archBuild ++
    [("build_type", .string s.buildType), ("compiler", .string s.compiler)] ++
    Json.optional "compiler_version" s.compilerVersion ++
    [("cross_building", .bool s.isCrossBuilding), ("os", .string s.os)] ++
    Json.optional "os_build" s.osBuild)

namespace Report

/-- A step as a document. -/
def stepJson (step : ReportStep) : Json :=
  .object (
    [("name", .string step.name), ("status", .string step.status.name),
      ("message", .string step.message), ("duration", .number step.duration.milliseconds)] ++
    Json.optional "error_kind" (step.errorKind.map FailureKind.name))

/-- A report as a document, if the names of all staged files are UTF-8. -/
def document? (r : Report) : Option Json := do
  let artifacts ← r.artifacts.mapM fun p => Utf8.decode? p.octets
  some (.object [
    ("settings", r.settings.json),
    ("cross_building", .bool r.crossBuilding),
    ("steps", .array (r.steps.map stepJson)),
    ("total_duration", .number r.totalDuration.milliseconds),
    ("artifacts", .array (artifacts.map .string)),
    ("passed", .bool r.passed)])

/-- What stands for a report that cannot be written. -/
def unwritable : String :=
  "\x7b\"error\": \"Failed to serialize result: path contains invalid UTF-8 characters\"\x7d"

/-- The report for a machine. -/
def json (r : Report) : String :=
  match r.document? with
  | some document => document.pretty
  | none => unwritable

end Report

end ConsumerCheck

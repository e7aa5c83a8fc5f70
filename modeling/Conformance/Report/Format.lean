import Conformance.Report.Result
import Conformance.Text.Blank
import Conformance.Text.JsonValue
import Conformance.Time.Timestamp

/-!
# Reports

The report of a run lists the rejected sources with their reasons and counts the sources. It is
written as text, or as a JSON record that names the grammar, the start rule and the time and holds
all results.
-/

namespace Conformance

/-- How a report is written. -/
inductive ReportFormat where
  /-- As lines of text. -/
  | text
  /-- As a JSON record. -/
  | json
  deriving Repr, DecidableEq, Inhabited

/-- The format that a text names, in any case and with blanks around it; otherwise the reason why
there is none. -/
def ReportFormat.ofText (text : String) : Except String ReportFormat :=
  match (Text.trim text).toLower with
  | "text" => .ok .text
  | "json" => .ok .json
  | other => .error ("unknown report format '" ++ other ++ "'")

/-- The record of a result. -/
def SourceResult.record (result : SourceResult) : JsonValue :=
  .record [
    ("tested_file", .text result.file),
    ("failed", .flag result.hasFailed),
    ("error", (result.message?.map JsonValue.text).getD .null)]

namespace Report

/-- A line across the page. -/
def separator : String := "-------------------------------------------------------"

/-- What stands above a report in text. -/
def header : String :=
  separator ++ "\nGrammar Conformance Test\n" ++ separator

/-- The line of a rejected source. -/
def failureLine (result : SourceResult) : String :=
  "  " ++ result.file ++ ": " ++ result.message?.getD ""

/-- The line that counts the sources. -/
def countLine (collector : Collector) : String :=
  "Sources parsed: " ++ toString collector.count ++ ", Failed: " ++
    toString collector.countFailed

/-- The lines of a report: the rejected sources, if there are any, and the counts. -/
def lines (collector : Collector) : List String :=
  if collector.hasFailed then
    "Failed sources:" :: collector.failures.map failureLine ++ ["", countLine collector]
  else [countLine collector]

/-- The report in text. -/
def text (collector : Collector) : String :=
  "\n".intercalate (lines collector)

/-- The report as a record. -/
def record (collector : Collector) (grammar startRule : String) (time : Timestamp) : JsonValue :=
  .record [
    ("grammar", .text grammar),
    ("start_rule", .text startRule),
    ("generated_at", .text (time.format "Z")),
    ("total", .number collector.count),
    ("failed", .number collector.countFailed),
    ("results", .list (collector.results.toList.map SourceResult.record))]

/-- The report in JSON. -/
def json (collector : Collector) (grammar startRule : String) (time : Timestamp) : String :=
  (record collector grammar startRule time).pretty

end Report

end Conformance

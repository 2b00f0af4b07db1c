import FieldRules.Command.Invocation
import FieldRules.Command.Job
import FieldRules.Report.Basic
import FieldRules.Yaml.Print

/-!
What commands write: messages for the reader, documents, and reports.

The human form of a report has a line for each record, behind a line for its row where the row is
another than that of the record before. Programs get all of a report in one document.
-/

namespace FieldRules.Command

/-- How a report is put into words. -/
structure ReportStyle where
  locale : String
  template : String
  /-- Joins the lines into one. -/
  join : Option String := none
  deriving DecidableEq, Repr

/-- The line above the records of a row. -/
def rowLine (rowId : Json) : String := rowId.bareText ++ ":"

/-- The line of a record. Records of rows stand further in. -/
def recordLine (inRow : Bool) (words : String) : String :=
  (if inRow then "    - " else "  - ") ++ words

/-- The record belongs to another row than the one that is current. -/
def opensRow (current : Option Json) (r : Record) : Bool :=
  r.rowId.any fun id => !current.any (·.sameValue id)

/-- The lines of records, where `current` is the row of the lines before them. -/
def recordLines (style : ReportStyle) (current : Option Json) : List Record → List String
  | [] => []
  | r :: rest =>
    let row := if opensRow current r then r.rowId else current
    (if opensRow current r then (r.rowId.map rowLine).toList else [])
      ++ ((r.render? style.locale style.template).map (recordLine row.isSome)).toList
      ++ recordLines style row rest

/-- The human form of a report. -/
def humanReport (style : ReportStyle) (report : Report) : String :=
  match style.join with
  | some join => (report.collapse? style.locale style.template (some join)).getD ""
  | none => "\n".intercalate (recordLines style none report.records.toList)

/-- The form of a report for programs. -/
def reportDocument (style : ReportStyle) (report : Report) : Json := .object [
  ("valid", .bool report.isEmpty),
  ("error_count", .ofCount report.size),
  ("errors", report.toJson),
  ("messages", .array ((report.render style.locale style.template).map .string))]

namespace OutputFormat

/-- The text of a document. People read indented JSON. -/
def text : OutputFormat → Json → String
  | .json => Json.compact
  | .yaml => Json.toYaml
  | .human | .jsonPretty => Json.pretty

/-- Ends a text with a line feed; YAML has one already. -/
def close : OutputFormat → String → String
  | .yaml, s => s
  | _, s => s ++ "\n"

end OutputFormat

/-- How a call writes. -/
structure OutputStyle where
  format : OutputFormat
  color : Bool
  quiet : Bool
  deriving DecidableEq, Repr

namespace OutputStyle

def blue (s : String) : String := "\x1b[34m" ++ s ++ "\x1b[0m"

def green (s : String) : String := "\x1b[32m" ++ s ++ "\x1b[0m"

def red (s : String) : String := "\x1b[31m" ++ s ++ "\x1b[0m"

/-- Says what is being done. Only people are told, unless they want it quiet. -/
def info (style : OutputStyle) (message : String) : Job Unit :=
  if style.quiet || style.format != .human then return ()
  else Job.print ((if style.color then blue "ℹ" ++ " " ++ message else "INFO: " ++ message) ++ "\n")

/-- Says that something has been done. Only people are told, unless they want it quiet. -/
def success (style : OutputStyle) (message : String) : Job Unit :=
  if style.quiet || style.format != .human then return ()
  else Job.print ((if style.color then green message else message) ++ "\n")

/-- Says what is wrong. People are told in any case. -/
def error (style : OutputStyle) (message : String) : Job Unit :=
  if style.format != .human then return ()
  else Job.print ((if style.color then red message else "ERROR: " ++ message) ++ "\n")

def document (style : OutputStyle) (v : Json) : Job Unit :=
  Job.print (style.format.close (style.format.text v))

/-- The text of a report. -/
def reportText (style : OutputStyle) (words : ReportStyle) (report : Report) : String :=
  style.format.close (match style.format with
    | .human => humanReport words report
    | format => format.text (reportDocument words report))

def report (style : OutputStyle) (words : ReportStyle) (report : Report) : Job Unit :=
  Job.print (style.reportText words report)

end OutputStyle

end FieldRules.Command

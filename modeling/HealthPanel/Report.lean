import HealthPanel.Health.Status
import HealthPanel.Time.Instant

/-!
# The report of a status panel

A report is what a panel shows: the state and its indicator, the details of a connected backend,
the time of the last check, and where the documentation is. It is written as lines of text or
as a document.
-/

namespace HealthPanel

/-- What a panel lists of a connected backend. -/
structure Details where
  version : Option String
  environment : Option String
  city : String
  deriving DecidableEq

/-- What a panel shows. -/
structure Report where
  state : String
  indicator : String
  details : Option Details
  checkedAt : Option Instant
  docsUrl : String
  deriving DecidableEq

/-- The city of a connected backend that reports none. -/
def Details.defaultCity : String := "Seattle"

/-- The details that a payload reports. -/
def Details.ofPayload (payload : Payload) : Details :=
  { version := payload.version
    environment := payload.environment
    city := payload.city.getD defaultCity }

namespace Report

/-- The report on a status, or on a check that has not ended yet. -/
def ofStatus (status : Option Status) (checkedAt : Option Instant) (docsUrl : String) : Report :=
  { state := status.elim "checking" Status.label
    indicator := status.elim Status.checkingIndicator Status.indicator
    details := (status.bind Status.payload?).map Details.ofPayload
    checkedAt := checkedAt
    docsUrl := docsUrl }

/-- The lines of a report. A connected backend always has all detail lines, blank where it
reports nothing. -/
def lines (report : Report) : List String :=
  ["API Status: " ++ report.indicator]
    ++ (match report.details with
      | none => []
      | some details =>
        ["Version: " ++ details.version.getD "", "Environment: " ++ details.environment.getD "",
          "City: " ++ details.city])
    ++ ["API Documentation: " ++ report.docsUrl]

/-- The report as text, its lines joined by line breaks. -/
def text (report : Report) : String :=
  "\n".intercalate report.lines

/-- A member that is left out where there is no text. -/
def ifPresent (key : String) (value : Option String) : List (String × Json.Value) :=
  (value.map fun text => (key, Json.Value.text text)).toList

/-- The report as a document. -/
def toJson (report : Report) : Json.Value :=
  .object (
    [("state", .text report.state), ("indicator", .text report.indicator)]
      ++ ifPresent "version" (report.details.bind Details.version)
      ++ ifPresent "environment" (report.details.bind Details.environment)
      ++ ifPresent "city" (report.details.map Details.city)
      ++ ifPresent "checked_at" (report.checkedAt.map Instant.timestamp)
      ++ [("docs_url", .text report.docsUrl)])

end Report

end HealthPanel

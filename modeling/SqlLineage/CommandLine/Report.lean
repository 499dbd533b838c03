/-
Module: SqlLineage.CommandLine.Report
Purpose: What the tool tells of each script: its outcome, and its graph as text.
Main exports: Report, reportsThrough, reportSources, failureCount
-/
import SqlLineage.CommandLine.Source
import SqlLineage.Flow.Render
import SqlLineage.Session.Basic

namespace SqlLineage.CommandLine

open Config (Configuration)
open SqlLineage.Flow (OutputFormat)
open Remote (Exchange)
open Session (FlowOutcome FlowSession)
open Text (paint)

/-- What is told of one script. -/
structure Report where
  /-- The name of the script. -/
  name : String
  outcome : FlowOutcome
  /-- The graph in the wanted format, empty if there is none. -/
  rendered : String
deriving Repr, Inhabited

namespace Report

/-- The report of a script with this outcome. -/
def ofOutcome (colours : Bool) (format : OutputFormat) (source : SqlSource)
    (outcome : FlowOutcome) : Report :=
  { name := source.name
    outcome
    rendered := (outcome.graph.map (·.render colours format)).getD "" }

def isSuccess (report : Report) : Bool := report.outcome.notification.isSuccess

/-- One line on the script; the tier that parsed it is told of a success only. -/
def line (colours : Bool) (report : Report) : String :=
  let message := report.outcome.notification.message
  let name := paint colours .bold report.name
  if report.isSuccess then
    name ++ " " ++ paint colours .green message ++ " (" ++ report.outcome.source.name ++ " parser)"
  else
    name ++ " " ++ paint colours .red message

end Report

/-- Submits scripts one after the other to a session. Each comes with what became of its request to the
remote service. A script that was overtaken has no report. -/
def reportsThrough (colours : Bool) (session : FlowSession) (format : OutputFormat)
    (sources : List (SqlSource × Exchange)) : List Report :=
  let (outcomes, _) := session.submitAll (sources.map fun (source, exchange) => (source.sql, exchange))
  (sources.zip outcomes).filterMap fun ((source, _), outcome) =>
    outcome.map (Report.ofOutcome colours format source)

/-- The reports on scripts that go through one session with these settings. -/
def reportSources (colours : Bool) (configuration : Configuration) (format : OutputFormat)
    (sources : List (SqlSource × Exchange)) : List Report :=
  reportsThrough colours (.ofConfiguration configuration) format sources

/-- The number of scripts without a graph. -/
def failureCount (reports : List Report) : Nat :=
  reports.countP fun report => !report.isSuccess

end SqlLineage.CommandLine

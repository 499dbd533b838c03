/-
Module: SqlLineage.Proofs.CommandLine.Reports
Purpose: Without a remote service the scripts of a run do not touch each other, although they go through one
  session: each has one report, and it is the report of a run with this script alone.
Main exports: reportsThrough_eq, Report.IsOf, areOf_reportsThrough, failureCount_reportsThrough,
  IsIndependent, isIndependent
-/
import Mathlib.Data.List.Forall2
import SqlLineage.CommandLine.Run
import SqlLineage.Proofs.Flow.WellFormed

namespace SqlLineage.CommandLine

open Config (Configuration)
open Lineage (ParsedScript parseScript)
open Remote (Exchange)
open Session (FlowOutcome FlowSession)
open SqlLineage.Flow (OutputFormat)

/-! ### Through any session -/

section Session

variable (colours : Bool) (session : FlowSession) (format : OutputFormat)

/-- No submission of a run is overtaken, and none leaves anything to the next one but a number and a graph,
which no outcome depends on. -/
theorem reportsThrough_eq (sources : List (SqlSource × Exchange)) :
    reportsThrough colours session format sources = sources.map fun entry =>
      .ofOutcome colours format entry.1 (session.outcome entry.2 entry.1.sql) := by
  simp only [reportsThrough, FlowSession.submitAll_fst, List.map_map]
  induction sources with
  | nil => rfl
  | cons entry rest ih =>
      rw [List.map_cons, List.map_cons, List.zip_cons_cons, List.filterMap_cons, ih]
      rfl

/-- Whether a report tells of a script what there is to tell of it if it is the only one. -/
structure Report.IsOf (source : SqlSource) (report : Report) : Prop where
  name : report.name = source.name
  /-- The session comes to the outcome when nothing went before, whatever a service would have said. -/
  outcome : ∀ exchange, (session.submit exchange source.sql).1 = some report.outcome
  rendered : report.rendered = (report.outcome.graph.map (·.render colours format)).getD ""
  /-- A run with this script alone gives the report and no other. -/
  alone : ∀ exchange, reportsThrough colours session format [(source, exchange)] = [report]

variable {session}

/-- Without a service the outcome of a script is that of its lineage. -/
theorem outcome_of_local (isLocal : session.resolver.asksRemote = false) (source : SqlSource)
    (exchange : Exchange) :
    session.outcome exchange source.sql =
      .ofResolution session.layout
        { script := session.resolver.parse source.sql, source := .localParser } := by
  rw [FlowSession.outcome, Remote.Resolver.resolve_of_local isLocal]
  rfl

theorem isOf_ofOutcome (isLocal : session.resolver.asksRemote = false) (source : SqlSource)
    (exchange : Exchange) :
    (Report.ofOutcome colours format source (session.outcome exchange source.sql)).IsOf colours session
      format source := by
  refine ⟨rfl, ?_, rfl, ?_⟩
  · intro other
    rw [FlowSession.submit_eq, outcome_of_local isLocal, outcome_of_local isLocal]
    rfl
  · intro other
    rw [reportsThrough_eq, List.map_singleton, outcome_of_local isLocal, outcome_of_local isLocal]

/-- There is one report for each script, in their order, and each is what it is on its own. -/
theorem areOf_reportsThrough (isLocal : session.resolver.asksRemote = false)
    (sources : List (SqlSource × Exchange)) :
    List.Forall₂ (fun entry report => report.IsOf colours session format entry.1) sources
      (reportsThrough colours session format sources) := by
  rw [reportsThrough_eq, List.forall₂_map_right_iff]
  apply List.forall₂_same.mpr
  intro entry _
  exact isOf_ofOutcome colours format isLocal entry.1 entry.2

/-- A script has a graph unless there are no queries in it: the layout of what is understood never fails. -/
theorem isSuccess_outcome (isLocal : session.resolver.asksRemote = false) (source : SqlSource)
    (exchange : Exchange) :
    (session.outcome exchange source.sql).notification.isSuccess =
      !(session.resolver.parse source.sql).queries.isEmpty := by
  obtain ⟨graph, laidOut, _⟩ := session.layout.exists_graph (session.resolver.parse source.sql)
  rw [outcome_of_local isLocal, FlowOutcome.isSuccess_ofResolution, FlowOutcome.ofResolution, laidOut,
    ParsedScript.isEmpty]
  cases (session.resolver.parse source.sql).queries.isEmpty <;> rfl

/-- The failures are the scripts in which the parser finds no queries. -/
theorem failureCount_reportsThrough (isLocal : session.resolver.asksRemote = false)
    (sources : List (SqlSource × Exchange)) :
    failureCount (reportsThrough colours session format sources) =
      sources.countP fun entry => (session.resolver.parse entry.1.sql).queries.isEmpty := by
  rw [failureCount, reportsThrough_eq, List.countP_map]
  apply List.countP_congr
  intro entry _
  rw [Function.comp, Report.isSuccess, Report.ofOutcome, isSuccess_outcome isLocal, Bool.not_not]

end Session

/-! ### Under a configuration -/

/-- The lineage of a script, as the local parser finds it. -/
def SqlSource.lineage (configuration : Configuration) (source : SqlSource) : ParsedScript :=
  parseScript (.ofName configuration.dialect) source.sql

section Configured

variable (colours : Bool) (configuration : Configuration) (format : OutputFormat)

/-- Whether scripts are processed independently under a configuration. -/
structure IsIndependent : Prop where
  /-- A run has one report for each of its scripts, in their order, and each is what it is on its own. -/
  reports : ∀ sources : List (SqlSource × Exchange),
    List.Forall₂ (fun entry report => report.IsOf colours (.ofConfiguration configuration) format entry.1)
      sources (reportSources colours configuration format sources)
  /-- A command that comes to the configuration counts as failures the scripts without queries, if its scripts
  can be read at all. -/
  failures : ∀ (surroundings : Surroundings) (command : ParseCommand),
    (Config.configurationAt surroundings.files command.config).map (withRemote command.remote) =
        .ok configuration →
      (reportsOf surroundings command).map failureCount =
        ((loadSources surroundings.files surroundings.stdin command.input).mapError RunError.source).map
          fun sources => sources.countP fun source => (source.lineage configuration).queries.isEmpty

variable {configuration}

theorem failureCount_reportsOf (isLocal : configuration.remote.enabled = false)
    {surroundings : Surroundings} {command : ParseCommand}
    (configured : (Config.configurationAt surroundings.files command.config).map
      (withRemote command.remote) = .ok configuration) :
    (reportsOf surroundings command).map failureCount =
      ((loadSources surroundings.files surroundings.stdin command.input).mapError RunError.source).map
        fun sources => sources.countP fun source => (source.lineage configuration).queries.isEmpty := by
  unfold reportsOf
  cases found : Config.configurationAt surroundings.files command.config with
  | error problem =>
      rw [found] at configured
      cases configured
  | ok read =>
      rw [found] at configured
      obtain rfl := Except.ok.inj configured
      cases loadSources surroundings.files surroundings.stdin command.input with
      | error problem => rfl
      | ok sources =>
          apply congrArg Except.ok
          rw [reportSources, failureCount_reportsThrough _ _ isLocal, exchanges, List.countP_map]
          rfl

/-- Without a remote service scripts are processed independently. -/
theorem isIndependent (isLocal : configuration.remote.enabled = false) :
    IsIndependent colours configuration format := by
  refine ⟨?_, fun _ _ => failureCount_reportsOf isLocal⟩
  intro sources
  exact areOf_reportsThrough colours format isLocal sources

end Configured

/-- Two scripts, the first of which says nothing. -/
def twoSources : List (SqlSource × Exchange) :=
  [({ name := "empty.sql", sql := "" }, .unanswered),
    ({ name := "load.sql", sql := "SELECT 1 FROM a" }, .unanswered)]

theorem isIndependent_twoSources :
    ({} : Configuration).remote.enabled = false ∧
      failureCount (reportSources false {} .dot twoSources) = 1 ∧ IsIndependent false {} .dot := by
  have isLocal : ({} : Configuration).remote.enabled = false := rfl
  refine ⟨isLocal, ?_, isIndependent false .dot isLocal⟩
  rw [reportSources, failureCount_reportsThrough _ _ isLocal]
  decide +kernel

end SqlLineage.CommandLine

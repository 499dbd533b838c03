/-
Module: SqlLineage.CommandLine.Run
Purpose: A run of the tool, from its arguments to what it prints. What surrounds the run is given: the
  files, the standard input, and what the remote service answers.
Main exports: Surroundings, RunResult, runCommand, run
-/
import SqlLineage.CommandLine.Arguments
import SqlLineage.CommandLine.Banner
import SqlLineage.CommandLine.Report

namespace SqlLineage.CommandLine

open Config (Configuration ConfigError FileView RemoteOptions)
open Remote (Exchange)

/-- What a run sees of the world. -/
structure Surroundings where
  files : FileView
  stdin : ByteArray
  /-- What becomes of a request that sends a script to the remote service. -/
  ask : RemoteOptions → String → Exchange
  /-- Whether the terminal shows colours. -/
  colours : Bool

/-- What a run comes to. -/
structure RunResult where
  code : Nat := 0
  output : String := ""
  /-- The lines on the error stream. -/
  messages : List String := []
  /-- The number of scripts that were processed, told after all else. -/
  processed : Option Nat := none
deriving Repr, Inhabited, DecidableEq

/-- Why no script is processed. -/
inductive RunError where
  | config (problem : ConfigError)
  | source (problem : SourceError)
deriving Repr, Inhabited, DecidableEq

def RunError.message : RunError → String
  | config problem => problem.message
  | source problem => problem.message

/-- A configuration with the service of this address asked first, if one is given. -/
def withRemote (remote : Option String) (configuration : Configuration) : Configuration :=
  match remote with
  | some endpoint =>
    { configuration with
      remote := { configuration.remote with enabled := true, endpoint } }
  | none => configuration

/-- The scripts with what became of their requests. -/
def exchanges (surroundings : Surroundings) (configuration : Configuration)
    (sources : List SqlSource) : List (SqlSource × Exchange) :=
  sources.map fun source => (source, surroundings.ask configuration.remote source.sql)

/-- The reports of a parse command. The configuration is read before the scripts. -/
def reportsOf (surroundings : Surroundings) (command : ParseCommand) :
    Except RunError (List Report) :=
  match Config.configurationAt surroundings.files command.config with
  | .error problem => .error (.config problem)
  | .ok configuration =>
    match loadSources surroundings.files surroundings.stdin command.input with
    | .error problem => .error (.source problem)
    | .ok sources =>
      let configuration := withRemote command.remote configuration
      .ok (reportSources surroundings.colours configuration command.format
        (exchanges surroundings configuration sources))

/-- What is printed of reports: the graphs on the output, a line on each script on the error stream. A
script without a graph makes the run a failure. -/
def RunResult.ofReports (colours : Bool) (reports : List Report) : RunResult :=
  { code := if failureCount reports = 0 then 0 else 1
    output := Flow.lines ((reports.map Report.rendered).filter fun text => !text.isEmpty)
    messages := reports.map (Report.line colours)
    processed := some reports.length }

/-- Carries out a command. -/
def runCommand (surroundings : Surroundings) : Command → RunResult
  | .parse command =>
    match reportsOf surroundings command with
    | .ok reports => .ofReports surroundings.colours reports
    | .error problem => { code := 1, messages := ["Error: " ++ problem.message] }
  | .legend => { output := legendText surroundings.colours }
  | .version => { output := versionText surroundings.colours }

/-- How the tool is called. -/
def usageText : String :=
  Flow.lines [
    toolName ++ " - SQL lineage to ETL flow graphs",
    "",
    "Usage: " ++ toolName ++ " [-v] parse (--file <PATH> | --sql <TEXT>) [--format text|json|dot]",
    "               [--remote <URL>] [--config <PATH>]",
    "       " ++ toolName ++ " [-v] legend",
    "       " ++ toolName ++ " [-v] version"]

/-- A run with these arguments. -/
def run (surroundings : Surroundings) (arguments : List String) : RunResult :=
  match readCommand arguments with
  | .ok command => runCommand surroundings command
  | .error .version => { output := versionLine }
  | .error .help => { output := usageText }
  | .error (.usage problem) => { code := 2, messages := ["error: " ++ problem.message] }

end SqlLineage.CommandLine

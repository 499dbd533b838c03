/-
Module: SqlLineage.Session.Outcome
Purpose: What an editor is told about a submitted script: a graph to draw, if there is one, and a
  notification in one line.
Main exports: Notification, FlowOutcome, FlowOutcome.ofResolution
-/
import SqlLineage.Flow.Layout
import SqlLineage.Remote.Resolution

namespace SqlLineage.Session

open SqlLineage.Flow (FlowGraph FlowLayout)
open Remote (ParseSource Resolution)

/-- One line for the user. -/
inductive Notification where
  | success (message : String)
  | failure (message : String)
deriving Repr, Inhabited, DecidableEq

namespace Notification

def isSuccess : Notification → Bool
  | success _ => true
  | failure _ => false

def message : Notification → String
  | success message => message
  | failure message => message

/-- Told of a script of which nothing was understood. -/
def unparsable : Notification :=
  .failure "Unable to parse the SQL statement, please check the syntax"

/-- Told if the layout fails. -/
def internalFault : Notification :=
  .failure "SQL parsing failed, please check that the statement is complete"

/-- Told with a new graph. -/
def parsed (cteCount tableCount : Nat) : Notification :=
  .success ("Parsed successfully: found " ++ toString cteCount ++ " CTE(s) and " ++
    toString tableCount ++ " table(s), ETL flow generated")

end Notification

/-- The outcome of a submission. -/
structure FlowOutcome where
  /-- The graph to draw; without one the drawing stays as it is. -/
  graph : Option FlowGraph
  notification : Notification
  source : ParseSource
  cteCount : Nat
  tableCount : Nat
deriving Repr, Inhabited

namespace FlowOutcome

/-- The outcome of a parse: a graph, unless nothing was understood. -/
def ofResolution (layout : FlowLayout) (resolution : Resolution) : FlowOutcome :=
  let script := resolution.script
  let outcome (graph : Option FlowGraph) (notification : Notification) : FlowOutcome :=
    { graph, notification
      source := resolution.source
      cteCount := script.cteCount
      tableCount := script.tableCount }
  if script.isEmpty then outcome none .unparsable
  else
    match layout.layout script with
    | .ok graph => outcome (some graph) (.parsed script.cteCount script.tableCount)
    | .error _ => outcome none .internalFault

/-- A graph comes with a success and nothing else does. -/
theorem isSuccess_ofResolution (layout : FlowLayout) (resolution : Resolution) :
    (ofResolution layout resolution).notification.isSuccess =
      (ofResolution layout resolution).graph.isSome := by
  unfold ofResolution
  by_cases empty : resolution.script.isEmpty
  · simp [empty, Notification.isSuccess, Notification.unparsable]
  · cases laidOut : layout.layout resolution.script <;>
      simp [empty, laidOut, Notification.isSuccess, Notification.internalFault,
        Notification.parsed]

end FlowOutcome

end SqlLineage.Session

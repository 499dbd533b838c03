/-
Module: SqlLineage.Session.Basic
Purpose: The session behind an editor. Scripts are submitted while others may still be on their way; only
  the newest submission is published, and the last good graph stays until there is a better one.
Main exports: FlowSession, FlowSession.ofConfiguration, FlowSession.start, FlowSession.finish,
  FlowSession.submit, FlowSession.submitAll
-/
import SqlLineage.Config.Basic
import SqlLineage.Session.Outcome

namespace SqlLineage.Session

open SqlLineage.Flow (FlowGraph FlowLayout)
open Remote (Exchange Resolver)

/-- A session. What never changes is how scripts are parsed and laid out. -/
structure FlowSession where
  resolver : Resolver
  layout : FlowLayout
  /-- The number of submissions that have started. -/
  generation : Nat := 0
  /-- The last graph that was published. -/
  latest : Option FlowGraph := none
deriving Inhabited

namespace FlowSession

/-- A new session with the settings of a configuration. -/
def ofConfiguration (configuration : Config.Configuration) : FlowSession :=
  { resolver := {
      dialect := .ofName configuration.dialect
      asksRemote := configuration.remote.enabled }
    layout := .ofOptions configuration.classification configuration.layout }

/-! ### The steps of a submission -/

/-- A submission starts: it gets the next ticket. -/
def start (session : FlowSession) : Nat × FlowSession :=
  (session.generation + 1, { session with generation := session.generation + 1 })

/-- What a script comes to, given what became of the request to the remote service. -/
def outcome (session : FlowSession) (exchange : Exchange) (sql : String) : FlowOutcome :=
  .ofResolution session.layout (session.resolver.resolve exchange sql)

/-- Whether no submission has started after the one with this ticket. -/
def isCurrent (session : FlowSession) (ticket : Nat) : Bool := session.generation == ticket

/-- Keeps the graph of an outcome, if it has one. -/
def publish (session : FlowSession) (outcome : FlowOutcome) : FlowSession :=
  { session with latest := outcome.graph.or session.latest }

/-- A submission ends: it is published if it is still the newest, and otherwise discarded. -/
def finish (session : FlowSession) (ticket : Nat) (outcome : FlowOutcome) :
    Option FlowOutcome × FlowSession :=
  if session.isCurrent ticket then (some outcome, session.publish outcome) else (none, session)

/-! ### Submissions one after the other -/

/-- A submission that runs to its end before the next one starts. -/
def submit (session : FlowSession) (exchange : Exchange) (sql : String) :
    Option FlowOutcome × FlowSession :=
  let (ticket, started) := session.start
  started.finish ticket (started.outcome exchange sql)

/-- Submits scripts one after the other, each with what became of its request. -/
def submitAll (session : FlowSession) :
    List (String × Exchange) → List (Option FlowOutcome) × FlowSession
  | [] => ([], session)
  | (sql, exchange) :: rest =>
    let (outcome, next) := session.submit exchange sql
    let (outcomes, last) := next.submitAll rest
    (outcome :: outcomes, last)

/-- A submission that nothing overtakes is published. -/
theorem submit_eq (session : FlowSession) (exchange : Exchange) (sql : String) :
    session.submit exchange sql =
      (some (session.outcome exchange sql),
        { session with
          generation := session.generation + 1
          latest := (session.outcome exchange sql).graph.or session.latest }) := by
  simp [submit, start, finish, isCurrent, publish, outcome]

/-- One after the other, each script gets the outcome that it has on its own. -/
theorem submitAll_fst (session : FlowSession) (submissions : List (String × Exchange)) :
    (session.submitAll submissions).1 =
      submissions.map fun submission => some (session.outcome submission.2 submission.1) := by
  induction submissions generalizing session with
  | nil => rfl
  | cons submission rest ih =>
    simp [submitAll, submit_eq, ih, outcome]

end FlowSession

end SqlLineage.Session

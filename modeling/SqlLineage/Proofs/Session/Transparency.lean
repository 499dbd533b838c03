/-
Module: SqlLineage.Proofs.Session.Transparency
Purpose: A remote service that fails or answers as the local tier would is not noticed: a session with it and one
  without it come to the same outcomes, but for the tier that they name, and keep the same graph.
Main exports: FlowOutcome.SameButSource, FlowSession.Agrees, FlowSession.IsTransparent, isTransparent
-/
import Mathlib.Data.List.Forall2
import SqlLineage.Proofs.Remote.Echo
import SqlLineage.Session.Basic

namespace SqlLineage.Session

open Config (Configuration)
open Lineage (ParsedScript parseScript)
open Remote (Exchange ParseSource)

/-! ### Outcomes -/

namespace FlowOutcome

/-- Whether two outcomes tell the user the same, whichever tier they come from. -/
structure SameButSource (outcome other : FlowOutcome) : Prop where
  graph : outcome.graph = other.graph
  notification : outcome.notification = other.notification
  cteCount : outcome.cteCount = other.cteCount
  tableCount : outcome.tableCount = other.tableCount

/-- The tier shows in nothing but its name. -/
theorem sameButSource_ofResolution (layout : Flow.FlowLayout) {resolution other : Remote.Resolution}
    (same : resolution.script = other.script) :
    SameButSource (ofResolution layout resolution) (ofResolution layout other) := by
  obtain ⟨script, source⟩ := resolution
  obtain ⟨otherScript, otherSource⟩ := other
  obtain rfl : script = otherScript := same
  unfold ofResolution
  simp only
  split
  · exact ⟨rfl, rfl, rfl, rfl⟩
  · split
    · exact ⟨rfl, rfl, rfl, rfl⟩
    · exact ⟨rfl, rfl, rfl, rfl⟩

@[simp] theorem source_ofResolution (layout : Flow.FlowLayout) (resolution : Remote.Resolution) :
    (ofResolution layout resolution).source = resolution.source := by
  unfold ofResolution
  simp only
  split
  · rfl
  · split <;> rfl

/-- Whether two submissions were both published, with outcomes that differ in their tier alone. -/
inductive PublishedAlike : Option FlowOutcome → Option FlowOutcome → Prop where
  | intro {outcome other : FlowOutcome} (same : outcome.SameButSource other) :
    PublishedAlike (some outcome) (some other)

end FlowOutcome

open FlowOutcome (PublishedAlike)

namespace FlowSession

/-- Whether two sessions parse locally, lay out and show the same. -/
structure Agrees (session other : FlowSession) : Prop where
  parse : session.resolver.parse = other.resolver.parse
  layout : session.layout = other.layout
  latest : session.latest = other.latest

/-- A request that fails or is answered as the local tier would. -/
def Serves (parse : String → ParsedScript) (submission : String × Exchange) : Prop :=
  submission.2.Fails ∨ submission.2.Echoes (parse submission.1)

section Submit

variable {session other : FlowSession}

/-- Where nothing is asked, or what is asked is answered as the local tier would, that one tells the outcome. -/
theorem sameButSource_outcome (agrees : session.Agrees other) (isLocal : other.resolver.asksRemote = false)
    {sql : String} {exchange : Exchange} (serves : Serves session.resolver.parse (sql, exchange))
    (otherExchange : Exchange) :
    (session.outcome exchange sql).SameButSource (other.outcome otherExchange sql) := by
  rw [outcome, outcome, agrees.layout]
  apply FlowOutcome.sameButSource_ofResolution
  rw [Remote.Resolver.script_resolve serves, Remote.Resolver.resolve_of_local isLocal, agrees.parse]
  rfl

/-- One submission to each leaves the sessions in agreement. -/
theorem agrees_submit (agrees : session.Agrees other) (isLocal : other.resolver.asksRemote = false)
    {sql : String} {exchange : Exchange} (serves : Serves session.resolver.parse (sql, exchange))
    (otherExchange : Exchange) :
    PublishedAlike (session.submit exchange sql).1 (other.submit otherExchange sql).1 ∧
      (session.submit exchange sql).2.Agrees (other.submit otherExchange sql).2 := by
  have same := sameButSource_outcome agrees isLocal serves otherExchange
  rw [submit_eq, submit_eq]
  refine ⟨.intro same, agrees.parse, agrees.layout, ?_⟩
  rw [same.graph, agrees.latest]

/-- A whole run leaves the sessions in agreement. -/
theorem agrees_submitAll (agrees : session.Agrees other) (isLocal : other.resolver.asksRemote = false)
    {submissions : List (String × Exchange)}
    (serve : ∀ submission ∈ submissions, Serves session.resolver.parse submission)
    (otherExchange : Exchange) :
    List.Forall₂ PublishedAlike (session.submitAll submissions).1
        (other.submitAll (submissions.map fun submission => (submission.1, otherExchange))).1 ∧
      (session.submitAll submissions).2.Agrees
        (other.submitAll (submissions.map fun submission => (submission.1, otherExchange))).2 := by
  induction submissions generalizing session other with
  | nil => exact ⟨.nil, agrees⟩
  | cons submission rest ih =>
      obtain ⟨sql, exchange⟩ := submission
      obtain ⟨published, next⟩ :=
        agrees_submit agrees isLocal (serve _ List.mem_cons_self) otherExchange
      have nextLocal : (other.submit otherExchange sql).2.resolver.asksRemote = false := by
        rw [submit_eq]
        exact isLocal
      have nextServe : ∀ submission ∈ rest,
          Serves (session.submit exchange sql).2.resolver.parse submission := by
        rw [submit_eq]
        exact fun submission listed => serve submission (List.mem_cons_of_mem _ listed)
      obtain ⟨later, last⟩ := ih next nextLocal nextServe
      exact ⟨.cons published later, last⟩

end Submit

/-! ### Transparency -/

/-- Whether a session goes through these submissions as another one that asks nobody. -/
structure IsTransparent (session other : FlowSession) (submissions : List (String × Exchange)) : Prop where
  outcomes : List.Forall₂ PublishedAlike (session.submitAll submissions).1
    (other.submitAll (submissions.map fun submission => (submission.1, .unanswered))).1
  latest : (session.submitAll submissions).2.latest =
    (other.submitAll (submissions.map fun submission => (submission.1, .unanswered))).2.latest
  /-- Where the service failed the outcome says so. -/
  source : ∀ (position : Nat) (sql : String) (exchange : Exchange) (outcome : FlowOutcome),
    submissions[position]? = some (sql, exchange) → exchange.Fails →
    (session.submitAll submissions).1[position]? = some (some outcome) → outcome.source = .localParser

/-- However the local tier parses, a remote service that fails or answers as that tier would is not noticed. -/
theorem isTransparent_of_agrees {session other : FlowSession} (agrees : session.Agrees other)
    (isLocal : other.resolver.asksRemote = false) {submissions : List (String × Exchange)}
    (serve : ∀ submission ∈ submissions, Serves session.resolver.parse submission) :
    IsTransparent session other submissions := by
  obtain ⟨outcomes, last⟩ := agrees_submitAll agrees isLocal serve .unanswered
  refine ⟨outcomes, last.latest, ?_⟩
  intro position sql exchange outcome located fails published
  rw [submitAll_fst, List.getElem?_map, located, Option.map_some, Option.some.injEq, Option.some.injEq]
    at published
  rw [← published, FlowSession.outcome, FlowOutcome.source_ofResolution]
  exact Remote.Resolver.source_resolve_of_fails fails

/-- The configuration without its remote service. -/
def withoutService (configuration : Configuration) : Configuration :=
  { configuration with remote := { configuration.remote with enabled := false } }

/-- A remote service that fails or answers as the local tier would is not noticed: a session with these settings
goes through the submissions as one without the service. -/
theorem isTransparent (configuration : Configuration) {submissions : List (String × Exchange)}
    (serve : ∀ submission ∈ submissions, Serves (parseScript (.ofName configuration.dialect)) submission) :
    IsTransparent (ofConfiguration configuration) (ofConfiguration (withoutService configuration))
      submissions := by
  have agrees : (ofConfiguration configuration).Agrees (ofConfiguration (withoutService configuration)) :=
    ⟨rfl, rfl, rfl⟩
  exact isTransparent_of_agrees agrees rfl serve

/-- The settings of a tool that asks a remote service. -/
def askingConfiguration : Configuration := { remote := { enabled := true } }

/-- A script whose first request is not answered, and whose second is answered with its lineage. -/
def echoedSubmissions : List (String × Exchange) :=
  [("SELECT 1 FROM a", .unanswered),
    ("SELECT 1 FROM a", .answered { body := (parseScript .generic "SELECT 1 FROM a").toJson.compact.toUTF8 })]

theorem serves_echoedSubmissions :
    ∀ submission ∈ echoedSubmissions,
      Serves (parseScript (.ofName askingConfiguration.dialect)) submission := by
  intro submission listed
  rcases List.mem_cons.mp listed with rfl | later
  · exact .inl .unanswered
  · obtain rfl := List.mem_singleton.mp later
    exact .inr (.written (by decide))

/-- The two submissions come from different tiers, and nothing else tells them from those without a service. -/
theorem isTransparent_echoedSubmissions :
    (((ofConfiguration askingConfiguration).submitAll echoedSubmissions).1.map
        fun outcome => outcome.map FlowOutcome.source) = [some .localParser, some .remoteService] ∧
      IsTransparent (ofConfiguration askingConfiguration)
        (ofConfiguration (withoutService askingConfiguration)) echoedSubmissions := by
  refine ⟨?_, isTransparent askingConfiguration serves_echoedSubmissions⟩
  have echoed : Exchange.script (.answered
      { body := (parseScript .generic "SELECT 1 FROM a").toJson.compact.toUTF8 }) =
        .ok (parseScript .generic "SELECT 1 FROM a") :=
    Exchange.Echoes.script_eq_ok (.written (by decide)) (by decide +kernel) (by decide +kernel)
  have unanswered : ∀ sql, ((ofConfiguration askingConfiguration).resolver.resolve .unanswered sql).source =
      .localParser := fun _ => Remote.Resolver.source_resolve_of_fails .unanswered
  have asks : (ofConfiguration askingConfiguration).resolver.asksRemote = true := rfl
  rw [submitAll_fst]
  simp only [echoedSubmissions, List.map_cons, List.map_nil, Option.map_some, FlowSession.outcome,
    FlowOutcome.source_ofResolution, unanswered, Remote.Resolver.source_resolve_of_ok asks echoed]

end FlowSession

end SqlLineage.Session

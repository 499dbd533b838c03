/-
Module: SqlLineage.Remote.Reply
Purpose: What a remote parse service answers, and when its answer counts. The service is sent the text of
  a script and answers with the document of a parsed script. An answer is used only if every relation
  in it has a name: all parts of the document have defaults, so one of another kind can be read as
  well, and then names are missing.
Main exports: Reply, Exchange, Gap, RemoteError, firstGap?, Reply.script, Exchange.script
-/
import SqlLineage.Json.Parser
import SqlLineage.Lineage.Document
import SqlLineage.Text.Blank
import SqlLineage.Text.Utf8

namespace SqlLineage.Remote

open Lineage (ParsedScript Query Cte JoinClause)

/-- The answer to one request. -/
structure Reply where
  status : Nat := 200
  body : ByteArray
deriving Inhabited

/-- What became of one request. -/
inductive Exchange where
  /-- There was no answer: the service could not be reached, broke off, or took too long. -/
  | unanswered
  | answered (reply : Reply)
deriving Inhabited

/-- A name that is missing in an answer. -/
inductive Gap where
  | unnamedCte (queryId : String)
  | unnamedTable (queryId : String)
  | unnamedJoinSide (queryId : String)
  | unnamedOutput (queryId : String)
deriving Repr, Inhabited, DecidableEq

def Gap.message : Gap → String
  | unnamedCte queryId => "CTE defined by query '" ++ queryId ++ "' has no name"
  | unnamedTable queryId => "query '" ++ queryId ++ "' reads an unnamed table"
  | unnamedJoinSide queryId => "query '" ++ queryId ++ "' has a join without both sides"
  | unnamedOutput queryId => "query '" ++ queryId ++ "' writes an unnamed relation"

/-- Why the service was of no use. -/
inductive RemoteError where
  | transport
  | status (code : Nat)
  /-- The body is not the document of a parsed script. -/
  | malformed
  /-- The service understood nothing of the script. -/
  | empty
  | incomplete (gap : Gap)
deriving Repr, Inhabited, DecidableEq

def RemoteError.message : RemoteError → String
  | transport => "remote parse request failed"
  | status code => "remote parser answered with status " ++ toString code
  | malformed => "remote parser returned malformed JSON"
  | empty => "remote parser recognized no queries"
  | incomplete gap => "remote answer is incomplete: " ++ gap.message

/-! ### Gaps -/

/-- Whether a join lacks the name of a side. -/
def lacksSide (join : JoinClause) : Bool :=
  Text.isBlankText join.left.name || Text.isBlankText join.right.name

/-- The first missing name of a query: its tables come before its joins, and those before what it
writes. -/
def queryGap? (query : Query) : Option Gap :=
  if query.tables.any fun table => Text.isBlankText table.name then some (.unnamedTable query.id)
  else if query.joins.any lacksSide then some (.unnamedJoinSide query.id)
  else if query.outputs.any Text.isBlankText then some (.unnamedOutput query.id)
  else none

/-- A common table expression without a name, told by the query that defines it. -/
def cteGap? (cte : Cte) : Option Gap :=
  if Text.isBlankText cte.name then some (.unnamedCte cte.definition.id) else none

/-- The first missing name of a parsed script. -/
def firstGap? (script : ParsedScript) : Option Gap :=
  (script.ctes.findSome? cteGap?).or (script.queries.findSome? queryGap?)

/-- A query has no gap exactly if each relation that it reads, joins or writes has a name. -/
theorem queryGap?_eq_none_iff (query : Query) :
    queryGap? query = none ↔
      (∀ table ∈ query.tables, Text.isBlankText table.name = false) ∧
      (∀ join ∈ query.joins, Text.isBlankText join.left.name = false ∧
        Text.isBlankText join.right.name = false) ∧
      ∀ output ∈ query.outputs, Text.isBlankText output = false := by
  unfold queryGap?
  split
  · next h => simp only [List.any_eq_true] at h; grind
  split
  · next h => simp only [List.any_eq_true, lacksSide, Bool.or_eq_true] at h; grind
  split
  · next h => simp only [List.any_eq_true] at h; grind
  · next h₁ h₂ h₃ =>
    simp only [List.any_eq_true, lacksSide, Bool.or_eq_true] at h₁ h₂ h₃
    grind

/-! ### Answers -/

/-- The parsed script that a reply holds. -/
def Reply.script (reply : Reply) : Except RemoteError ParsedScript :=
  if ¬ (200 ≤ reply.status ∧ reply.status < 300) then .error (.status reply.status)
  else
    match (Json.parse? (Text.decodeUtf8 reply.body)).bind ParsedScript.ofJson? with
    | none => .error .malformed
    | some script =>
      if script.isEmpty then .error .empty
      else
        match firstGap? script with
        | some gap => .error (.incomplete gap)
        | none => .ok script

/-- The parsed script that a request brought. -/
def Exchange.script : Exchange → Except RemoteError ParsedScript
  | unanswered => .error .transport
  | answered reply => reply.script

/-- A script that is accepted was understood in part and lacks no name. -/
theorem Reply.script_ok {reply : Reply} {script : ParsedScript} (h : reply.script = .ok script) :
    script.isEmpty = false ∧ firstGap? script = none := by
  unfold Reply.script at h
  split at h
  · cases h
  split at h
  · cases h
  split at h
  · cases h
  split at h
  · cases h
  next notEmpty _ noGap =>
    cases h
    exact ⟨by simpa using notEmpty, noGap⟩

end SqlLineage.Remote

/-
Module: SqlLineage.Proofs.Remote.Echo
Purpose: The kinds of failure of a request to the remote service, and the answers that echo the parse of the
  local tier. Either way the script is resolved to what the local tier makes of it.
Main exports: Exchange.Fails, Exchange.Echoes, Resolver.script_resolve
-/
import SqlLineage.Proofs.Json.RoundTrip
import SqlLineage.Proofs.Lineage.Document
import SqlLineage.Remote.Resolution

namespace SqlLineage

/-! ### Documents without numbers -/

namespace Json

theorem isNumberlessItems_map {α : Type} {write : α → Json}
    (numberless : ∀ value, (write value).isNumberless = true) (values : List α) :
    isNumberlessItems (values.map write) = true := by
  rw [isNumberlessItems_iff]
  intro item listed
  obtain ⟨value, _, rfl⟩ := List.mem_map.mp listed
  exact numberless value

theorem isNumberless_strings (items : List String) : (strings items).isNumberless = true :=
  isNumberlessItems_map (fun _ => rfl) items

end Json

namespace Lineage

open Json (isNumberless isNumberlessItems_map isNumberless_strings isNumberlessMembers)

theorem TableReference.isNumberless_toJson (table : TableReference) : table.toJson.isNumberless = true := by
  obtain ⟨name, qualifier, aliasName, isCte⟩ := table
  cases qualifier <;> cases aliasName <;> rfl

theorem JoinClause.isNumberless_toJson (join : JoinClause) : join.toJson.isNumberless = true := by
  obtain ⟨left, right, kind, condition⟩ := join
  simp only [toJson, isNumberless, isNumberlessMembers, TableReference.isNumberless_toJson]
  cases condition <;> rfl

theorem Field.isNumberless_toJson (field : Field) : field.toJson.isNumberless = true := by
  obtain ⟨expression, aliasName, transformation⟩ := field
  cases aliasName <;> rfl

theorem Filter.isNumberless_toJson (filter : Filter) : filter.toJson.isNumberless = true := rfl

theorem UnionInfo.isNumberless_toJson (info : UnionInfo) : info.toJson.isNumberless = true := by
  simp [toJson, isNumberless, isNumberlessMembers, isNumberless_strings]

theorem Query.isNumberless_toJson (query : Query) : query.toJson.isNumberless = true := by
  obtain ⟨_, _, tables, joins, _, _, _, _, _, fields, filters, _, _, _, unionInfo⟩ := query
  have tables := isNumberlessItems_map TableReference.isNumberless_toJson tables
  have joins := isNumberlessItems_map JoinClause.isNumberless_toJson joins
  have fields := isNumberlessItems_map Field.isNumberless_toJson fields
  have filters := isNumberlessItems_map Filter.isNumberless_toJson filters
  cases unionInfo <;>
    simp [toJson, optionalMember, isNumberless, isNumberlessMembers, isNumberless_strings,
      UnionInfo.isNumberless_toJson, tables, joins, fields, filters]

theorem Cte.isNumberless_toJson (cte : Cte) : cte.toJson.isNumberless = true := by
  simp [toJson, isNumberless, isNumberlessMembers, Query.isNumberless_toJson]

/-- The document of a script's lineage contains no number. -/
theorem ParsedScript.isNumberless_toJson (script : ParsedScript) : script.toJson.isNumberless = true := by
  simp [toJson, isNumberless, isNumberlessMembers, isNumberlessItems_map Cte.isNumberless_toJson,
    isNumberlessItems_map Query.isNumberless_toJson]

end Lineage

namespace Remote

open Lineage (ParsedScript parseScript)

/-! ### Answers -/

/-- Whether the service says that it could answer. -/
def Reply.IsSuccess (reply : Reply) : Prop := 200 ≤ reply.status ∧ reply.status < 300

/-- The lineage that the body of a reply holds, whatever it is worth. -/
def Reply.held? (reply : Reply) : Option ParsedScript :=
  (Json.parse? (Text.decodeUtf8 reply.body)).bind ParsedScript.ofJson?

/-- Whether a request failed: there was no answer, or one that says so, or one that is not the document of a
parsed script, or of a script of which nothing was understood, or of one with a gap. -/
inductive Exchange.Fails : Exchange → Prop where
  | unanswered : Fails .unanswered
  | refused {reply : Reply} (failure : ¬ reply.IsSuccess) : Fails (.answered reply)
  | malformed {reply : Reply} (undecodable : reply.held? = none) : Fails (.answered reply)
  | empty {reply : Reply} {script : ParsedScript} (holds : reply.held? = some script)
    (isEmpty : script.isEmpty = true) : Fails (.answered reply)
  | incomplete {reply : Reply} {script : ParsedScript} {gap : Gap} (holds : reply.held? = some script)
    (hasGap : firstGap? script = some gap) : Fails (.answered reply)

/-- Whether a request was answered with this lineage: with its document as it is written, or with another one
that may stand for it. -/
inductive Exchange.Echoes (script : ParsedScript) : Exchange → Prop where
  | written {status : Nat} (success : 200 ≤ status ∧ status < 300) :
    Echoes script (.answered { status, body := script.toJson.compact.toUTF8 })
  | respelled {reply : Reply} {document : Json} (success : reply.IsSuccess)
    (holds : Json.parse? (Text.decodeUtf8 reply.body) = some document)
    (stands : ParsedScript.Variant script.toJson document) : Echoes script (.answered reply)

section Reply

variable {reply : Reply} {script : ParsedScript}

theorem Reply.script_of_refused (failure : ¬ reply.IsSuccess) :
    reply.script = .error (.status reply.status) := by
  rw [IsSuccess] at failure
  rw [Reply.script, if_pos failure]

/-- The script of a successful reply depends on what the reply holds. -/
theorem Reply.script_of_success (success : reply.IsSuccess) :
    reply.script =
      match reply.held? with
      | none => .error .malformed
      | some script =>
        if script.isEmpty then .error .empty
        else match firstGap? script with
          | some gap => .error (.incomplete gap)
          | none => .ok script :=
  if_neg (not_not_intro success)

theorem Reply.script_of_malformed (success : reply.IsSuccess) (undecodable : reply.held? = none) :
    reply.script = .error .malformed := by
  have read := Reply.script_of_success success
  rwa [undecodable] at read

/-- What a reply holds counts if it is not empty and lacks no name. -/
theorem Reply.script_of_held? (success : reply.IsSuccess) (holds : reply.held? = some script) :
    reply.script =
      if script.isEmpty then .error .empty
      else match firstGap? script with
        | some gap => .error (.incomplete gap)
        | none => .ok script := by
  have read := Reply.script_of_success success
  rwa [holds] at read

/-- What a reply holds counts, or the request failed. -/
theorem Reply.script_cases_of_held? (success : reply.IsSuccess) (holds : reply.held? = some script) :
    reply.script = .ok script ∨ (Exchange.answered reply).Fails := by
  rw [Reply.script_of_held? success holds]
  split
  · next isEmpty => exact .inr (.empty holds isEmpty)
  · split
    · next gap hasGap => exact .inr (.incomplete holds hasGap)
    · exact .inl rfl

end Reply

theorem Exchange.Fails.exists_error {exchange : Exchange} (fails : exchange.Fails) :
    ∃ problem, exchange.script = .error problem := by
  cases fails with
  | unanswered => exact ⟨.transport, rfl⟩
  | refused failure => exact ⟨_, Reply.script_of_refused failure⟩
  | @malformed reply undecodable =>
      by_cases success : reply.IsSuccess
      · exact ⟨_, Reply.script_of_malformed success undecodable⟩
      · exact ⟨_, Reply.script_of_refused success⟩
  | @empty reply script holds isEmpty =>
      by_cases success : reply.IsSuccess
      · exact ⟨.empty, by rw [Exchange.script, Reply.script_of_held? success holds, if_pos isEmpty]⟩
      · exact ⟨_, Reply.script_of_refused success⟩
  | @incomplete reply script gap holds hasGap =>
      by_cases success : reply.IsSuccess
      · rw [Exchange.script, Reply.script_of_held? success holds, hasGap]
        split
        · exact ⟨_, rfl⟩
        · exact ⟨_, rfl⟩
      · exact ⟨_, Reply.script_of_refused success⟩

section Echo

variable {script : ParsedScript} {exchange : Exchange} (echoes : exchange.Echoes script)

include echoes

/-- The body of an echo holds the lineage. -/
theorem Exchange.Echoes.exists_reply :
    ∃ reply, exchange = .answered reply ∧ reply.IsSuccess ∧ reply.held? = some script := by
  cases echoes with
  | @written status success =>
      refine ⟨_, rfl, success, ?_⟩
      rw [Reply.held?, Text.decodeUtf8_toUTF8, Json.parse?_compact script.isNumberless_toJson,
        Option.bind_some, ParsedScript.restores.read_write]
  | @respelled reply document success holds stands =>
      refine ⟨reply, rfl, success, ?_⟩
      rw [Reply.held?, holds, Option.bind_some, ParsedScript.restores.reads script _ stands]

/-- An echo counts, or it is no better than a failure. -/
theorem Exchange.Echoes.script_cases : exchange.script = .ok script ∨ exchange.Fails := by
  obtain ⟨reply, rfl, success, holds⟩ := echoes.exists_reply
  exact Reply.script_cases_of_held? success holds

/-- An echo counts if something was understood and no name is missing. -/
theorem Exchange.Echoes.script_eq_ok (notEmpty : script.isEmpty = false) (noGap : firstGap? script = none) :
    exchange.script = .ok script := by
  obtain ⟨reply, rfl, success, holds⟩ := echoes.exists_reply
  rw [Exchange.script, Reply.script_of_held? success holds, notEmpty, noGap]
  rfl

end Echo

/-! ### Resolution -/

namespace Resolver

variable {resolver : Resolver} {exchange : Exchange} {sql : String}

theorem source_resolve_of_fails (fails : exchange.Fails) :
    (resolver.resolve exchange sql).source = .localParser := by
  obtain ⟨problem, failed⟩ := fails.exists_error
  rw [resolve_of_error failed]
  rfl

/-- A script that the service returned is said to be from there. -/
theorem source_resolve_of_ok (asks : resolver.asksRemote = true) {script : ParsedScript}
    (ok : exchange.script = .ok script) : (resolver.resolve exchange sql).source = .remoteService := by
  rw [resolve, if_pos asks, ok]

/-- A script is resolved to what the local tier makes of it if the request fails or is answered with that. -/
theorem script_resolve (serves : exchange.Fails ∨ exchange.Echoes (resolver.parse sql)) :
    (resolver.resolve exchange sql).script = resolver.parse sql := by
  have ofFails : exchange.Fails → (resolver.resolve exchange sql).script = resolver.parse sql := by
    intro fails
    obtain ⟨problem, failed⟩ := fails.exists_error
    rw [resolve_of_error failed]
    rfl
  rcases serves with fails | echoes
  · exact ofFails fails
  · rcases echoes.script_cases with ok | fails
    · rw [resolve, ok]
      split
      · rfl
      · rfl
    · exact ofFails fails

end Resolver

end Remote

end SqlLineage

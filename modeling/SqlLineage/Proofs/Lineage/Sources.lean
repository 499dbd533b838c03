/-
Module: SqlLineage.Proofs.Lineage.Sources
Purpose: The queries of a script with the statements that they come from. The statements follow one
  another, and two queries are of one statement exactly if as many statements end before them.
Main exports: sourcedQueries, map_unmarked_sourcedQueries, sourceStatements_le, sourceStatements_eq_iff
-/
import SqlLineage.Proofs.Lineage.Script

namespace SqlLineage.Lineage

section

variable (read : String → Option Sql.Query) (escapes : Script.QuoteEscapes) (script : String)

/-- The queries of a script, each with the index of the statement that it comes from. -/
def sourcedQueries : List (Nat × Query) :=
  (sourceStatements read escapes script).zip (parseWith read escapes script).queries

/-- What is known of a query of a script but for the mark of a main one is known from its statement. -/
theorem map_unmarked_sourcedQueries :
    (sourcedQueries read escapes script).map (fun sourced => (sourced.1, sourced.2.unmarked)) =
      (contributions read escapes script).flatMap fun contribution =>
        contribution.2.queries.map fun query => (contribution.1, query.unmarked) := by
  have zipped : ∀ blocks : List (Nat × StatementLineage),
      (blocks.flatMap fun block => block.2.queries.map fun _ => block.1).zip
          ((blocks.flatMap fun block => block.2.queries).map Query.unmarked) =
        blocks.flatMap fun block => block.2.queries.map fun query => (block.1, query.unmarked) := by
    intro blocks
    induction blocks with
    | nil => rfl
    | cons block rest ih =>
        rw [List.flatMap_cons, List.flatMap_cons, List.flatMap_cons, List.map_append,
          List.zip_append (by simp), ih, List.zip_map', ]
  rw [← zipped, ← map_unmarked_queries, ← sourceStatements, List.zip_map_right, sourcedQueries]
  rfl

end

variable {read : String → Option Sql.Query} {escapes : Script.QuoteEscapes} {script : String}

theorem getElem?_sourcedQueries {position source : Nat} {query : Query} :
    (sourcedQueries read escapes script)[position]? = some (source, query) ↔
      (sourceStatements read escapes script)[position]? = some source ∧
        (parseWith read escapes script).queries[position]? = some query := by
  rw [sourcedQueries, List.getElem?_zip_eq_some]

theorem map_snd_sourcedQueries :
    (sourcedQueries read escapes script).map Prod.snd = (parseWith read escapes script).queries :=
  List.map_snd_zip (Nat.le_of_eq length_sourceStatements.symm)

/-- Each query of a script comes from a statement. -/
theorem exists_getElem?_sourcedQueries {position : Nat} {query : Query}
    (located : (parseWith read escapes script).queries[position]? = some query) :
    ∃ source, (sourcedQueries read escapes script)[position]? = some (source, query) := by
  rw [← map_snd_sourcedQueries, List.getElem?_map] at located
  obtain ⟨⟨source, _⟩, sourced, rfl⟩ := Option.map_eq_some_iff.mp located
  exact ⟨source, sourced⟩

/-- A query of a script is one of those that its statement contributes. -/
theorem exists_contribution {source : Nat} {query : Query}
    (sourced : (source, query) ∈ sourcedQueries read escapes script) :
    ∃ lineage, (source, lineage) ∈ contributions read escapes script ∧
      ∃ collected ∈ lineage.queries, collected.unmarked = query.unmarked := by
  have listed := List.mem_map_of_mem (f := fun sourced => (sourced.1, sourced.2.unmarked)) sourced
  rw [map_unmarked_sourcedQueries, List.mem_flatMap] at listed
  obtain ⟨⟨index, lineage⟩, isContribution, inBlock⟩ := listed
  obtain ⟨collected, member, same⟩ := List.mem_map.mp inBlock
  cases congrArg Prod.fst same
  exact ⟨lineage, isContribution, collected, member, congrArg Prod.snd same⟩

/-- What a statement contributes is among the queries of the script. -/
theorem exists_sourced {source : Nat} {lineage : StatementLineage} {collected : Query}
    (isContribution : (source, lineage) ∈ contributions read escapes script)
    (member : collected ∈ lineage.queries) :
    ∃ query, (source, query) ∈ sourcedQueries read escapes script ∧
      query.unmarked = collected.unmarked := by
  have listed : (source, collected.unmarked) ∈ (sourcedQueries read escapes script).map
      fun sourced => (sourced.1, sourced.2.unmarked) := by
    rw [map_unmarked_sourcedQueries, List.mem_flatMap]
    exact ⟨_, isContribution, List.mem_map.mpr ⟨collected, member, rfl⟩⟩
  obtain ⟨⟨index, query⟩, isSourced, same⟩ := List.mem_map.mp listed
  cases congrArg Prod.fst same
  exact ⟨query, isSourced, congrArg Prod.snd same⟩

variable (read escapes script) in
/-- The indices of the statements that contribute grow. -/
theorem pairwise_contributions :
    ((contributions read escapes script).map Prod.fst).Pairwise (· < ·) :=
  List.pairwise_lt_range.sublist sublist_contributions

/-- The queries of a script come statement by statement. -/
theorem pairwise_sourceStatements : (sourceStatements read escapes script).Pairwise (· ≤ ·) := by
  rw [sourceStatements, List.pairwise_flatMap]
  refine ⟨?_, ?_⟩
  · intro contribution _
    rw [List.pairwise_map]
    exact List.pairwise_of_forall (fun _ _ => Nat.le_refl _)
  · have growing := List.pairwise_map.mp (pairwise_contributions read escapes script)
    apply growing.imp
    intro earlier later lower source sourceListed other otherListed
    obtain ⟨_, _, rfl⟩ := List.mem_map.mp sourceListed
    obtain ⟨_, _, rfl⟩ := List.mem_map.mp otherListed
    exact Nat.le_of_lt lower

theorem sourceStatements_le {position other source another : Nat} (le : position ≤ other)
    (located : (sourceStatements read escapes script)[position]? = some source)
    (otherLocated : (sourceStatements read escapes script)[other]? = some another) :
    source ≤ another := by
  obtain ⟨bound, rfl⟩ := List.getElem?_eq_some_iff.mp located
  obtain ⟨otherBound, rfl⟩ := List.getElem?_eq_some_iff.mp otherLocated
  rcases Nat.lt_or_eq_of_le le with lower | rfl
  · exact List.pairwise_iff_getElem.mp pairwise_sourceStatements position other bound otherBound lower
  · exact Nat.le_refl _

theorem mem_contributions_of_mem_sourceStatements {source : Nat}
    (listed : source ∈ sourceStatements read escapes script) :
    source ∈ (contributions read escapes script).map Prod.fst := by
  obtain ⟨contribution, member, inBlock⟩ := List.mem_flatMap.mp listed
  obtain ⟨_, _, rfl⟩ := List.mem_map.mp inBlock
  exact List.mem_map_of_mem member

/-- Two queries come from one statement exactly if before them there are as many statements' own
queries. -/
theorem sourceStatements_eq_iff {position other source another : Nat}
    (located : (sourceStatements read escapes script)[position]? = some source)
    (otherLocated : (sourceStatements read escapes script)[other]? = some another) :
    ((parseWith read escapes script).queries.take position).countP Query.isStatementLevel =
      ((parseWith read escapes script).queries.take other).countP Query.isStatementLevel ↔
      source = another := by
  rw [countP_take_queries located, countP_take_queries otherLocated]
  exact List.idxOf_inj (mem_contributions_of_mem_sourceStatements (List.mem_of_getElem? located))

end SqlLineage.Lineage

/-
Module: SqlLineage.Proofs.Remote.AcceptedReply
Purpose: What an answer that is accepted is worth to the layout. Relations that are read or written have
  names then, but ids of queries and names of the common table expressions that they define need not be
  there; so joins can share their nodes, and nodes can lack their names.
Main exports: ShowsScript, Reply.exists_graph_of_accepted
-/
import SqlLineage.Proofs.Flow.JoinNodes
import SqlLineage.Proofs.Flow.NodeNames
import SqlLineage.Remote.Reply

namespace SqlLineage.Remote

open SqlLineage.Flow (FlowLayout FlowGraph FlowNode LayoutOptions ClassificationOptions NamesResults Placing
  joinIds joiningIds)
open Lineage (ParsedScript Query)

/-- What the graph of a script shows of it if all that is read and written has a name. -/
structure ShowsScript (options : LayoutOptions) (script : ParsedScript) (graph : FlowGraph) : Prop where
  /-- The nodes for joins are those of the joins of the script. -/
  joins : ∀ id, id ∈ (graph.nodesWithRole .join).map FlowNode.id ↔ id ∈ joinIds script
  /-- Each join has a node of its own exactly if no two queries with joins share an id. -/
  apart : (graph.nodesWithRole .join).length = (script.queries.flatMap Query.joins).length ↔
    (joiningIds script).Nodup
  /-- All nodes have names exactly if what the queries produce has names. -/
  named : (∀ node ∈ graph.nodes, ¬ node.IsUnnamed) ↔ NamesResults options script

section Accepted

variable {reply : Reply} {script : ParsedScript} (accepted : reply.script = .ok script)

include accepted

theorem queryGap?_of_accepted {query : Query} (member : query ∈ script.queries) :
    queryGap? query = none := by
  obtain ⟨_, noGap⟩ := Reply.script_ok accepted
  rw [firstGap?, Option.or_eq_none_iff] at noGap
  exact List.findSome?_eq_none_iff.mp noGap.2 query member

/-- What the queries of an accepted answer read has names. -/
theorem named_references_of_accepted : ∀ query ∈ script.queries, ∀ table ∈ query.references,
    Text.isBlankText table.name = false := by
  intro query member table isReference
  obtain ⟨tables, joins, _⟩ := (queryGap?_eq_none_iff query).mp (queryGap?_of_accepted accepted member)
  rcases Query.mem_references_iff.mp isReference with isTable | ⟨join, joined, rfl | rfl⟩
  · exact tables table isTable
  · exact (joins join joined).1
  · exact (joins join joined).2

theorem named_outputs_of_accepted : ∀ query ∈ script.queries, ∀ output ∈ query.outputs,
    Text.isBlankText output = false := by
  intro query member
  exact ((queryGap?_eq_none_iff query).mp (queryGap?_of_accepted accepted member)).2.2

theorem showsScript_of_accepted {classification : ClassificationOptions} {options : LayoutOptions}
    {layers : List (List Nat)} {graph : FlowGraph}
    (placed : Placing options ((FlowLayout.ofOptions classification options).draft script) layers graph) :
    ShowsScript options script graph := by
  let layout := FlowLayout.ofOptions classification options
  have lawful : layout.classifier.Lawful := Flow.Classifier.lawful_ofOptions classification
  have placing : Placing layout.options (layout.draft script) layers graph := placed
  constructor
  · intro id
    exact placing.mem_nodesWithRole_join_iff lawful
  · exact placing.length_nodesWithRole_join_iff lawful
  · exact placing.named_iff (named_references_of_accepted accepted) (named_outputs_of_accepted accepted)

/-- An accepted answer is laid out by the built-in rules. Its joins have nodes of their own exactly if the
queries with joins have ids of their own, and all nodes have names exactly if what the queries produce has
names. -/
theorem Reply.exists_graph_of_accepted (classification : ClassificationOptions) (options : LayoutOptions) :
    ∃ graph, (FlowLayout.ofOptions classification options).layout script = .ok graph ∧
      ShowsScript options script graph := by
  obtain ⟨graph, layers, placed, placing⟩ := Flow.exists_placing options
    ((FlowLayout.ofOptions classification options).wellFormed_draft script)
  exact ⟨graph, placed, showsScript_of_accepted accepted placing⟩

end Accepted

/-! ### An answer without ids and names -/

/-- An answer with two joins of queries without ids, and with a common table expression without a name. -/
def anonymousReply : Reply where
  body := ("\x7b\"allQueries\":[\x7b\"joins\":[\x7b\"left\":\x7b\"name\":\"a\"\x7d,\"right\":" ++
    "\x7b\"name\":\"b\"\x7d\x7d]\x7d,\x7b\"joins\":[\x7b\"left\":\x7b\"name\":\"c\"\x7d,\"right\":" ++
    "\x7b\"name\":\"d\"\x7d\x7d]\x7d,\x7b\"isCTE\":true\x7d]\x7d").toUTF8

/-- What the answer holds. -/
def anonymousScript : ParsedScript where
  queries := [
    { joins := [{ left := { name := "a" }, right := { name := "b" } }] },
    { joins := [{ left := { name := "c" }, right := { name := "d" } }] },
    { isCte := true }]

theorem script_anonymousReply : anonymousReply.script = .ok anonymousScript := by
  decide +kernel

theorem exists_graph_anonymousReply : anonymousReply.script = .ok anonymousScript ∧
    ∃ graph, (FlowLayout.ofOptions {} {}).layout anonymousScript = .ok graph ∧
      ShowsScript {} anonymousScript graph :=
  ⟨script_anonymousReply, Reply.exists_graph_of_accepted script_anonymousReply {} {}⟩

/-- The answer is accepted, but its two joins share a node, and the one of the common table expression has
no name. -/
theorem anonymousReply_lacks_nodes : anonymousReply.script = .ok anonymousScript ∧
    ∃ graph, (FlowLayout.ofOptions {} {}).layout anonymousScript = .ok graph ∧
      (graph.nodesWithRole .join).length ≠ (anonymousScript.queries.flatMap Query.joins).length ∧
      ∃ node ∈ graph.nodes, node.IsUnnamed := by
  obtain ⟨graph, layers, placed, placing⟩ := Flow.exists_placing {}
    ((FlowLayout.ofOptions {} {}).wellFormed_draft anonymousScript)
  have shows := showsScript_of_accepted script_anonymousReply placing
  refine ⟨script_anonymousReply, graph, placed, ?_, ?_⟩
  · rw [ne_eq, shows.apart]
    decide
  · by_contra noneUnnamed
    have names := shows.named.mp fun node member unnamed => noneUnnamed ⟨node, member, unnamed⟩
    have named := names.declared { isCte := true } (by decide) rfl
    exact absurd named (by decide)

end SqlLineage.Remote

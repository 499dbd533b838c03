/-
Module: SqlLineage.Proofs.Flow.Producers
Purpose: In the graph of a script, what a query produces and what another one reads of it have one node,
  whichever of them comes first, and relations that are written are linked to where they are read.
Main exports: Refers, ProducersMeet, FlowLayout.producers_meet
-/
import SqlLineage.Proofs.Flow.Links
import SqlLineage.Proofs.Flow.Scopes
import SqlLineage.Proofs.Lineage.Script

namespace SqlLineage

namespace Flow

open Lineage (Query TableReference ParsedScript)

/-- The query at this position has the reference, among its tables or in a join. -/
def Refers (script : ParsedScript) (position : Nat) (table : TableReference) : Prop :=
  ∃ reader, script.queries[position]? = some reader ∧ table ∈ reader.references

/-- What queries produce has the nodes that references to it denote. The list says which source statement
each query comes from. -/
structure ProducersMeet (layout : FlowLayout) (script : ParsedScript) (sources : List Nat)
    (graph : FlowGraph) : Prop where
  /-- Every reference denotes a node of the graph. -/
  present : ∀ position table, Refers script position table →
    layout.referent script position table ∈ graph.nodes.map FlowNode.id
  /-- A subquery has the node that each reference to its id denotes. -/
  subquery : ∀ (position : Nat) (producer : Query) (other : Nat) (table : TableReference),
    script.queries[position]? = some producer → Refers script other table →
      producer.isSubQuery = true → table.isCte = false → table.key = Text.lowercase producer.id →
        layout.targets script position producer = [layout.referent script other table]
  /-- A common table expression has the node that each marked reference to its name denotes in its own
  source statement. -/
  cte : ∀ (position : Nat) (producer : Query) (other : Nat) (table : TableReference),
    script.queries[position]? = some producer → Refers script other table →
      producer.isCte = true → sources[position]? = sources[other]? → table.isCte = true →
        table.key = Text.lowercase producer.name →
          layout.targets script position producer = [layout.referent script other table]
  /-- A written relation has a node of its own, which is linked to the node that each reference to its
  name denotes. -/
  written : ∀ (position : Nat) (producer : Query) (other : Nat) (table : TableReference),
    script.queries[position]? = some producer → Refers script other table →
      ∀ output ∈ producer.outputs, table.isCte = false → table.key = Text.lowercase output →
        nodeId .output output ∈ layout.targets script position producer ∧
          graph.Leads (nodeId .output output) (layout.referent script other table)

section Script

variable {layout : FlowLayout} {script : ParsedScript}
  (collected : ∀ query ∈ script.queries, query.IsCollected)

include collected

theorem Refers.exists_mem_tables {position : Nat} {table : TableReference}
    (refers : Refers script position table) :
    ∃ reader, script.queries[position]? = some reader ∧ table ∈ reader.tables := by
  obtain ⟨reader, located, isReference⟩ := refers
  exact ⟨reader, located,
    (collected reader (List.mem_of_getElem? located)).joins.mem_tables isReference⟩

theorem Refers.profiled {position : Nat} {table : TableReference}
    (refers : Refers script position table) :
    (layout.relations script).scopes.keyFor position table ∈
      (layout.relations script).profiles.map (·.1) := by
  obtain ⟨reader, located, listed⟩ := refers.exists_mem_tables collected
  exact Relations.mem_keys_of_mem_tables located listed

/-- A query that writes something produces a node for it, because it is a statement's own one. -/
theorem mem_targets_of_mem_outputs {position : Nat} {producer : Query} {output : String}
    (located : script.queries[position]? = some producer) (isOutput : output ∈ producer.outputs) :
    nodeId .output output ∈ layout.targets script position producer := by
  have level : producer.isStatementLevel = true := by
    rcases (collected producer (List.mem_of_getElem? located)).place with inner | level
    · rw [inner.silent] at isOutput
      cases isOutput
    · exact level
  simp only [Query.isStatementLevel, Bool.and_eq_true, Bool.not_eq_true'] at level
  have writes : producer.outputs.isEmpty = false :=
    List.isEmpty_eq_false_iff.mpr (List.ne_nil_of_mem isOutput)
  simp only [FlowLayout.targets, targetIds, targetNodes, level, writes, Bool.false_eq_true, if_false,
    List.map_map, List.mem_map]
  exact ⟨output, isOutput, rfl⟩

section Lawful

variable (lawful : layout.classifier.Lawful)

include lawful

/-- No rule takes the role of a derived table from the relation that a subquery stands for. -/
theorem targets_of_subquery {position other : Nat} {producer : Query} {table : TableReference}
    (located : script.queries[position]? = some producer) (refers : Refers script other table)
    (isSubQuery : producer.isSubQuery = true) (plain : table.isCte = false)
    (named : table.key = Text.lowercase producer.id) :
    layout.targets script position producer = [layout.referent script other table] := by
  have notCte : producer.isCte = false := by
    rcases (collected producer (List.mem_of_getElem? located)).place with inner | level
    · rw [inner.kind, isSubQuery]
      rfl
    · simp [Query.isStatementLevel, isSubQuery] at level
  have found : (subqueryOf? script table.key).isSome = true := by
    rw [subqueryOf?, List.find?_isSome]
    exact ⟨producer, List.mem_of_getElem? located, by simp [isSubQuery, named]⟩
  have profiled : .table table.key ∈ (layout.relations script).profiles.map (·.1) := by
    rw [← CteScopes.keyFor_of_not_isCte (layout.relations script).scopes other plain]
    exact refers.profiled collected
  have role : (layout.relations script).role (.table table.key) = .tempTable :=
    Relations.role_subquery lawful profiled found
  rw [referent_of_not_isCte plain, role, named, nodeId_lowercase]
  simp [FlowLayout.targets, targetIds, targetNodes, notCte, isSubQuery, targetNode]

/-- The name that a declaration got is the one that marked references in its statement resolve to. -/
theorem targets_of_cte {position other : Nat} {producer : Query} {table : TableReference}
    (located : script.queries[position]? = some producer) (refers : Refers script other table)
    (isCte : producer.isCte = true)
    (sameStatement : CteScopes.statementsBefore script.queries position =
      CteScopes.statementsBefore script.queries other)
    (marked : table.isCte = true) (named : table.key = Text.lowercase producer.name) :
    layout.targets script position producer = [layout.referent script other table] := by
  have key : (layout.relations script).scopes.keyFor other table =
      .cte ((layout.relations script).scopes.declaration position producer) := by
    obtain ⟨reader, readerLocated, _⟩ := refers
    exact CteScopes.keyFor_of_declared located isCte readerLocated sameStatement marked named
  have role : (layout.relations script).role
      (.cte ((layout.relations script).scopes.declaration position producer)) = .cte := by
    rw [← key]
    apply Relations.role_cte lawful (refers.profiled collected)
    rw [CteScopes.keyFor_isCte, marked]
  have node : layout.referent script other table =
      nodeId .cte ((layout.relations script).scopes.declaration position producer) := by
    rw [FlowLayout.referent, Relations.nodeOf, key, Relations.node, role]
    rfl
  rw [node]
  simp [FlowLayout.targets, targetIds, targetNodes, isCte, targetNode]

variable {graph : FlowGraph} {layers : List (List Nat)}
  (placing : Placing layout.options (layout.draft script) layers graph)

include placing

/-- What a query writes is linked to wherever it is read. -/
theorem leads_of_mem_outputs {position other : Nat} {producer : Query} {table : TableReference}
    {output : String} (located : script.queries[position]? = some producer)
    (refers : Refers script other table) (isOutput : output ∈ producer.outputs)
    (plain : table.isCte = false) (named : table.key = Text.lowercase output) :
    graph.Leads (nodeId .output output) (layout.referent script other table) := by
  obtain ⟨reader, readerLocated, listed⟩ := refers.exists_mem_tables collected
  have present : (layout.draft script).hasNode (nodeId .output output) = true := by
    have isTarget : nodeId .output output ∈ layout.targets script position producer :=
      mem_targets_of_mem_outputs collected located isOutput
    exact FlowLayout.hasNode_draft_iff.mpr ⟨position, producer, located, bringsIn_target isTarget⟩
  have proper : nodeId .output output ≠ layout.referent script other table := by
    intro same
    exact role_ne lawful rfl script _ (nodeId_inj.mp same).1.symm
  have linked := (exists_linked_iff present).mpr
    ⟨producer, List.mem_of_getElem? located, output, isOutput, other, reader, readerLocated, table,
      listed, plain, named, rfl, rfl⟩
  exact placing.leads_iff.mpr (FlowLayout.mem_edges_draft_iff.mpr ⟨proper, Or.inr linked⟩)

/-- Producers and readers meet if each query lists what it joins and the queries of one source statement
are counted as one statement. -/
theorem producersMeet {sources : List Nat}
    (sameStatement : ∀ position other : Nat, position < script.queries.length →
      sources[position]? = sources[other]? →
        CteScopes.statementsBefore script.queries position =
          CteScopes.statementsBefore script.queries other) :
    ProducersMeet layout script sources graph where
  present position table refers := by
    obtain ⟨reader, located, listed⟩ := refers.exists_mem_tables collected
    have present : (layout.draft script).hasNode (layout.referent script position table) = true :=
      FlowLayout.hasNode_draft_iff.mpr ⟨position, reader, located, bringsIn_table listed⟩
    obtain ⟨node, member, same⟩ := placing.exists_mem_of_hasNode present
    exact List.mem_map.mpr ⟨node, member, same⟩
  subquery _ _ _ _ located refers isSubQuery plain named :=
    targets_of_subquery collected lawful located refers isSubQuery plain named
  cte position producer other table located refers isCte sameSource marked named := by
    have bound := (List.getElem?_eq_some_iff.mp located).1
    exact targets_of_cte collected lawful located refers isCte
      (sameStatement position other bound sameSource) marked named
  written _ _ _ _ located refers _ isOutput plain named :=
    ⟨mem_targets_of_mem_outputs collected located isOutput,
      leads_of_mem_outputs collected lawful placing located refers isOutput plain named⟩

end Lawful

end Script

/-- However statements are read and quotes are escaped, each subquery, each common table expression and each
written relation meets its readers: what reads it refers to the very node of it, or is linked from the node
of what is written. -/
theorem FlowLayout.exists_producersMeet (read : String → Option Sql.Query) (escapes : Script.QuoteEscapes)
    (text : String) (classification : ClassificationOptions) (options : LayoutOptions) :
    ∃ graph,
      (ofOptions classification options).layout (Lineage.parseWith read escapes text) = .ok graph ∧
        ProducersMeet (ofOptions classification options) (Lineage.parseWith read escapes text)
          (Lineage.sourceStatements read escapes text) graph := by
  have wellFormed := (ofOptions classification options).wellFormed_draft
    (Lineage.parseWith read escapes text)
  obtain ⟨graph, layers, placed, placing⟩ :=
    exists_placing (ofOptions classification options).options wellFormed
  refine ⟨graph, placed, producersMeet (fun _ => Lineage.isCollected_of_mem_queries)
    (Classifier.lawful_ofOptions classification) placing ?_⟩
  intro position other bound same
  have sourceLocated := List.getElem?_eq_getElem (Lineage.length_sourceStatements ▸ bound)
  exact Lineage.countP_take_eq_of_sourceStatements_eq sourceLocated (same.symm.trans sourceLocated)

/-- In every script and dialect, under any classification and options, producers meet their readers. -/
theorem FlowLayout.producers_meet (dialect : Sql.Dialect) (text : String)
    (classification : ClassificationOptions) (options : LayoutOptions) :
    ∃ graph,
      (ofOptions classification options).layout (Lineage.parseScript dialect text) = .ok graph ∧
        ProducersMeet (ofOptions classification options) (Lineage.parseScript dialect text)
          (Lineage.sourceStatements (Sql.sourceQuery? dialect) (Lineage.escapesOf dialect) text)
          graph :=
  exists_producersMeet (Sql.sourceQuery? dialect) (Lineage.escapesOf dialect) text classification options

end Flow

end SqlLineage

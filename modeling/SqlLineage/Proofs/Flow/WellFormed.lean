/-
Module: SqlLineage.Proofs.Flow.WellFormed
Purpose: Every script is laid out, whatever it refers to and whatever the rules are, and its graph is
  well formed. A session therefore answers every script of which something was understood with a graph.
Main exports: FlowGraph.WellFormed, FlowLayout.exists_graph, FlowOutcome.layout_total
-/
import SqlLineage.Proofs.Flow.Placement
import SqlLineage.Proofs.Flow.ScriptDraft
import SqlLineage.Session.Outcome

namespace SqlLineage

open Lineage (ParsedScript)

namespace Flow

/-- Each id stands for one node and starts with the slug of its role, up to the first colon; each edge
joins two different nodes of the graph, and two nodes are joined once. -/
structure FlowGraph.WellFormed (graph : FlowGraph) : Prop where
  ids : (graph.nodes.map FlowNode.id).Nodup
  slugs : ∀ node ∈ graph.nodes, ∃ name,
    Text.cutFirst ':' node.id.toList = some (node.role.slug.toList, name)
  closed : ∀ edge ∈ graph.edges,
    edge.source ∈ graph.nodes.map FlowNode.id ∧ edge.target ∈ graph.nodes.map FlowNode.id
  proper : ∀ edge ∈ graph.edges, edge.source ≠ edge.target
  single : (graph.edges.map fun edge => (edge.source, edge.target)).Nodup

variable {options : LayoutOptions} {draft : Draft} {layers : List (List Nat)} {graph : FlowGraph}

theorem Placing.id_mem_of_hasNode (placing : Placing options draft layers graph) {id : String}
    (present : draft.hasNode id = true) : id ∈ graph.nodes.map FlowNode.id := by
  obtain ⟨node, member, same⟩ := placing.exists_mem_of_hasNode present
  exact List.mem_map.mpr ⟨node, member, same⟩

/-- Placing keeps a draft well formed. -/
theorem Placing.wellFormed (placing : Placing options draft layers graph)
    (wellFormed : draft.WellFormed) : graph.WellFormed where
  ids := placing.perm_ids.nodup_iff.mpr wellFormed.ids
  slugs node member := by
    obtain ⟨name, named⟩ := wellFormed.named node.origin (placing.origin_mem member)
    refine ⟨(Text.lowercase name).toList, ?_⟩
    have id : node.id = nodeId node.role name := named
    rw [id]
    exact cutFirst_nodeId node.role name
  closed edge member := by
    have ends := wellFormed.closed _ (placing.leads_iff.mp ⟨edge, member, rfl, rfl⟩)
    exact ⟨placing.id_mem_of_hasNode ends.1, placing.id_mem_of_hasNode ends.2⟩
  proper edge member := wellFormed.proper _ (placing.leads_iff.mp ⟨edge, member, rfl, rfl⟩)
  single := by
    rw [placing.edges, draft.map_ends_placedEdges]
    exact wellFormed.single

/-- Laying a script out succeeds, and the graph is well formed. -/
theorem FlowLayout.exists_graph (layout : FlowLayout) (script : ParsedScript) :
    ∃ graph, layout.layout script = .ok graph ∧ graph.WellFormed := by
  have wellFormed := layout.wellFormed_draft script
  obtain ⟨graph, layers, placed, placing⟩ := exists_placing layout.options wellFormed
  exact ⟨graph, placed, placing.wellFormed wellFormed⟩

end Flow

namespace Session

open SqlLineage.Flow (FlowLayout FlowGraph)
open Remote (ParseSource)

/-- Every script is laid out, and its graph is well formed. A session answers it with that graph and a
success exactly if it has queries, and never reports that the layout failed. -/
theorem FlowOutcome.layout_total (layout : FlowLayout) (script : ParsedScript)
    (source : ParseSource) :
    ∃ graph, layout.layout script = .ok graph ∧ graph.WellFormed ∧
      (ofResolution layout { script, source }).graph =
        (if script.queries = [] then none else some graph) ∧
      ((ofResolution layout { script, source }).notification.isSuccess = true ↔
        script.queries ≠ []) ∧
      (ofResolution layout { script, source }).notification ≠ .internalFault := by
  obtain ⟨graph, laidOut, wellFormed⟩ := layout.exists_graph script
  refine ⟨graph, laidOut, wellFormed, ?_⟩
  by_cases empty : script.queries = []
  · have isEmpty : script.isEmpty = true := by simp [ParsedScript.isEmpty, empty]
    simp [ofResolution, isEmpty, empty, Notification.isSuccess, Notification.unparsable,
      Notification.internalFault]
  · have isEmpty : script.isEmpty = false := by simpa [ParsedScript.isEmpty] using empty
    simp [ofResolution, isEmpty, empty, laidOut, Notification.isSuccess, Notification.parsed,
      Notification.internalFault]

end Session

end SqlLineage

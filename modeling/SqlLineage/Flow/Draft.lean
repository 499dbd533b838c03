/-
Module: SqlLineage.Flow.Draft
Purpose: A flow graph under construction: its nodes and edges in order of first appearance, each once.
Main exports: NodeDraft, Draft, Draft.addNode, Draft.addEdge
-/
import SqlLineage.Flow.Role

namespace SqlLineage.Flow

/-- A node that has no place yet. -/
structure NodeDraft where
  id : String
  label : String
  role : NodeRole
  queryId : Option String
deriving Repr, Inhabited, DecidableEq

/-- The nodes and edges so far. -/
structure Draft where
  nodes : List NodeDraft := []
  edges : List (String × String) := []
deriving Repr, Inhabited, DecidableEq

namespace Draft

def hasNode (draft : Draft) (id : String) : Bool := draft.nodes.any (·.id == id)

/-- Adds a node, unless there is one of its id. -/
def addNode (node : NodeDraft) (draft : Draft) : Draft :=
  if draft.hasNode node.id then draft else { draft with nodes := draft.nodes ++ [node] }

/-- Adds an edge between two different nodes, unless there is one. -/
def addEdge (source target : String) (draft : Draft) : Draft :=
  if source = target || draft.edges.contains (source, target) then draft
  else { draft with edges := draft.edges ++ [(source, target)] }

/-- Adds an edge from one node to each of the others. -/
def addEdges (source : String) (targets : List String) (draft : Draft) : Draft :=
  targets.foldl (fun draft target => draft.addEdge source target) draft

@[simp] theorem edges_addNode (node : NodeDraft) (draft : Draft) :
    (draft.addNode node).edges = draft.edges := by
  unfold addNode; split <;> rfl

@[simp] theorem nodes_addEdge (source target : String) (draft : Draft) :
    (draft.addEdge source target).nodes = draft.nodes := by
  unfold addEdge; split <;> rfl

end Draft

end SqlLineage.Flow

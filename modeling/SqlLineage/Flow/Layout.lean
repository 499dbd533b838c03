/-
Module: SqlLineage.Flow.Layout
Purpose: From the lineage of a script to its flow graph. Every query leads edges from the relations it
  reads, through its joins, to the nodes that stand for its result; then the nodes are placed in
  layers, for which the edges that close a cycle do not count.
Main exports: LayoutOptions, LayoutError, FlowLayout, FlowLayout.draft, FlowLayout.layout
-/
import SqlLineage.Flow.Classifier
import SqlLineage.Flow.Digraph
import SqlLineage.Flow.Draft
import SqlLineage.Flow.Graph

namespace SqlLineage.Flow

open Lineage (Query TableReference JoinClause ParsedScript)

/-- How the nodes are placed. -/
structure LayoutOptions where
  /-- The distance between two layers. -/
  layerSpacing : Float := 250.0
  /-- The distance between two nodes of one layer. -/
  nodeSpacing : Float := 100.0
  /-- Whether a statement that writes nothing gets a node for its result. -/
  resultNode : Bool := false
deriving Repr, Inhabited

/-- Why a draft cannot be placed. -/
inductive LayoutError where
  /-- An edge joins a node that is missing. -/
  | danglingEdge (source target : String)
  /-- A cycle through this node is left. -/
  | cycle (node : String)
deriving Repr, Inhabited, DecidableEq

/-- The rules and the measures of a layout. -/
structure FlowLayout where
  classifier : Classifier := default
  options : LayoutOptions := {}
deriving Inhabited

/-- The relations of a script with their profiles and roles. -/
structure Relations where
  scopes : CteScopes
  profiles : Profiles
  roles : List (RelationKey × NodeRole)
deriving Repr, Inhabited

namespace Relations

/-- The relations of a script under these rules. -/
def ofScript (classifier : Classifier) (script : ParsedScript) : Relations :=
  let scopes := CteScopes.ofScript script
  let profiles := profileTables script scopes
  { scopes, profiles
    roles := profiles.map fun (key, profile) => (key, classifier.classify profile) }

/-- The role of a relation. One without a profile is a plain source. -/
def role (relations : Relations) (key : RelationKey) : NodeRole :=
  (relations.roles.lookup key).getD .sourceTable

/-- The node that stands for a relation, which is read by this reference. -/
def node (relations : Relations) (key : RelationKey) (table : TableReference) : NodeDraft :=
  let role := relations.role key
  { id := nodeId role key.name
    label := ((relations.profiles.get? key).map TableProfile.label).getD table.name
    role
    queryId := none }

/-- The node that a reference of the query at this position denotes. -/
def nodeOf (relations : Relations) (index : Nat) (table : TableReference) : NodeDraft :=
  relations.node (relations.scopes.keyFor index table) table

end Relations

/-! ### The nodes of a query -/

/-- The node of the join at this position of a query. -/
def joinNode (query : Query) (position : Nat) (join : JoinClause) : NodeDraft :=
  { id := nodeId .join (query.id ++ "#" ++ toString position)
    label := join.kind.name ++ " JOIN"
    role := .join
    queryId := some query.id }

/-- A node for what a query produces. -/
def targetNode (query : Query) (role : NodeRole) (name label : String) : NodeDraft :=
  { id := nodeId role name, label, role, queryId := some query.id }

/-- The nodes for what a query produces: its declaration, itself as a derived table, the relations it
writes, or its result if such a node is wanted. -/
def targetNodes (options : LayoutOptions) (scopes : CteScopes) (index : Nat) (query : Query) :
    List NodeDraft :=
  if query.isCte then
    [targetNode query .cte (scopes.declaration index query) query.name]
  else if query.isSubQuery then
    [targetNode query .tempTable query.id query.name]
  else if query.outputs.isEmpty then
    if options.resultNode then [targetNode query .output query.id "result"] else []
  else
    query.outputs.map fun output => targetNode query .output output output

/-! ### The edges of a query -/

/-- Whether two joins that follow each other belong to the same chain. -/
def continuesChain (join next : JoinClause) : Bool := join.left.sameRelation next.left

/-- The edges of the joins of a query. The first join of a chain is fed by its left relation, each
later one by the join before it; all are fed by their right relations, and the last one feeds what the
query produces. The first two arguments are the position of the next join and the join before it. -/
def joinEdges (relations : Relations) (index : Nat) (query : Query) (targets : List String) :
    Nat → Option JoinClause → List JoinClause → List (String × String)
  | _, _, [] => []
  | position, previous, join :: rest =>
    let node := (joinNode query position join).id
    let continues := (previous.map fun before => continuesChain before join).getD false
    let source :=
      match previous with
      | some before =>
        if continues then (joinNode query (position - 1) before).id
        else (relations.nodeOf index join.left).id
      | none => (relations.nodeOf index join.left).id
    let ends := (rest.head?.map fun next => !continuesChain join next).getD true
    (source, node) :: ((relations.nodeOf index join.right).id, node) ::
      (if ends then targets.map fun target => (node, target) else [])
      ++ joinEdges relations index query targets (position + 1) (some join) rest

/-- The relations of a query that no join of it mentions, each with its first reference. -/
def unjoinedTables (scopes : CteScopes) (index : Nat) (query : Query) : List TableReference :=
  let joined := query.joins.flatMap fun join =>
    [scopes.keyFor index join.left, scopes.keyFor index join.right]
  let firsts := query.tables.foldl
    (fun tables table =>
      if tables.any fun other => scopes.keyFor index other = scopes.keyFor index table then tables
      else tables ++ [table])
    []
  firsts.filter fun table => !joined.contains (scopes.keyFor index table)

/-- The nodes that the sides of a join denote, as far as they are not fed by the join before. -/
def sideNodes (relations : Relations) (index : Nat) :
    Option JoinClause → List JoinClause → List NodeDraft
  | _, [] => []
  | previous, join :: rest =>
    let continues := (previous.map fun before => continuesChain before join).getD false
    (if continues then [] else [relations.nodeOf index join.left])
      ++ relations.nodeOf index join.right :: sideNodes relations index (some join) rest

/-- Adds the nodes and the edges of the query at this position. -/
def addQuery (options : LayoutOptions) (relations : Relations) (draft : Draft)
    (query : Query) (index : Nat) : Draft :=
  let targets := targetNodes options relations.scopes index query
  let nodes :=
    query.tables.map (relations.nodeOf index)
      ++ query.joins.mapIdx (joinNode query)
      ++ targets
      ++ sideNodes relations index none query.joins
  let withNodes := nodes.foldl (fun draft node => draft.addNode node) draft
  let targetIds := targets.map NodeDraft.id
  let joined := (joinEdges relations index query targetIds 0 none query.joins).foldl
    (fun draft edge => draft.addEdge edge.1 edge.2) withNodes
  (unjoinedTables relations.scopes index query).foldl
    (fun draft table => draft.addEdges (relations.nodeOf index table).id targetIds) joined

/-- The case-folded names of the relations that the script writes, each once. -/
def writtenNames (script : ParsedScript) : List String :=
  (script.queries.flatMap fun query => query.outputs.map Text.lowercase).eraseDups

/-- Adds an edge from a relation as it is written to the same relation as it is read, which keep a node
each. -/
def linkWritten (relations : Relations) (draft : Draft) (name : String) : Draft :=
  let key := RelationKey.table name
  let written := nodeId .output name
  let read := nodeId (relations.role key) name
  if relations.profiles.contains key && draft.hasNode written && draft.hasNode read then
    draft.addEdge written read
  else draft

namespace FlowLayout

/-- The layout with the built-in rules. -/
def ofOptions (classification : ClassificationOptions) (options : LayoutOptions) : FlowLayout :=
  { classifier := .ofOptions classification, options }

/-- The nodes and edges of the flow graph of a script. -/
def draft (layout : FlowLayout) (script : ParsedScript) : Draft :=
  let relations := Relations.ofScript layout.classifier script
  let queries := script.queries.zipIdx.foldl
    (fun draft (query, index) => addQuery layout.options relations draft query index) {}
  (writtenNames script).foldl (linkWritten relations) queries

end FlowLayout

/-! ### Placement -/

/-- The position of a node in a draft. -/
def Draft.indexOf? (draft : Draft) (id : String) : Option Nat :=
  draft.nodes.findIdx? (·.id == id)

/-- An edge by the positions of its two nodes. -/
def Draft.edgeIndices (draft : Draft) (edge : String × String) : Except LayoutError (Nat × Nat) :=
  match draft.indexOf? edge.1, draft.indexOf? edge.2 with
  | some source, some target => .ok (source, target)
  | _, _ => .error (.danglingEdge edge.1 edge.2)

/-- The draft as a graph over the positions of its nodes. -/
def Draft.digraph (draft : Draft) : Except LayoutError (Digraph Nat) := do
  let edges ← draft.edges.mapM draft.edgeIndices
  pure { nodes := List.range draft.nodes.length, edges }

/-- A node at its place. -/
def NodeDraft.place (options : LayoutOptions) (layer order : Nat) (node : NodeDraft) : FlowNode :=
  { id := node.id
    label := node.label
    role := node.role
    layer, order
    position := {
      x := layer.toFloat * options.layerSpacing
      y := order.toFloat * options.nodeSpacing }
    queryId := node.queryId }

/-- The nodes of a draft at their places, given the positions in the draft by layer. -/
def placeNodes (options : LayoutOptions) (draft : Draft) (layers : List (List Nat)) :
    List FlowNode :=
  layers.zipIdx.flatMap fun (members, layer) =>
    (members.filterMap (draft.nodes[·]?)).mapIdx fun order node => node.place options layer order

/-- Places a draft: the edges that close a cycle are marked, and the others decide the layers. -/
def place (options : LayoutOptions) (draft : Draft) : Except LayoutError FlowGraph := do
  let graph ← draft.digraph
  let back := graph.backEdges
  let layers ←
    match (graph.without back).layers? with
    | .ok layers => .ok layers
    | .error node => .error (.cycle ((draft.nodes[node]?.map NodeDraft.id).getD ""))
  let edges := List.zipWith
    (fun edge indices =>
      { id := edgeId edge.1 edge.2
        source := edge.1
        target := edge.2
        isBackEdge := back.contains indices : FlowEdge })
    draft.edges graph.edges
  pure (.ofParts (placeNodes options draft layers) edges)

/-- The flow graph of a script. -/
def FlowLayout.layout (layout : FlowLayout) (script : ParsedScript) :
    Except LayoutError FlowGraph :=
  place layout.options (layout.draft script)

end SqlLineage.Flow

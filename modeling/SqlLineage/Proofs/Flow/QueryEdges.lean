/-
Module: SqlLineage.Proofs.Flow.QueryEdges
Purpose: The nodes and the edges that one query brings into a draft: what its joins are fed by, which
  relations feed its results themselves, and that each edge joins two of its nodes.
Main exports: targetIds, queryNodes, queryEdges, addQuery_eq, JoinEdge, joinEdge_of_mem,
  mem_tableEdges_iff, bringsIn_of_mem_queryEdges
-/
import SqlLineage.Flow.Layout
import SqlLineage.Proofs.Flow.Draft

namespace SqlLineage.Flow

open Lineage (Query TableReference JoinClause ParsedScript)

/-! ### What one query brings in -/

/-- The ids of the nodes for what the query at this position produces. -/
def targetIds (options : LayoutOptions) (scopes : CteScopes) (index : Nat) (query : Query) :
    List String :=
  (targetNodes options scopes index query).map NodeDraft.id

/-- The nodes that the query at this position brings in. -/
def queryNodes (options : LayoutOptions) (relations : Relations) (query : Query) (index : Nat) :
    List NodeDraft :=
  query.tables.map (relations.nodeOf index)
    ++ query.joins.mapIdx (joinNode query)
    ++ targetNodes options relations.scopes index query
    ++ sideNodes relations index none query.joins

/-- The edges from the relations without a join to what the query at this position produces. -/
def tableEdges (options : LayoutOptions) (relations : Relations) (query : Query) (index : Nat) :
    List (String × String) :=
  (unjoinedTables relations.scopes index query).flatMap fun table =>
    (targetIds options relations.scopes index query).map fun target =>
      ((relations.nodeOf index table).id, target)

/-- The edges that the query at this position brings in. -/
def queryEdges (options : LayoutOptions) (relations : Relations) (query : Query) (index : Nat) :
    List (String × String) :=
  joinEdges relations index query (targetIds options relations.scopes index query) 0 none query.joins
    ++ tableEdges options relations query index

theorem Draft.addEdges_eq (source : String) (targets : List String) (draft : Draft) :
    draft.addEdges source targets = draft.addEdgeList (targets.map fun target => (source, target)) := by
  rw [Draft.addEdges, Draft.addEdgeList, List.foldl_map]

theorem Draft.addEdgeList_append (edges more : List (String × String)) (draft : Draft) :
    draft.addEdgeList (edges ++ more) = (draft.addEdgeList edges).addEdgeList more := by
  rw [Draft.addEdgeList, Draft.addEdgeList, Draft.addEdgeList, List.foldl_append]

/-- A query adds all of its nodes before its edges. -/
theorem addQuery_eq (options : LayoutOptions) (relations : Relations) (draft : Draft) (query : Query)
    (index : Nat) :
    addQuery options relations draft query index =
      (draft.addNodes (queryNodes options relations query index)).addEdgeList
        (queryEdges options relations query index) := by
  have tables : ∀ (draft : Draft) (unjoined : List TableReference),
      unjoined.foldl
          (fun draft table => draft.addEdges (relations.nodeOf index table).id
            (targetIds options relations.scopes index query)) draft =
        draft.addEdgeList (unjoined.flatMap fun table =>
          (targetIds options relations.scopes index query).map fun target =>
            ((relations.nodeOf index table).id, target)) := by
    intro draft unjoined
    induction unjoined generalizing draft with
    | nil => rfl
    | cons table rest ih =>
        rw [List.foldl_cons, ih, List.flatMap_cons, Draft.addEdgeList_append, Draft.addEdges_eq]
  rw [queryEdges, Draft.addEdgeList_append, tableEdges, ← tables]
  rfl

/-! ### The edges of joins -/

/-- The id of the node of the join at this position of a query. -/
def joinId (query : Query) (position : Nat) : String :=
  nodeId .join (query.id ++ "#" ++ toString position)

/-- Whether a join belongs to the chain of the join before it. -/
def continues (previous : Option JoinClause) (join : JoinClause) : Bool :=
  (previous.map fun before => continuesChain before join).getD false

theorem continues_iff {previous : Option JoinClause} {join : JoinClause} :
    continues previous join = true ↔ ∃ last, previous = some last ∧ last.left.key = join.left.key := by
  cases previous with
  | none => simp [continues]
  | some last => simp [continues, continuesChain, TableReference.sameRelation_iff]

/-- Whether a join with these behind it is the last of its chain. -/
def endsChain (join : JoinClause) (rest : List JoinClause) : Bool :=
  (rest.head?.map fun next => !continuesChain join next).getD true

section Joins

variable {relations : Relations} {index : Nat} {query : Query} {targets : List String}

/-- The join at a position is fed by the join before it or by its left relation, and by its right one; it
feeds what the query produces if its chain ends there. -/
theorem joinEdges_cons (position : Nat) (previous : Option JoinClause) (join : JoinClause)
    (rest : List JoinClause) :
    joinEdges relations index query targets position previous (join :: rest) =
      (if continues previous join then joinId query (position - 1)
        else (relations.nodeOf index join.left).id, joinId query position) ::
      ((relations.nodeOf index join.right).id, joinId query position) ::
        ((if endsChain join rest then targets.map fun target => (joinId query position, target)
          else []) ++ joinEdges relations index query targets (position + 1) (some join) rest) := by
  cases previous <;> rfl

theorem left_mem_joinEdges {position : Nat} {previous : Option JoinClause} {join : JoinClause}
    {rest : List JoinClause} (starts : continues previous join = false) :
    ((relations.nodeOf index join.left).id, joinId query position) ∈
      joinEdges relations index query targets position previous (join :: rest) := by
  simp [joinEdges_cons, starts]

theorem right_mem_joinEdges {position : Nat} {previous : Option JoinClause} {join : JoinClause}
    {rest : List JoinClause} :
    ((relations.nodeOf index join.right).id, joinId query position) ∈
      joinEdges relations index query targets position previous (join :: rest) := by
  simp [joinEdges_cons]

theorem target_mem_joinEdges {position : Nat} {previous : Option JoinClause} {join : JoinClause}
    {rest : List JoinClause} {target : String} (ends : endsChain join rest = true)
    (member : target ∈ targets) :
    (joinId query position, target) ∈
      joinEdges relations index query targets position previous (join :: rest) := by
  simp [joinEdges_cons, ends, member]

theorem mem_joinEdges_of_mem_rest {position : Nat} {previous : Option JoinClause} {join : JoinClause}
    {rest : List JoinClause} {edge : String × String}
    (later : edge ∈ joinEdges relations index query targets (position + 1) (some join) rest) :
    edge ∈ joinEdges relations index query targets position previous (join :: rest) := by
  simp [joinEdges_cons, later]

/-- A join that continues a chain is fed by the join before it. -/
theorem next_mem_joinEdges {position : Nat} {previous : Option JoinClause} {join next : JoinClause}
    {rest : List JoinClause} (continued : continues (some join) next = true) :
    (joinId query position, joinId query (position + 1)) ∈
      joinEdges relations index query targets position previous (join :: next :: rest) := by
  apply mem_joinEdges_of_mem_rest
  simp [joinEdges_cons, continued]

theorem sideNodes_cons (previous : Option JoinClause) (join : JoinClause) (rest : List JoinClause) :
    sideNodes relations index previous (join :: rest) =
      (if continues previous join then [] else [relations.nodeOf index join.left]) ++
        relations.nodeOf index join.right :: sideNodes relations index (some join) rest := rfl

variable (relations index query targets) in
/-- The edges around the joins of the query at a position: from a side of a join to its node, from the
node of a join to that of the next one, and from the node of a join to what the query produces. -/
inductive JoinEdge : String → String → Prop where
  | side {position : Nat} {join : JoinClause} {table : TableReference}
      (located : query.joins[position]? = some join)
      (isSide : table = join.left ∨ table = join.right)
      (listed : relations.nodeOf index table ∈ sideNodes relations index none query.joins) :
      JoinEdge (relations.nodeOf index table).id (joinId query position)
  | chain {position : Nat} {join next : JoinClause}
      (located : query.joins[position]? = some join)
      (nextLocated : query.joins[position + 1]? = some next) :
      JoinEdge (joinId query position) (joinId query (position + 1))
  | target {position : Nat} {join : JoinClause} {target : String}
      (located : query.joins[position]? = some join) (member : target ∈ targets) :
      JoinEdge (joinId query position) target

/-- The edges of the joins from a position on are of these kinds. -/
theorem joinEdge_of_mem_from {position : Nat} {previous : Option JoinClause} {joins : List JoinClause}
    (suffix : query.joins.drop position = joins)
    (before : ∀ join, previous = some join →
      ∃ earlier, position = earlier + 1 ∧ query.joins[earlier]? = some join)
    (sides : ∀ node ∈ sideNodes relations index previous joins,
      node ∈ sideNodes relations index none query.joins)
    {source target : String}
    (isEdge : (source, target) ∈ joinEdges relations index query targets position previous joins) :
    JoinEdge relations index query targets source target := by
  induction joins generalizing position previous with
  | nil => cases isEdge
  | cons join rest ih =>
      have here : query.joins[position]? = some join := by
        rw [← List.head?_drop, suffix, List.head?_cons]
      rw [sideNodes_cons] at sides
      rw [joinEdges_cons, List.mem_cons, List.mem_cons, List.mem_append] at isEdge
      rcases isEdge with fed | right | out | later
      · obtain ⟨rfl, rfl⟩ := Prod.mk.inj fed
        split
        · next continued =>
            cases previous with
            | none => cases continued
            | some last =>
                obtain ⟨earlier, rfl, located⟩ := before last rfl
                exact .chain located here
        · next starts =>
            refine .side here (Or.inl rfl) (sides _ ?_)
            simp [starts]
      · obtain ⟨rfl, rfl⟩ := Prod.mk.inj right
        exact .side here (Or.inr rfl) (sides _ (List.mem_append_right _ List.mem_cons_self))
      · split at out
        · obtain ⟨target, member, same⟩ := List.mem_map.mp out
          obtain ⟨rfl, rfl⟩ := Prod.mk.inj same
          exact .target here member
        · cases out
      · refine ih ?_ ?_ ?_ later
        · rw [← List.tail_drop, suffix, List.tail_cons]
        · rintro last ⟨⟩
          exact ⟨position, rfl, here⟩
        · intro node listed
          exact sides node (List.mem_append_right _ (List.mem_cons_of_mem _ listed))

/-- The edges of the joins of a query are of these kinds. -/
theorem joinEdge_of_mem {source target : String}
    (isEdge : (source, target) ∈ joinEdges relations index query targets 0 none query.joins) :
    JoinEdge relations index query targets source target := by
  refine joinEdge_of_mem_from List.drop_zero ?_ (fun _ listed => listed) isEdge
  rintro join ⟨⟩

end Joins

/-! ### The edges of relations without a join -/

/-- The relations that the joins of a query mention. -/
def joinedKeys (scopes : CteScopes) (index : Nat) (query : Query) : List RelationKey :=
  query.joins.flatMap fun join =>
    [scopes.keyFor index join.left, scopes.keyFor index join.right]

theorem mem_joinedKeys_iff {scopes : CteScopes} {index : Nat} {query : Query} {key : RelationKey} :
    key ∈ joinedKeys scopes index query ↔
      ∃ join ∈ query.joins, ∃ side, (side = join.left ∨ side = join.right) ∧
        scopes.keyFor index side = key := by
  simp [joinedKeys, eq_comm]

/-- The first reference to each relation, behind those found before. -/
def firstReferences (scopes : CteScopes) (index : Nat) (found : List TableReference)
    (tables : List TableReference) : List TableReference :=
  tables.foldl
    (fun tables table =>
      if tables.any fun other => scopes.keyFor index other = scopes.keyFor index table then tables
      else tables ++ [table])
    found

section Tables

variable {scopes : CteScopes} {index : Nat} {query : Query}

theorem unjoinedTables_eq :
    unjoinedTables scopes index query =
      (firstReferences scopes index [] query.tables).filter fun table =>
        !(joinedKeys scopes index query).contains (scopes.keyFor index table) := rfl

theorem mem_of_mem_firstReferences {found tables : List TableReference} {table : TableReference}
    (listed : table ∈ firstReferences scopes index found tables) : table ∈ found ∨ table ∈ tables := by
  unfold firstReferences at listed
  induction tables generalizing found with
  | nil => exact Or.inl listed
  | cons first rest ih =>
      rw [List.foldl_cons] at listed
      rcases ih listed with old | later
      · split at old
        · exact Or.inl old
        · rcases List.mem_append.mp old with old | new
          · exact Or.inl old
          · exact Or.inr (List.mem_singleton.mp new ▸ List.mem_cons_self)
      · exact Or.inr (List.mem_cons_of_mem _ later)

/-- Every relation that is referred to has a first reference. -/
theorem exists_mem_firstReferences {found tables : List TableReference} {table : TableReference}
    (listed : table ∈ found ∨ table ∈ tables) :
    ∃ first ∈ firstReferences scopes index found tables,
      scopes.keyFor index first = scopes.keyFor index table := by
  unfold firstReferences
  induction tables generalizing found table with
  | nil => exact ⟨table, listed.resolve_right List.not_mem_nil, rfl⟩
  | cons next rest ih =>
      rw [List.foldl_cons]
      rcases listed with old | new
      · refine ih (Or.inl ?_)
        split
        · exact old
        · exact List.mem_append_left _ old
      · rcases List.mem_cons.mp new with rfl | later
        · split
          · next present =>
              obtain ⟨other, member, same⟩ := List.any_eq_true.mp present
              obtain ⟨first, isFirst, key⟩ := ih (Or.inl member)
              exact ⟨first, isFirst, key.trans (of_decide_eq_true same)⟩
          · exact ih (Or.inl (List.mem_append_right _ (List.mem_singleton.mpr rfl)))
        · exact ih (Or.inr later)

theorem mem_tables_of_mem_unjoinedTables {table : TableReference}
    (listed : table ∈ unjoinedTables scopes index query) : table ∈ query.tables := by
  rw [unjoinedTables_eq] at listed
  exact (mem_of_mem_firstReferences (List.mem_filter.mp listed).1).resolve_left List.not_mem_nil

/-- A relation that no join mentions is among those that feed the results themselves. -/
theorem exists_mem_unjoinedTables {table : TableReference} (member : table ∈ query.tables)
    (unjoined : scopes.keyFor index table ∉ joinedKeys scopes index query) :
    ∃ first ∈ unjoinedTables scopes index query,
      scopes.keyFor index first = scopes.keyFor index table := by
  obtain ⟨first, isFirst, same⟩ : ∃ first ∈ firstReferences scopes index [] query.tables,
      scopes.keyFor index first = scopes.keyFor index table :=
    exists_mem_firstReferences (Or.inr member)
  refine ⟨first, ?_, same⟩
  rw [unjoinedTables_eq, List.mem_filter]
  exact ⟨isFirst, by simpa [same] using unjoined⟩

end Tables

theorem mem_tableEdges_iff {options : LayoutOptions} {relations : Relations} {query : Query}
    {index : Nat} {source target : String} :
    (source, target) ∈ tableEdges options relations query index ↔
      (∃ table ∈ unjoinedTables relations.scopes index query,
        (relations.nodeOf index table).id = source) ∧
      target ∈ targetIds options relations.scopes index query := by
  simp only [tableEdges, List.mem_flatMap, List.mem_map, Prod.mk.injEq]
  constructor
  · intro known
    rcases known with ⟨table, listed, _, member, rfl, rfl⟩
    exact ⟨⟨table, listed, rfl⟩, member⟩
  · intro known
    rcases known with ⟨⟨table, listed, rfl⟩, member⟩
    exact ⟨table, listed, target, member, rfl, rfl⟩

/-! ### The ends of all edges -/

section Ends

variable {options : LayoutOptions} {relations : Relations} {query : Query} {index : Nat}

/-- The id of some node that the query brings in. -/
def BringsIn (options : LayoutOptions) (relations : Relations) (query : Query) (index : Nat)
    (id : String) : Prop :=
  ∃ node ∈ queryNodes options relations query index, node.id = id

theorem bringsIn_table {table : TableReference} (member : table ∈ query.tables) :
    BringsIn options relations query index (relations.nodeOf index table).id := by
  refine ⟨_, ?_, rfl⟩
  simp only [queryNodes, List.mem_append]
  exact Or.inl (Or.inl (Or.inl (List.mem_map_of_mem member)))

theorem bringsIn_join {position : Nat} {join : JoinClause}
    (located : query.joins[position]? = some join) :
    BringsIn options relations query index (joinId query position) := by
  refine ⟨joinNode query position join, ?_, rfl⟩
  simp only [queryNodes, List.mem_append]
  refine Or.inl (Or.inl (Or.inr ?_))
  rw [List.mem_mapIdx]
  obtain ⟨bound, rfl⟩ := List.getElem?_eq_some_iff.mp located
  exact ⟨position, bound, rfl⟩

theorem bringsIn_target {target : String}
    (member : target ∈ targetIds options relations.scopes index query) :
    BringsIn options relations query index target := by
  obtain ⟨node, listed, rfl⟩ := List.mem_map.mp member
  refine ⟨node, ?_, rfl⟩
  simp only [queryNodes, List.mem_append]
  exact Or.inl (Or.inr listed)

theorem bringsIn_side {node : NodeDraft}
    (listed : node ∈ sideNodes relations index none query.joins) :
    BringsIn options relations query index node.id :=
  ⟨node, List.mem_append_right _ listed, rfl⟩

/-- The edges of a query join nodes that it brings in. -/
theorem bringsIn_of_mem_queryEdges {source target : String}
    (isEdge : (source, target) ∈ queryEdges options relations query index) :
    BringsIn options relations query index source ∧ BringsIn options relations query index target := by
  rcases List.mem_append.mp isEdge with ofJoins | ofTables
  · cases joinEdge_of_mem ofJoins with
    | side located isSide listed => exact ⟨bringsIn_side listed, bringsIn_join located⟩
    | chain located nextLocated => exact ⟨bringsIn_join located, bringsIn_join nextLocated⟩
    | target located member => exact ⟨bringsIn_join located, bringsIn_target member⟩
  · obtain ⟨⟨table, listed, rfl⟩, member⟩ := mem_tableEdges_iff.mp ofTables
    exact ⟨bringsIn_table (mem_tables_of_mem_unjoinedTables listed), bringsIn_target member⟩

end Ends

/-! ### The ids of all nodes -/

/-- The sides of joins bring in nodes for relations, like all references. -/
theorem exists_of_mem_sideNodes {relations : Relations} {index : Nat} {previous : Option JoinClause}
    {joins : List JoinClause} {node : NodeDraft}
    (listed : node ∈ sideNodes relations index previous joins) :
    ∃ join ∈ joins, ∃ table, (table = join.left ∨ table = join.right) ∧
      node = relations.nodeOf index table := by
  induction joins generalizing previous with
  | nil => cases listed
  | cons join rest ih =>
      rw [sideNodes_cons, List.mem_append, List.mem_cons] at listed
      rcases listed with left | rfl | later
      · split at left
        · cases left
        · rw [List.mem_singleton] at left
          exact ⟨join, List.mem_cons_self, join.left, Or.inl rfl, left⟩
      · exact ⟨join, List.mem_cons_self, join.right, Or.inr rfl, rfl⟩
      · obtain ⟨other, member, found⟩ := ih later
        exact ⟨other, List.mem_cons_of_mem _ member, found⟩

/-- The nodes for what a query produces name it, and none of them has the role of a join. -/
theorem exists_of_mem_targetNodes {options : LayoutOptions} {scopes : CteScopes} {index : Nat}
    {query : Query} {node : NodeDraft} (listed : node ∈ targetNodes options scopes index query) :
    ∃ role name label, role ≠ .join ∧ node = targetNode query role name label := by
  unfold targetNodes at listed
  split at listed
  · rw [List.mem_singleton] at listed
    exact ⟨.cte, _, _, nofun, listed⟩
  · split at listed
    · rw [List.mem_singleton] at listed
      exact ⟨.tempTable, _, _, nofun, listed⟩
    · split at listed
      · split at listed
        · rw [List.mem_singleton] at listed
          exact ⟨.output, _, _, nofun, listed⟩
        · cases listed
      · obtain ⟨output, _, same⟩ := List.mem_map.mp listed
        exact ⟨.output, _, _, nofun, same.symm⟩

/-- The ids of the nodes for what a query produces show their roles, none of which is that of a join. -/
theorem exists_name_of_mem_targetNodes {options : LayoutOptions} {scopes : CteScopes} {index : Nat}
    {query : Query} {node : NodeDraft} (listed : node ∈ targetNodes options scopes index query) :
    (∃ name, node.id = nodeId node.role name) ∧ node.role ≠ .join := by
  obtain ⟨role, name, label, noJoin, rfl⟩ := exists_of_mem_targetNodes listed
  exact ⟨⟨name, rfl⟩, noJoin⟩

theorem exists_name_of_mem_queryNodes {options : LayoutOptions} {relations : Relations}
    {query : Query} {index : Nat} {node : NodeDraft}
    (listed : node ∈ queryNodes options relations query index) :
    ∃ name, node.id = nodeId node.role name := by
  simp only [queryNodes, List.mem_append] at listed
  rcases listed with ((ofTable | ofJoin) | ofTarget) | ofSide
  · obtain ⟨table, _, rfl⟩ := List.mem_map.mp ofTable
    exact ⟨_, rfl⟩
  · obtain ⟨position, bound, rfl⟩ := List.mem_mapIdx.mp ofJoin
    exact ⟨_, rfl⟩
  · exact (exists_name_of_mem_targetNodes ofTarget).1
  · obtain ⟨_, _, table, _, rfl⟩ := exists_of_mem_sideNodes ofSide
    exact ⟨_, rfl⟩

end SqlLineage.Flow

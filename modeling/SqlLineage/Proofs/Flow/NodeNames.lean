/-
Module: SqlLineage.Proofs.Flow.NodeNames
Purpose: When all nodes of a flow graph have names. Joins are numbered, and what is read or written is
  named as the script says; so it depends on what queries declare and on the ids that name their results.
Main exports: FlowNode.IsUnnamed, NamesResults, Placing.named_iff
-/
import Mathlib.Data.Nat.Find
import SqlLineage.Proofs.Flow.Declarations
import SqlLineage.Proofs.Flow.Links
import SqlLineage.Proofs.Flow.WellFormed
import SqlLineage.Proofs.Text.Blank

namespace SqlLineage.Flow

open Lineage (Query TableReference ParsedScript Declares)
open CteScopes (FirstDeclares givenName statementsBefore)

/-- Whether nothing but white space stands behind the role in the id of a node. -/
def FlowNode.IsUnnamed (node : FlowNode) : Prop :=
  ∃ name, node.id = node.role.slug ++ ":" ++ name ∧ Text.isBlankText name = true

/-- Names of one node are both blank or neither is. -/
theorem isBlankText_of_nodeId_eq {role other : NodeRole} {name otherName : String}
    (same : nodeId role name = nodeId other otherName) :
    Text.isBlankText name = Text.isBlankText otherName := by
  rw [← Text.isBlankText_lowercase name, (nodeId_inj.mp same).2, Text.isBlankText_lowercase]

/-- Whether these are the ids of nodes with names. -/
def AllNamed (ids : List String) : Prop :=
  ∀ role name, nodeId role name ∈ ids → Text.isBlankText name = false

theorem allNamed_singleton_iff {role : NodeRole} {name : String} :
    AllNamed [nodeId role name] ↔ Text.isBlankText name = false := by
  constructor
  · intro named
    exact named role name List.mem_cons_self
  · intro named other otherName listed
    rw [isBlankText_of_nodeId_eq (List.mem_singleton.mp listed), named]

theorem Placing.forall_named_iff {options : LayoutOptions} {draft : Draft} {layers : List (List Nat)}
    {graph : FlowGraph} (placing : Placing options draft layers graph) (wellFormed : draft.WellFormed) :
    (∀ node ∈ graph.nodes, ¬ node.IsUnnamed) ↔ AllNamed (draft.nodes.map NodeDraft.id) := by
  constructor
  · intro named role name listed
    obtain ⟨node, member, same⟩ := List.mem_map.mp (placing.perm_ids.symm.subset listed)
    obtain ⟨own, isOwn⟩ := wellFormed.named node.origin (placing.origin_mem member)
    obtain rfl : node.role = role := (nodeId_inj.mp (isOwn.symm.trans same)).1
    rw [Bool.eq_false_iff]
    intro blank
    rw [← Text.isBlankText_lowercase] at blank
    exact named node member ⟨_, same, blank⟩
  · rintro named node member ⟨name, same, blank⟩
    obtain ⟨own, isOwn⟩ := wellFormed.named node.origin (placing.origin_mem member)
    have rest : Text.lowercase own = name := by
      have id : node.role.slug ++ ":" ++ Text.lowercase own = node.role.slug ++ ":" ++ name :=
        isOwn.symm.trans same
      exact (String.append_right_inj _).mp id
    have listed := placing.perm_ids.subset (List.mem_map_of_mem (f := FlowNode.id) member)
    have isNamed := named node.role own (isOwn ▸ listed)
    rw [← Text.isBlankText_lowercase, rest, blank] at isNamed
    cases isNamed

/-! ### What queries produce -/

/-- What a query produces has names if what it declares has one, and its id is one where that is the name of
its result. -/
theorem allNamed_targetIds_iff {options : LayoutOptions} {scopes : CteScopes} {index : Nat} {query : Query}
    (outputs : ∀ output ∈ query.outputs, Text.isBlankText output = false) :
    AllNamed (targetIds options scopes index query) ↔
      (query.isCte = true → Text.isBlankText (scopes.declaration index query) = false) ∧
      (query.isCte = false → query.isSubQuery = true → Text.isBlankText query.id = false) ∧
      (query.isStatementLevel = true → query.outputs = [] → options.resultNode = true →
        Text.isBlankText query.id = false) := by
  unfold targetIds targetNodes
  split
  · next isCte =>
      rw [List.map_singleton]
      simp [targetNode, allNamed_singleton_iff, isCte, Query.isStatementLevel]
  · next plain =>
      split
      · next isSubQuery =>
          rw [List.map_singleton]
          simp [targetNode, allNamed_singleton_iff, plain, isSubQuery, Query.isStatementLevel]
      · next level =>
          split
          · next unwritten =>
              split
              · next wanted =>
                  rw [List.map_singleton]
                  simp [targetNode, allNamed_singleton_iff, plain, level, wanted,
                    List.isEmpty_iff.mp unwritten, Query.isStatementLevel]
              · next unwanted =>
                  simp [AllNamed, plain, level, unwanted]
          · next written =>
              have named : AllNamed (query.outputs.map (nodeId .output)) := by
                intro role name listed
                obtain ⟨output, member, same⟩ := List.mem_map.mp listed
                rw [isBlankText_of_nodeId_eq same.symm, outputs output member]
              have ids : (query.outputs.map fun output => targetNode query .output output output).map
                  NodeDraft.id = query.outputs.map (nodeId .output) := by
                rw [List.map_map]
                rfl
              simp [ids, named, plain, level, List.isEmpty_iff.not.mp written]

/-! ### What scripts declare -/

section Declared

variable {queries : List Query} {statement position : Nat} {name : String} {query : Query}

/-- Of all queries that define a common table expression of a name the first one keeps it. -/
theorem exists_firstDeclares_of_declares (declares : Declares queries name) :
    ∃ statement position query, FirstDeclares queries statement name position query ∧
      ¬ Declares (queries.take position) name := by
  have found : ∃ (position : Nat) (query : Query), queries[position]? = some query ∧
      query.isCte = true ∧ Text.lowercase query.name = name := by
    obtain ⟨query, member, isCte, named⟩ := declares
    obtain ⟨position, located⟩ := List.mem_iff_getElem?.mp member
    exact ⟨position, query, located, isCte, named⟩
  -- The first query of the name in the whole script is also the first of its own statement.
  classical
  obtain ⟨query, located, isCte, named⟩ := Nat.find_spec found
  have noneBefore : ∀ {earlier : Nat} {other : Query}, earlier < Nat.find found →
      queries[earlier]? = some other → other.isCte = true → Text.lowercase other.name ≠ name :=
    fun lower located isCte named => Nat.find_min found lower ⟨_, located, isCte, named⟩
  refine ⟨_, _, query, ⟨located, isCte, named, rfl, ?_⟩, ?_⟩
  · intro earlier other lower otherLocated otherIsCte otherNamed
    exact absurd otherNamed (noneBefore lower otherLocated otherIsCte)
  · rintro ⟨other, member, otherIsCte, otherNamed⟩
    obtain ⟨earlier, bound, rfl⟩ := List.mem_take_iff_getElem.mp member
    exact noneBefore (by omega) (List.getElem?_eq_getElem _) otherIsCte otherNamed

/-- The made-up name of a common table expression is blank only if it is the id of the query. -/
theorem isBlankText_givenName : Text.isBlankText (givenName queries position query) =
    if Declares (queries.take position) (Text.lowercase query.name) then
      !query.id.isEmpty && Text.isBlankText query.id
    else Text.isBlankText query.name := by
  have numbered : Text.isBlankText (Text.lowercase query.name ++ "@" ++
      toString (statementsBefore queries position)) = false := by
    apply Text.not_isBlankText_of_mem (c := '@')
    · simp
    · decide
  simp only [givenName]
  split
  · split
    · next empty => rw [numbered, empty]; rfl
    · next id => rw [Text.isBlankText_lowercase, Bool.eq_false_iff.mpr id]; rfl
  · rw [Text.isBlankText_lowercase]

end Declared

/-- Whether what the queries of a script produce has names. -/
structure NamesResults (options : LayoutOptions) (script : ParsedScript) : Prop where
  declared : ∀ query ∈ script.queries, query.isCte = true → Text.isBlankText query.name = false
  /-- Where a name is taken, the common table expression goes by the id of the query, if there is one. -/
  redeclared : ∀ statement name position query,
    FirstDeclares script.queries statement name position query →
      Declares (script.queries.take position) name → query.id ≠ "" → Text.isBlankText query.id = false
  nested : ∀ query ∈ script.queries, query.isCte = false → query.isSubQuery = true →
    Text.isBlankText query.id = false
  result : options.resultNode = true → ∀ query ∈ script.queries, query.isStatementLevel = true →
    query.outputs = [] → Text.isBlankText query.id = false

section Script

variable {script : ParsedScript} {options : LayoutOptions}

namespace NamesResults

theorem isBlankText_givenName (names : NamesResults options script) {statement position : Nat}
    {name : String} {query : Query}
    (declares : FirstDeclares script.queries statement name position query) :
    Text.isBlankText (givenName script.queries position query) = false := by
  rw [Flow.isBlankText_givenName, declares.named]
  split
  · next taken =>
      by_cases empty : query.id = ""
      · rw [empty]
        rfl
      · rw [names.redeclared _ _ _ _ declares taken empty, Bool.and_false]
  · exact names.declared query (List.mem_of_getElem? declares.located) declares.isCte

theorem isBlankText_declaration (names : NamesResults options script) {position : Nat} {query : Query}
    (located : script.queries[position]? = some query) (isCte : query.isCte = true) :
    Text.isBlankText ((CteScopes.ofScript script).declaration position query) = false := by
  obtain ⟨first, declaring, declares, same⟩ := CteScopes.exists_firstDeclares located isCte
  rw [same]
  exact names.isBlankText_givenName declares

/-- What a reference with a name denotes has a name. -/
theorem isBlankText_keyFor (names : NamesResults options script) (index : Nat) {table : TableReference}
    (named : Text.isBlankText table.name = false) :
    Text.isBlankText ((CteScopes.ofScript script).keyFor index table).name = false := by
  have key : Text.isBlankText table.key = false := by
    rw [TableReference.key, Text.isBlankText_lowercase, named]
  cases isCte : table.isCte with
  | false => rwa [CteScopes.keyFor_of_not_isCte _ _ isCte]
  | true =>
      rw [CteScopes.keyFor, if_pos isCte]
      cases found : (CteScopes.ofScript script).declaredUpTo table.key
          ((CteScopes.ofScript script).statementOf index) with
      | none => exact key
      | some node =>
          obtain ⟨_, _, _, declares, rfl⟩ := CteScopes.exists_of_declaredUpTo_eq_some found
          exact names.isBlankText_givenName declares

theorem of_allNamed {layout : FlowLayout}
    (outputs : ∀ query ∈ script.queries, ∀ output ∈ query.outputs, Text.isBlankText output = false)
    (named : ∀ index query, script.queries[index]? = some query →
      AllNamed (layout.targets script index query)) : NamesResults layout.options script := by
  have targets := fun {index : Nat} {query : Query} (located : script.queries[index]? = some query) =>
    (allNamed_targetIds_iff (outputs query (List.mem_of_getElem? located))).mp (named index query located)
  have given : ∀ {statement name position query},
      FirstDeclares script.queries statement name position query →
        Text.isBlankText (givenName script.queries position query) = false := by
    intro statement name position query declares
    have declaration := (targets declares.located).1 declares.isCte
    rwa [show (layout.relations script).scopes = CteScopes.ofScript script from rfl,
      declares.declaration_eq] at declaration
  constructor
  · -- The query need not keep its name, but the first one of the name does, and both are blank or neither.
    intro query member isCte
    obtain ⟨statement, position, first, declares, isFirst⟩ :=
      exists_firstDeclares_of_declares ⟨query, member, isCte, rfl⟩
    have name := given declares
    rwa [Flow.isBlankText_givenName, declares.named, if_neg isFirst, ← Text.isBlankText_lowercase,
      declares.named, Text.isBlankText_lowercase] at name
  · intro statement name position query declares taken notEmpty
    have name := given declares
    rwa [Flow.isBlankText_givenName, declares.named, if_pos taken, Bool.and_eq_false_iff,
      or_iff_right (by simpa using notEmpty)] at name
  · intro query member plain isSubQuery
    obtain ⟨index, located⟩ := List.mem_iff_getElem?.mp member
    exact (targets located).2.1 plain isSubQuery
  · intro wanted query member level unwritten
    obtain ⟨index, located⟩ := List.mem_iff_getElem?.mp member
    exact (targets located).2.2 level unwritten wanted

theorem allNamed_targets {layout : FlowLayout} (names : NamesResults layout.options script)
    (outputs : ∀ query ∈ script.queries, ∀ output ∈ query.outputs, Text.isBlankText output = false)
    {index : Nat} {query : Query} (located : script.queries[index]? = some query) :
    AllNamed (layout.targets script index query) := by
  have member := List.mem_of_getElem? located
  rw [FlowLayout.targets, allNamed_targetIds_iff (outputs query member)]
  exact ⟨names.isBlankText_declaration located, names.nested query member,
    fun level unwritten wanted => names.result wanted query member level unwritten⟩

end NamesResults

/-! ### All nodes -/

variable {layout : FlowLayout}
  (references : ∀ query ∈ script.queries, ∀ table ∈ query.references,
    Text.isBlankText table.name = false)
  (outputs : ∀ query ∈ script.queries, ∀ output ∈ query.outputs, Text.isBlankText output = false)

include references outputs

/-- If what queries read and write has names, then all nodes have names if what the queries produce has. -/
theorem allNamed_draft_iff : AllNamed ((layout.draft script).nodes.map NodeDraft.id) ↔
    NamesResults layout.options script := by
  constructor
  · intro named
    apply NamesResults.of_allNamed outputs
    intro index query located role name listed
    have present := FlowLayout.hasNode_draft_iff.mpr ⟨index, query, located, bringsIn_target listed⟩
    exact named role name (List.mem_map.mpr (Draft.hasNode_iff.mp present))
  · intro names role name listed
    have present := Draft.hasNode_iff.mpr (List.mem_map.mp listed)
    obtain ⟨index, query, located, node, brought, same⟩ := FlowLayout.hasNode_draft_iff.mp present
    have member := List.mem_of_getElem? located
    have referent : ∀ table ∈ query.references,
        ((layout.relations script).nodeOf index table).id = nodeId role name →
          Text.isBlankText name = false := by
      intro table isReference same
      rw [← isBlankText_of_nodeId_eq same]
      exact names.isBlankText_keyFor index (references query member table isReference)
    simp only [queryNodes, List.mem_append] at brought
    rcases brought with ((ofTable | ofJoin) | ofTarget) | ofSide
    · obtain ⟨table, isTable, rfl⟩ := List.mem_map.mp ofTable
      exact referent table (Lineage.Query.mem_references_iff.mpr (.inl isTable)) same
    · obtain ⟨position, _, rfl⟩ := List.mem_mapIdx.mp ofJoin
      rw [← isBlankText_of_nodeId_eq same]
      apply Text.not_isBlankText_of_mem (c := '#')
      · simp
      · decide
    · have produced : nodeId role name ∈ layout.targets script index query :=
        same ▸ List.mem_map_of_mem ofTarget
      exact names.allNamed_targets outputs located role name produced
    · obtain ⟨join, joined, table, isSide, rfl⟩ := exists_of_mem_sideNodes ofSide
      exact referent table (Lineage.Query.mem_references_iff.mpr (.inr ⟨join, joined, isSide⟩)) same

theorem Placing.named_iff {graph : FlowGraph} {layers : List (List Nat)}
    (placing : Placing layout.options (layout.draft script) layers graph) :
    (∀ node ∈ graph.nodes, ¬ node.IsUnnamed) ↔ NamesResults layout.options script := by
  rw [placing.forall_named_iff (layout.wellFormed_draft script)]
  exact allNamed_draft_iff references outputs

end Script

end SqlLineage.Flow

/-
Module: SqlLineage.Proofs.Flow.ScriptDraft
Purpose: The nodes and the edges of the draft of a script: those that its queries bring in, and the links
  between relations that are written and read. The draft is well formed, whatever the rules are and
  whatever the script refers to.
Main exports: writtenLink, Linked, FlowLayout.relations, FlowLayout.targets, FlowLayout.referent,
  FlowLayout.hasNode_draft_iff, FlowLayout.mem_edges_draft_iff, FlowLayout.wellFormed_draft
-/
import SqlLineage.Proofs.Flow.QueryEdges

namespace SqlLineage.Flow

open Lineage (Query TableReference ParsedScript)

/-! ### Several queries -/

section Queries

variable {options : LayoutOptions} {relations : Relations}

/-- Adds the nodes and the edges of several queries. -/
def addQueries (options : LayoutOptions) (relations : Relations) (queries : List (Query × Nat))
    (draft : Draft) : Draft :=
  queries.foldl (fun draft entry => addQuery options relations draft entry.1 entry.2) draft

theorem hasNode_addQueries_iff {queries : List (Query × Nat)} {draft : Draft} {id : String} :
    (addQueries options relations queries draft).hasNode id = true ↔
      draft.hasNode id = true ∨
        ∃ entry ∈ queries, BringsIn options relations entry.1 entry.2 id := by
  unfold addQueries
  induction queries generalizing draft with
  | nil => simp
  | cons first rest ih =>
      rw [List.foldl_cons, ih, addQuery_eq]
      rw [Draft.hasNode_addEdgeList, Draft.hasNode_addNodes_iff, List.exists_mem_cons_iff, or_assoc]
      rfl

theorem mem_edges_addQueries_iff {queries : List (Query × Nat)} {draft : Draft}
    {edge : String × String} :
    edge ∈ (addQueries options relations queries draft).edges ↔
      edge ∈ draft.edges ∨ edge.1 ≠ edge.2 ∧
        ∃ entry ∈ queries, edge ∈ queryEdges options relations entry.1 entry.2 := by
  unfold addQueries
  induction queries generalizing draft with
  | nil => simp
  | cons first rest ih =>
      rw [List.foldl_cons, ih, addQuery_eq, Draft.mem_edges_addEdgeList_iff, Draft.edges_addNodes,
        List.exists_mem_cons_iff, and_or_left, or_assoc]

theorem Draft.WellFormed.addQueries {queries : List (Query × Nat)} {draft : Draft}
    (wellFormed : draft.WellFormed) :
    (addQueries options relations queries draft).WellFormed := by
  unfold Flow.addQueries
  induction queries generalizing draft with
  | nil => exact wellFormed
  | cons first rest ih =>
      rw [List.foldl_cons]
      apply ih
      rw [addQuery_eq]
      apply (wellFormed.addNodes fun _ => exists_name_of_mem_queryNodes).addEdgeList
      intro edge isEdge
      have ends := bringsIn_of_mem_queryEdges isEdge
      exact ⟨Draft.hasNode_addNodes_iff.mpr (Or.inr ends.1),
        Draft.hasNode_addNodes_iff.mpr (Or.inr ends.2)⟩

/-! ### Links between what is written and what is read -/

/-- The link from the relation of a name as it is written to the same relation as it is read. -/
def writtenLink (relations : Relations) (name : String) : String × String :=
  (nodeId .output name, nodeId (relations.role (.table name)) name)

/-- Whether the link of a name is drawn: some query reads the relation, and both nodes are there. -/
def Linked (relations : Relations) (draft : Draft) (name : String) : Prop :=
  relations.profiles.contains (.table name) = true ∧
    draft.hasNode (writtenLink relations name).1 = true ∧
    draft.hasNode (writtenLink relations name).2 = true

theorem linkWritten_of_linked {draft : Draft} {name : String} (linked : Linked relations draft name) :
    linkWritten relations draft name =
      draft.addEdge (writtenLink relations name).1 (writtenLink relations name).2 := by
  have cond : (relations.profiles.contains (.table name) &&
      draft.hasNode (nodeId .output name) &&
      draft.hasNode (nodeId (relations.role (.table name)) name)) = true := by
    rw [Bool.and_eq_true, Bool.and_eq_true]
    exact ⟨⟨linked.1, linked.2.1⟩, linked.2.2⟩
  exact if_pos cond

theorem linkWritten_of_not_linked {draft : Draft} {name : String}
    (unlinked : ¬ Linked relations draft name) : linkWritten relations draft name = draft := by
  have cond : ¬ (relations.profiles.contains (.table name) &&
      draft.hasNode (nodeId .output name) &&
      draft.hasNode (nodeId (relations.role (.table name)) name)) = true := by
    rw [Bool.and_eq_true, Bool.and_eq_true]
    intro known
    rcases known with ⟨⟨isRead, hasWritten⟩, hasRead⟩
    exact unlinked ⟨isRead, hasWritten, hasRead⟩
  exact if_neg cond

@[simp] theorem hasNode_linkWritten (draft : Draft) (name id : String) :
    (linkWritten relations draft name).hasNode id = draft.hasNode id := by
  by_cases linked : Linked relations draft name
  · rw [linkWritten_of_linked linked, Draft.hasNode_addEdge]
  · rw [linkWritten_of_not_linked linked]

theorem linked_linkWritten_iff {draft : Draft} {name other : String} :
    Linked relations (linkWritten relations draft name) other ↔ Linked relations draft other := by
  simp [Linked]

theorem mem_edges_linkWritten_iff {draft : Draft} {name : String} {edge : String × String} :
    edge ∈ (linkWritten relations draft name).edges ↔
      edge ∈ draft.edges ∨
        edge.1 ≠ edge.2 ∧ Linked relations draft name ∧ edge = writtenLink relations name := by
  by_cases linked : Linked relations draft name
  · rw [linkWritten_of_linked linked, Draft.mem_edges_addEdge_iff]
    constructor
    · intro known
      rcases known with old | ⟨proper, rfl⟩
      · exact Or.inl old
      · exact Or.inr ⟨proper, linked, rfl⟩
    · intro known
      rcases known with old | ⟨proper, _, rfl⟩
      · exact Or.inl old
      · exact Or.inr ⟨proper, rfl⟩
  · rw [linkWritten_of_not_linked linked]
    constructor
    · exact Or.inl
    · intro known
      rcases known with old | ⟨_, isLinked, _⟩
      · exact old
      · exact absurd isLinked linked

theorem Draft.WellFormed.linkWritten {draft : Draft} (wellFormed : draft.WellFormed) (name : String) :
    (linkWritten relations draft name).WellFormed := by
  by_cases linked : Linked relations draft name
  · rw [linkWritten_of_linked linked]
    exact wellFormed.addEdge linked.2.1 linked.2.2
  · rw [linkWritten_of_not_linked linked]
    exact wellFormed

/-- Adds the links of several names. -/
def linkAll (relations : Relations) (names : List String) (draft : Draft) : Draft :=
  names.foldl (linkWritten relations) draft

@[simp] theorem hasNode_linkAll (names : List String) (draft : Draft) (id : String) :
    (linkAll relations names draft).hasNode id = draft.hasNode id := by
  unfold linkAll
  induction names generalizing draft with
  | nil => rfl
  | cons name rest ih => rw [List.foldl_cons, ih, hasNode_linkWritten]

theorem mem_edges_linkAll_iff {names : List String} {draft : Draft} {edge : String × String} :
    edge ∈ (linkAll relations names draft).edges ↔
      edge ∈ draft.edges ∨ edge.1 ≠ edge.2 ∧
        ∃ name ∈ names, Linked relations draft name ∧ edge = writtenLink relations name := by
  unfold linkAll
  induction names generalizing draft with
  | nil => simp
  | cons name rest ih =>
      simp only [List.foldl_cons, ih, mem_edges_linkWritten_iff, linked_linkWritten_iff,
        List.exists_mem_cons_iff, and_or_left, or_assoc]

theorem Draft.WellFormed.linkAll {names : List String} {draft : Draft}
    (wellFormed : draft.WellFormed) : (linkAll relations names draft).WellFormed := by
  unfold Flow.linkAll
  induction names generalizing draft with
  | nil => exact wellFormed
  | cons name rest ih => exact ih (wellFormed.linkWritten name)

end Queries

/-! ### The draft of a script -/

namespace FlowLayout

/-- The relations of a script under the rules of a layout. -/
def relations (layout : FlowLayout) (script : ParsedScript) : Relations :=
  Relations.ofScript layout.classifier script

/-- The ids of the nodes for what the query at this position of a script produces. -/
def targets (layout : FlowLayout) (script : ParsedScript) (index : Nat) (query : Query) : List String :=
  targetIds layout.options (layout.relations script).scopes index query

/-- The id of the node that a reference of the query at this position denotes. -/
def referent (layout : FlowLayout) (script : ParsedScript) (index : Nat) (table : TableReference) :
    String :=
  ((layout.relations script).nodeOf index table).id

/-- The edges that the query at this position of a script brings in. -/
def edgesOf (layout : FlowLayout) (script : ParsedScript) (index : Nat) (query : Query) :
    List (String × String) :=
  queryEdges layout.options (layout.relations script) query index

theorem draft_eq (layout : FlowLayout) (script : ParsedScript) :
    layout.draft script =
      linkAll (layout.relations script) (writtenNames script)
        (addQueries layout.options (layout.relations script) script.queries.zipIdx {}) := rfl

variable {layout : FlowLayout} {script : ParsedScript}

/-- The nodes of a draft are those that some query brings in. -/
theorem hasNode_draft_iff {id : String} :
    (layout.draft script).hasNode id = true ↔
      ∃ index query, script.queries[index]? = some query ∧
        BringsIn layout.options (layout.relations script) query index id := by
  rw [draft_eq, hasNode_linkAll, hasNode_addQueries_iff]
  simp only [Draft.hasNode, List.any_nil, Bool.false_eq_true, false_or, Prod.exists,
    List.mk_mem_zipIdx_iff_getElem?]
  exact exists_comm

/-- The edges of a draft are those that some query brings in, and the links between relations that are
written and read. None leads from a node to itself. -/
theorem mem_edges_draft_iff {edge : String × String} :
    edge ∈ (layout.draft script).edges ↔
      edge.1 ≠ edge.2 ∧
        ((∃ index query, script.queries[index]? = some query ∧
            edge ∈ layout.edgesOf script index query) ∨
          ∃ name ∈ writtenNames script,
            Linked (layout.relations script) (layout.draft script) name ∧
              edge = writtenLink (layout.relations script) name) := by
  have linked : ∀ name, Linked (layout.relations script) (layout.draft script) name ↔
      Linked (layout.relations script)
        (addQueries layout.options (layout.relations script) script.queries.zipIdx {}) name := by
    intro name
    simp [Linked, draft_eq]
  have ofQuery : (∃ index query, script.queries[index]? = some query ∧
        edge ∈ layout.edgesOf script index query) ↔
      ∃ entry ∈ script.queries.zipIdx,
        edge ∈ queryEdges layout.options (layout.relations script) entry.1 entry.2 := by
    simp only [Prod.exists, List.mk_mem_zipIdx_iff_getElem?]
    exact exists_comm
  rw [ofQuery]
  simp only [linked]
  rw [draft_eq, mem_edges_linkAll_iff, mem_edges_addQueries_iff]
  simp [and_or_left]

/-- The draft of every script is well formed. -/
theorem wellFormed_draft (layout : FlowLayout) (script : ParsedScript) :
    (layout.draft script).WellFormed := by
  rw [draft_eq]
  exact Draft.WellFormed.empty.addQueries.linkAll

end FlowLayout

end SqlLineage.Flow

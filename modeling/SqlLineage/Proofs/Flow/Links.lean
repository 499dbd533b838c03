/-
Module: SqlLineage.Proofs.Flow.Links
Purpose: Which edges of a flow graph link what a script writes to what it reads, and which nodes stand for
  the relations that queries refer to.
Main exports: Query.references, FlowLayout.WrittenToRead, mem_queryNodes_cases, referent_of_not_isCte,
  exists_linked_iff
-/
import SqlLineage.Proofs.Flow.Placement
import SqlLineage.Proofs.Flow.Profile
import SqlLineage.Proofs.Flow.ScriptDraft
import SqlLineage.Proofs.Lineage.Script
import SqlLineage.Proofs.Text.Lowercase

namespace SqlLineage

/-- The references of a query to relations, those in its joins included. -/
def Lineage.Query.references (query : Lineage.Query) : List Lineage.TableReference :=
  query.tables ++ query.joins.flatMap fun join => [join.left, join.right]

theorem Lineage.Query.mem_references_iff {query : Lineage.Query} {table : Lineage.TableReference} :
    table ∈ query.references ↔
      table ∈ query.tables ∨ ∃ join ∈ query.joins, table = join.left ∨ table = join.right := by
  simp [Lineage.Query.references]

theorem Lineage.Query.JoinsListed.mem_tables {query : Lineage.Query} (listed : query.JoinsListed)
    {table : Lineage.TableReference} (isReference : table ∈ query.references) :
    table ∈ query.tables := by
  rcases Lineage.Query.mem_references_iff.mp isReference with isTable | ⟨join, member, rfl | rfl⟩
  · exact isTable
  · exact (listed join member).left_mem
  · exact (listed join member).right_mem

namespace Flow

open Lineage (Query TableReference JoinClause ParsedScript)

/-- A query brings in nodes for what it reads, for its joins and for what it produces. -/
theorem mem_queryNodes_cases {options : LayoutOptions} {relations : Relations} {query : Query} {index : Nat}
    {node : NodeDraft} (listed : node ∈ queryNodes options relations query index) :
    (∃ table ∈ query.references, node = relations.nodeOf index table) ∨
      (∃ position join, query.joins[position]? = some join ∧ node = joinNode query position join) ∨
        node ∈ targetNodes options relations.scopes index query := by
  simp only [queryNodes, List.mem_append] at listed
  rcases listed with ((ofTable | ofJoin) | ofTarget) | ofSide
  · obtain ⟨table, isTable, rfl⟩ := List.mem_map.mp ofTable
    exact .inl ⟨table, Query.mem_references_iff.mpr (.inl isTable), rfl⟩
  · obtain ⟨position, bound, rfl⟩ := List.mem_mapIdx.mp ofJoin
    exact .inr (.inl ⟨position, _, List.getElem?_eq_getElem bound, rfl⟩)
  · exact .inr (.inr ofTarget)
  · obtain ⟨join, isJoin, table, isSide, rfl⟩ := exists_of_mem_sideNodes ofSide
    exact .inl ⟨table, Query.mem_references_iff.mpr (.inr ⟨join, isJoin, isSide⟩), rfl⟩

/-! ### The nodes of relations -/

/-- References of one query with the same case-folded name and the same mark denote the same relation. -/
theorem CteScopes.keyFor_congr {scopes : CteScopes} {index : Nat} {table other : TableReference}
    (sameKey : table.key = other.key) (sameMark : table.isCte = other.isCte) :
    scopes.keyFor index table = scopes.keyFor index other := by
  rw [keyFor, keyFor, sameKey, sameMark]

theorem nodeId_lowercase (role : NodeRole) (name : String) :
    nodeId role (Text.lowercase name) = nodeId role name := by
  rw [nodeId_inj, Text.lowercase_lowercase]
  exact ⟨rfl, rfl⟩

section Script

variable {layout : FlowLayout} {script : ParsedScript}

/-- References that denote one relation denote one node. -/
theorem referent_congr {index : Nat} {table other : TableReference}
    (same : (layout.relations script).scopes.keyFor index table =
      (layout.relations script).scopes.keyFor index other) :
    layout.referent script index table = layout.referent script index other := by
  rw [FlowLayout.referent, Relations.nodeOf, same]
  rfl

theorem role_ne {role : NodeRole} (lawful : layout.classifier.Lawful) (other : role.isRelational = false)
    (script : ParsedScript) (key : RelationKey) : (layout.relations script).role key ≠ role := by
  rintro rfl
  have relational : ((layout.relations script).role key).isRelational = true :=
    Relations.isRelational_role lawful script key
  rw [other] at relational
  cases relational

/-! ### Links between what is written and what is read -/

variable (layout script) in
/-- The two nodes stand for one relation, the first as some query writes it and the second as some query
lists it among its tables. -/
def FlowLayout.WrittenToRead (source target : String) : Prop :=
  ∃ writer ∈ script.queries, ∃ output ∈ writer.outputs,
    ∃ index reader, script.queries[index]? = some reader ∧ ∃ table ∈ reader.tables,
      table.isCte = false ∧ table.key = Text.lowercase output ∧ source = nodeId .output output ∧
        target = layout.referent script index table

/-- The relation of a case-folded name has a profile if some query lists it. -/
theorem contains_profiles_iff {name : String} :
    (layout.relations script).profiles.contains (.table name) = true ↔
      ∃ (index : Nat) (query : Query), script.queries[index]? = some query ∧
        ∃ table ∈ query.tables, table.isCte = false ∧ table.key = name := by
  rw [Profiles.contains_iff]
  apply mem_keys_profileTables_iff.trans
  constructor
  · intro known
    rcases known with ⟨index, query, located, table, listed, same⟩
    have plain : table.isCte = false := by
      rw [← CteScopes.keyFor_isCte (layout.relations script).scopes index table]
      exact congrArg RelationKey.isCte same
    have key := (CteScopes.keyFor_of_not_isCte _ index plain).symm.trans same
    exact ⟨index, query, located, table, listed, plain, RelationKey.table.inj key⟩
  · intro known
    rcases known with ⟨index, query, located, table, listed, plain, rfl⟩
    exact ⟨index, query, located, table, listed, CteScopes.keyFor_of_not_isCte _ index plain⟩

theorem mem_writtenNames_iff {name : String} :
    name ∈ writtenNames script ↔
      ∃ writer ∈ script.queries, ∃ output ∈ writer.outputs, Text.lowercase output = name := by
  simp [writtenNames, List.mem_eraseDups]

/-- A reference that is not marked denotes the node under the relation's own name. -/
theorem referent_of_not_isCte {index : Nat} {table : TableReference} (plain : table.isCte = false) :
    layout.referent script index table =
      nodeId ((layout.relations script).role (.table table.key)) table.key := by
  rw [FlowLayout.referent, Relations.nodeOf, CteScopes.keyFor_of_not_isCte _ index plain]
  rfl

/-- The links of a draft are those between a relation as it is written and as it is read, if it has a
node as it is written. -/
theorem exists_linked_iff {source target : String}
    (present : (layout.draft script).hasNode source = true) :
    (∃ name ∈ writtenNames script, Linked (layout.relations script) (layout.draft script) name ∧
        (source, target) = writtenLink (layout.relations script) name) ↔
      layout.WrittenToRead script source target := by
  constructor
  · intro known
    rcases known with ⟨name, written, linked, same⟩
    obtain ⟨rfl, rfl⟩ := Prod.mk.inj same
    obtain ⟨writer, isWriter, output, isOutput, rfl⟩ := mem_writtenNames_iff.mp written
    obtain ⟨index, reader, located, table, listed, plain, key⟩ := contains_profiles_iff.mp linked.1
    refine ⟨writer, isWriter, output, isOutput, index, reader, located, table, listed, plain, key,
      nodeId_lowercase .output output, ?_⟩
    rw [referent_of_not_isCte plain, key]
  · rintro ⟨writer, isWriter, output, isOutput, index, reader, located, table, listed, plain, key,
      rfl, rfl⟩
    have link : writtenLink (layout.relations script) (Text.lowercase output) =
        (nodeId .output output, layout.referent script index table) := by
      rw [writtenLink, referent_of_not_isCte plain, key, nodeId_lowercase]
    refine ⟨_, mem_writtenNames_iff.mpr ⟨writer, isWriter, output, isOutput, rfl⟩, ?_, link.symm⟩
    refine ⟨contains_profiles_iff.mpr ⟨index, reader, located, table, listed, plain, key⟩, ?_⟩
    rw [link]
    exact ⟨present,
      FlowLayout.hasNode_draft_iff.mpr ⟨index, reader, located, bringsIn_table listed⟩⟩

end Script

end Flow

end SqlLineage

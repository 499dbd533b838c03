/-
Module: SqlLineage.Proofs.Lineage.Resolution
Purpose: The walk through a statement loses no relation and finds none twice: its queries list what the
  syntax tree mentions, one query after another and one mention after another. Each reference is taken
  for one to a common table expression exactly if one of its name is visible at the mention.
Main exports: Lists, Completes, Fits, Walk.Reads, reads_walkQuery
-/
import SqlLineage.Proofs.Lineage.WalkSteps

namespace SqlLineage.Lineage

open Sql (Frame Sees Mention Block Reading Source)

/-! ### References for mentions -/

/-- Whether references stand for mentions, one for each in order. The names are those of the references to
nested queries. -/
inductive Lists : List Mention → List TableReference → List String → Prop where
  | nil : Lists [] [] []
  | table {around : List Frame} {mentions : List Mention} {reference : TableReference}
      {references : List TableReference} {names : List String}
      (flagged : reference.isCte = true ↔ Sees around reference.key)
      (behind : Lists mentions references names) :
      Lists (⟨around, .table reference.name reference.aliasName⟩ :: mentions) (reference :: references)
        names
  | query {around : List Frame} {mentions : List Mention} {reference : TableReference}
      {references : List TableReference} {names : List String} (unflagged : reference.isCte = false)
      (behind : Lists mentions references names) :
      Lists (⟨around, .query reference.aliasName⟩ :: mentions) (reference :: references)
        (reference.name :: names)

/-- Whether complete queries stand for the blocks of a syntax tree, one for each in order. The names are
those of their references to nested queries. -/
inductive Completes : List Block → List Query → List String → Prop where
  | nil : Completes [] [] []
  | cons {block : Block} {blocks : List Block} {query : Query} {queries : List Query}
      {names later : List String} (isSubQuery : query.isSubQuery = block.isNested)
      (lists : Lists block.mentions query.tables names) (behind : Completes blocks queries later) :
      Completes (block :: blocks) (query :: queries) (names ++ later)

theorem Lists.append {first second : List Mention} {references others : List TableReference}
    {names later : List String} (lists : Lists first references names)
    (behind : Lists second others later) :
    Lists (first ++ second) (references ++ others) (names ++ later) := by
  induction lists with
  | nil => exact behind
  | table flagged _ ih => exact .table flagged ih
  | query unflagged _ ih => exact .query unflagged ih

theorem Completes.append {first second : List Block} {queries others : List Query}
    {names later : List String} (completes : Completes first queries names)
    (behind : Completes second others later) :
    Completes (first ++ second) (queries ++ others) (names ++ later) := by
  induction completes with
  | nil => exact behind
  | cons isSubQuery lists _ ih =>
      rw [List.append_assoc]
      exact .cons isSubQuery lists ih

/-- The ids of the nested queries among these. -/
def nestedIds (queries : List Query) : List String :=
  (queries.filter Query.isSubQuery).map Query.id

/-- Whether queries and references stand for what a part of a syntax tree reads. Each nested query is
referred to once. -/
def Fits (reading : Reading) (inner : List Query) (own : List TableReference) : Prop :=
  ∃ innerNames ownNames, Completes reading.inner inner innerNames ∧ Lists reading.own own ownNames ∧
    (innerNames ++ ownNames).Perm (nestedIds inner)

namespace Fits

variable {reading other : Reading} {inner others : List Query} {own more : List TableReference}

theorem empty : Fits {} [] [] :=
  ⟨[], [], .nil, .nil, .refl _⟩

theorem append (fits : Fits reading inner own) (behind : Fits other others more) :
    Fits (reading ++ other) (inner ++ others) (own ++ more) := by
  obtain ⟨innerNames, ownNames, completes, lists, ids⟩ := fits
  obtain ⟨otherNames, moreNames, completesOther, listsMore, idsOther⟩ := behind
  refine ⟨_, _, completes.append completesOther, lists.append listsMore, ?_⟩
  have swap : (innerNames ++ otherNames ++ (ownNames ++ moreNames)).Perm
      (innerNames ++ ownNames ++ (otherNames ++ moreNames)) := by
    simp only [List.append_assoc]
    refine List.Perm.append_left innerNames ?_
    rw [← List.append_assoc, ← List.append_assoc]
    exact List.perm_append_comm.append_right moreNames
  rw [nestedIds, List.filter_append, List.map_append]
  exact swap.trans (ids.append idsOther)

theorem table {around : List Frame} {reference : TableReference}
    (flagged : reference.isCte = true ↔ Sees around reference.key) :
    Fits { own := [⟨around, .table reference.name reference.aliasName⟩] } [] [reference] :=
  ⟨[], [], .nil, .table flagged .nil, .refl _⟩

theorem asDefinition {query : Query} (fits : Fits reading inner query.tables)
    (isSubQuery : query.isSubQuery = false) : Fits reading.asDefinition (inner ++ [query]) [] := by
  obtain ⟨innerNames, ownNames, completes, lists, ids⟩ := fits
  refine ⟨_, [], completes.append (.cons isSubQuery lists .nil), .nil, ?_⟩
  simpa [nestedIds, isSubQuery] using ids

theorem asNested {query : Query} (fits : Fits reading inner query.tables)
    (isSubQuery : query.isSubQuery = true) (around : List Frame) (aliasName : Option String) :
    Fits (reading.asNested around aliasName) (inner ++ [query]) [.named query.id aliasName false] := by
  obtain ⟨innerNames, ownNames, completes, lists, ids⟩ := fits
  have reads : Lists [⟨around, .query aliasName⟩] [.named query.id aliasName false] [query.id] :=
    .query (show (TableReference.named query.id aliasName false).isCte = false from rfl) .nil
  refine ⟨_, _, completes.append (.cons isSubQuery lists .nil), reads, ?_⟩
  simpa [nestedIds, isSubQuery] using ids.append_right [query.id]

end Fits

/-! ### Walks -/

@[simp] theorem Query.id_addDependency (name : String) (query : Query) :
    (query.addDependency name).id = query.id := by
  unfold addDependency
  split <;> rfl

@[simp] theorem Query.isSubQuery_addDependency (name : String) (query : Query) :
    (query.addDependency name).isSubQuery = query.isSubQuery := by
  unfold addDependency
  split <;> rfl

@[simp] theorem Query.id_addTable (table : TableReference) (query : Query) :
    (query.addTable table).id = query.id := by
  unfold addTable
  split <;> simp

@[simp] theorem Query.isSubQuery_addTable (table : TableReference) (query : Query) :
    (query.addTable table).isSubQuery = query.isSubQuery := by
  unfold addTable
  split <;> simp

namespace Walk

/-- Whether a walk has read a part of a syntax tree when it has come this far: it has completed the
queries inside the part, and listed in the query that is being filled what that reads. -/
structure Reads (walk : Walk) (reading : Reading) (later : Walk) : Prop where
  id : later.query.id = walk.query.id
  isSubQuery : later.query.isSubQuery = walk.query.isSubQuery
  adds : ∃ inner own, later.queries = walk.queries ++ inner ∧
    later.query.tables = walk.query.tables ++ own ∧ Fits reading inner own

namespace Reads

variable {walk later last : Walk} {reading other : Reading}

/-- A walk that only takes notes reads nothing. -/
theorem of_notes (noted : walk.Notes later) : walk.Reads {} later := by
  refine ⟨noted.query.id, noted.query.isSubQuery, [], [], ?_, ?_, .empty⟩
  · rw [noted.queries, List.append_nil]
  · rw [noted.tables, List.append_nil]

theorem append (reads : walk.Reads reading later) (behind : later.Reads other last) :
    walk.Reads (reading ++ other) last := by
  obtain ⟨inner, own, queries, tables, fits⟩ := reads.adds
  obtain ⟨others, more, queriesLast, tablesLast, fitsLast⟩ := behind.adds
  refine ⟨behind.id.trans reads.id, behind.isSubQuery.trans reads.isSubQuery, _, _, ?_, ?_,
    fits.append fitsLast⟩
  · rw [queriesLast, queries, List.append_assoc]
  · rw [tablesLast, tables, List.append_assoc]

theorem addTable {around : List Frame} {reference : TableReference}
    (flagged : reference.isCte = true ↔ Sees around reference.key) (walk : Walk) :
    walk.Reads { own := [⟨around, .table reference.name reference.aliasName⟩] }
      (walk.update (·.addTable reference)) :=
  ⟨by simp, by simp, [], [reference], by simp, by simp, .table flagged⟩

variable {fill : Walk → Walk} (fills : ∀ walk : Walk, walk.Reads reading (fill walk))

include fills

/-- A definition is complete with all that its query reads. -/
theorem declare {empty : Query} (isSubQuery : empty.isSubQuery = false) (unread : empty.tables = [])
    (name : String) (walk : Walk) :
    walk.Reads reading.asDefinition
      ((walk.within empty fill).1.declare name (walk.within empty fill).2) := by
  have filled := fills { walk with query := empty }
  obtain ⟨inner, own, queries, tables, fits⟩ := filled.adds
  rw [unread, List.nil_append] at tables
  refine ⟨rfl, rfl, _, [], ?_, by simp [Walk.declare],
    (tables ▸ fits).asDefinition (filled.isSubQuery.trans isSubQuery)⟩
  simp [Walk.declare, Walk.within, queries]

/-- A nested query is complete with all that it reads, and is read by the query around it. -/
theorem nest (index : Nat) (around : List Frame) (aliasName : Option String) (walk : Walk) :
    walk.Reads (reading.asNested around aliasName)
      ((walk.nest index aliasName fill).1.update (·.addTable (walk.nest index aliasName fill).2)) := by
  let nested : Query := {
    id := "sub_" ++ toString index ++ "_" ++ toString walk.nestedCount
    name := aliasName.getD "subquery"
    isSubQuery := true }
  let counted : Walk := { walk with nestedCount := walk.nestedCount + 1, query := nested }
  have filled := fills counted
  obtain ⟨inner, own, queries, tables, fits⟩ := filled.adds
  have tables : own = (fill counted).query.tables := tables.symm
  have isNested := (tables ▸ fits).asNested filled.isSubQuery around aliasName
  rw [filled.id] at isNested
  refine ⟨by simp [Walk.nest, Walk.within, Walk.complete, Walk.count],
    by simp [Walk.nest, Walk.within, Walk.complete, Walk.count], _, _, ?_, ?_, isNested⟩
  · show (fill counted).queries ++ [(fill counted).query] = _
    rw [queries, List.append_assoc]
  · simp [Walk.nest, Walk.within, Walk.complete, Walk.count, counted, nested]

end Reads

/-- Each step of a walk reads its part of the syntax tree. -/
theorem reads_steps (index : Nat) :
    Walk.Steps index fun _ _ walk reading later => walk.Reads reading later where
  notes noted := .of_notes noted
  append := .append
  table {around scope} isScope name aliasName walk := by
    have flagged : (referenceTo scope name aliasName).isCte = true ↔
        Sees around (referenceTo scope name aliasName).key := by
      simpa [referenceTo, TableReference.named, TableReference.key] using isScope _
    exact .addTable flagged walk
  nested fills aliasName walk := .nest fills index _ aliasName walk
  declared fills _ _ _ later := (Reads.declare fills rfl rfl _ _).append later
  body reads := reads

end Walk

/-- The walk through a query reads what its syntax tree tells. -/
theorem reads_walkQuery (index : Nat) (tree : Sql.Query) (walk : Walk) :
    walk.Reads (tree.reading []) (walkQuery index [] tree walk) :=
  (Walk.reads_steps index).onQuery isScope_nil tree walk

end SqlLineage.Lineage

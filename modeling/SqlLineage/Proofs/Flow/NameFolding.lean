/-
Module: SqlLineage.Proofs.Flow.NameFolding
Purpose: Scripts with all names in lower case. Their references denote the same relations with the same
  roles, and their queries bring in the same nodes and edges, but for the letter case of labels.
Main exports: ParsedScript.caseFolded, profileTables_caseFolded, Relations.ofScript_caseFolded,
  queryNodes_caseFolded, queryEdges_caseFolded
-/
import SqlLineage.Proofs.Flow.Links
import SqlLineage.Proofs.Text.Lowercase

namespace SqlLineage

open Text (lowercase)

/-! ### Scripts with all names in lower case -/

namespace Lineage

def TableReference.caseFolded (table : TableReference) : TableReference :=
  { table with
    name := lowercase table.name
    schema := table.schema.map lowercase
    aliasName := table.aliasName.map lowercase }

def JoinClause.caseFolded (join : JoinClause) : JoinClause :=
  { join with left := join.left.caseFolded, right := join.right.caseFolded }

/-- The query with its id and all names in it in lower case. What its conditions and columns say is kept. -/
def Query.caseFolded (query : Query) : Query :=
  { query with
    id := lowercase query.id
    name := lowercase query.name
    tables := query.tables.map TableReference.caseFolded
    joins := query.joins.map JoinClause.caseFolded
    outputs := query.outputs.map lowercase
    dependsOn := query.dependsOn.map lowercase
    unionInfo := query.unionInfo.map fun union =>
      { union with sources := union.sources.map lowercase } }

def Cte.caseFolded (cte : Cte) : Cte :=
  { name := lowercase cte.name, definition := cte.definition.caseFolded }

/-- The script with all names and ids in lower case. Scripts with one such form differ in the letter case of
names and ids alone. -/
def ParsedScript.caseFolded (script : ParsedScript) : ParsedScript :=
  { ctes := script.ctes.map Cte.caseFolded
    queries := script.queries.map Query.caseFolded }

@[simp] theorem TableReference.key_caseFolded (table : TableReference) :
    table.caseFolded.key = table.key :=
  Text.lowercase_lowercase table.name

@[simp] theorem TableReference.sameRelation_caseFolded (table other : TableReference) :
    table.caseFolded.sameRelation other.caseFolded = table.sameRelation other := by
  simp only [sameRelation, key_caseFolded]

end Lineage

namespace Flow

open Lineage (Query TableReference JoinClause ParsedScript)

variable {scopes : CteScopes} {index : Nat} {script : ParsedScript}

/-! ### Relations -/

@[simp] theorem keyFor_caseFolded (table : TableReference) :
    scopes.keyFor index table.caseFolded = scopes.keyFor index table :=
  CteScopes.keyFor_congr table.key_caseFolded rfl

@[simp] theorem declaration_caseFolded (query : Query) :
    scopes.declaration index query.caseFolded = scopes.declaration index query := by
  simp only [CteScopes.declaration, Query.caseFolded, Text.lowercase_lowercase]

theorem CteScopes.Progress.add_caseFolded (progress : Progress) (query : Query) :
    progress.add query.caseFolded = progress.add query := by
  have nodeName : progress.nodeName query.caseFolded = progress.nodeName query := by
    simp only [Progress.nodeName, Query.caseFolded, Text.lowercase_lowercase, Text.isEmpty_lowercase]
  have name : lowercase query.caseFolded.name = lowercase query.name :=
    Text.lowercase_lowercase query.name
  rw [Progress.add, Progress.add, nodeName, name]
  rfl

/-- The statements of queries and the node names of their declarations do not depend on letter case. -/
@[simp] theorem ofScript_caseFolded (script : ParsedScript) :
    CteScopes.ofScript script.caseFolded = .ofScript script := by
  simp only [CteScopes.ofScript, ParsedScript.caseFolded, List.foldl_map,
    CteScopes.Progress.add_caseFolded]

theorem namesTable_caseFolded (qualifier : String) (table : TableReference) :
    namesTable qualifier table.caseFolded = namesTable qualifier table := by
  have aliases : table.caseFolded.aliasName.map lowercase = table.aliasName.map lowercase := by
    simp only [TableReference.caseFolded, Option.map_map]
    have folds : lowercase ∘ lowercase = lowercase := funext Text.lowercase_lowercase
    rw [folds]
  simp only [namesTable, aliases, TableReference.key_caseFolded]

/-- Whether a join is on a key does not depend on the letter case of the names of its sides. -/
@[simp] theorem isKeyedJoin_caseFolded (join : JoinClause) :
    isKeyedJoin join.caseFolded = isKeyedJoin join := by
  simp only [isKeyedJoin, isKeyedCondition, columnOf?, JoinClause.caseFolded, namesTable_caseFolded]

/-! ### Profiles -/

def TableProfile.caseFolded (profile : TableProfile) : TableProfile :=
  { profile with name := lowercase profile.name, label := lowercase profile.label }

def Profiles.caseFolded (profiles : Profiles) : Profiles :=
  profiles.map fun entry => (entry.1, entry.2.caseFolded)

namespace Profiles

theorem contains_caseFolded (profiles : Profiles) (key : RelationKey) :
    profiles.caseFolded.contains key = profiles.contains key := by
  simp only [contains, caseFolded, List.any_map]
  rfl

theorem get?_caseFolded (profiles : Profiles) (key : RelationKey) :
    profiles.caseFolded.get? key = (profiles.get? key).map TableProfile.caseFolded := by
  unfold get? caseFolded
  induction profiles with
  | nil => rfl
  | cons entry rest ih =>
      rw [List.map_cons, List.lookup_cons, List.lookup_cons, ih]
      split <;> rfl

theorem insertNew_caseFolded (profiles : Profiles) (key : RelationKey) (profile : TableProfile) :
    profiles.caseFolded.insertNew key profile.caseFolded = (profiles.insertNew key profile).caseFolded := by
  rw [insertNew, insertNew, contains_caseFolded]
  split
  · rfl
  · rw [caseFolded, caseFolded, List.map_append]
    rfl

/-- A change that does not look at names is the same for names in lower case. -/
theorem modify_caseFolded {change : TableProfile → TableProfile}
    (commutes : ∀ profile, change profile.caseFolded = (change profile).caseFolded) (key : RelationKey)
    (profiles : Profiles) :
    profiles.caseFolded.modify key change = (profiles.modify key change).caseFolded := by
  simp only [modify, caseFolded, List.map_map]
  apply List.map_congr_left
  intro entry _
  simp only [Function.comp, commutes]
  split <;> rfl

end Profiles

theorem TableProfile.addPartner_caseFolded (partner : RelationKey) (profile : TableProfile) :
    profile.caseFolded.addPartner partner = (profile.addPartner partner).caseFolded := by
  by_cases known : profile.partners.contains partner = true
  · rw [addPartner, addPartner, if_pos known]
    exact if_pos known
  · rw [addPartner, addPartner, if_neg known]
    exact if_neg known

theorem references_caseFolded :
    references script.caseFolded scopes =
      (references script scopes).map fun entry => (entry.1, entry.2.caseFolded) := by
  simp only [references, ParsedScript.caseFolded, List.zipIdx_map, List.flatMap_map, List.map_flatMap,
    List.map_map]
  apply List.flatMap_congr
  intro entry _
  simp only [Prod.map, Query.caseFolded, List.map_map, Function.comp_def, keyFor_caseFolded, id]

theorem readRelations_caseFolded :
    readRelations script.caseFolded scopes = (readRelations script scopes).caseFolded := by
  have step : ∀ (profiles : Profiles) (entry : RelationKey × TableReference),
      noteRead profiles.caseFolded (entry.1, entry.2.caseFolded) = (noteRead profiles entry).caseFolded :=
    fun profiles entry => profiles.insertNew_caseFolded entry.1
      { name := entry.2.name, label := entry.2.name, isCte := entry.1.isCte }
  rw [readRelations_eq, readRelations_eq, references_caseFolded, List.foldl_map]
  show List.foldl (fun profiles entry => noteRead profiles (entry.1, entry.2.caseFolded))
    (Profiles.caseFolded []) (references script scopes) = _
  apply List.foldl_hom Profiles.caseFolded
  exact step

theorem subqueryOf?_caseFolded (name : String) :
    subqueryOf? script.caseFolded name = (subqueryOf? script name).map Query.caseFolded := by
  simp only [subqueryOf?, ParsedScript.caseFolded, List.find?_map, Function.comp_def, Query.caseFolded,
    Text.lowercase_lowercase]

theorem isWritten_caseFolded (name : String) :
    isWritten script.caseFolded name = isWritten script name := by
  simp only [isWritten, ParsedScript.caseFolded, List.any_map, Function.comp_def, Query.caseFolded,
    Text.lowercase_lowercase]

theorem describeOrigin_caseFolded (key : RelationKey) (profile : TableProfile) :
    describeOrigin script.caseFolded key profile.caseFolded =
      (describeOrigin script key profile).caseFolded := by
  cases key with
  | cte name => rfl
  | table name =>
      simp only [describeOrigin, subqueryOf?_caseFolded, isWritten_caseFolded]
      cases subqueryOf? script name <;> rfl

theorem countJoin_caseFolded (profiles : Profiles) (left right : RelationKey) (join : JoinClause) :
    countJoin profiles.caseFolded left right join.caseFolded =
      (countJoin profiles left right join).caseFolded := by
  rw [countJoin, countJoin, isKeyedJoin_caseFolded]
  split
  · rfl
  · have leftSide : profiles.caseFolded.modify left (fun profile =>
          { profile with primaryJoins := profile.primaryJoins + 1 }.addPartner right) =
        (profiles.modify left fun profile =>
          { profile with primaryJoins := profile.primaryJoins + 1 }.addPartner right).caseFolded := by
      apply Profiles.modify_caseFolded
      intro profile
      exact TableProfile.addPartner_caseFolded right
        { profile with primaryJoins := profile.primaryJoins + 1 }
    rw [leftSide]
    apply Profiles.modify_caseFolded
    intro profile
    exact TableProfile.addPartner_caseFolded left
      { profile with keyedJoins := profile.keyedJoins + if isKeyedJoin join then 1 else 0 }

theorem joinsOf_caseFolded :
    joinsOf script.caseFolded scopes =
      (joinsOf script scopes).map fun entry => (entry.1, entry.2.1, entry.2.2.caseFolded) := by
  simp only [joinsOf, ParsedScript.caseFolded, List.zipIdx_map, List.flatMap_map, List.map_flatMap,
    List.map_map]
  apply List.flatMap_congr
  intro entry _
  simp only [Prod.map, Query.caseFolded, List.map_map, Function.comp_def, JoinClause.caseFolded,
    keyFor_caseFolded, id]

/-- Profiles count the same, and show the names in lower case. -/
theorem profileTables_caseFolded (script : ParsedScript) (scopes : CteScopes) :
    profileTables script.caseFolded scopes = (profileTables script scopes).caseFolded := by
  have described : (readRelations script.caseFolded scopes).map
        (fun entry => (entry.1, describeOrigin script.caseFolded entry.1 entry.2)) =
      Profiles.caseFolded ((readRelations script scopes).map
        fun entry => (entry.1, describeOrigin script entry.1 entry.2)) := by
    simp only [readRelations_caseFolded, Profiles.caseFolded, List.map_map, Function.comp_def,
      describeOrigin_caseFolded]
  have step : ∀ (profiles : Profiles) (entry : RelationKey × RelationKey × JoinClause),
      noteJoin profiles.caseFolded (entry.1, entry.2.1, entry.2.2.caseFolded) =
        (noteJoin profiles entry).caseFolded :=
    fun profiles entry => countJoin_caseFolded profiles entry.1 entry.2.1 entry.2.2
  rw [profileTables_eq, profileTables_eq, described, joinsOf_caseFolded, List.foldl_map]
  apply List.foldl_hom Profiles.caseFolded
  exact step

/-- The built-in rules do not look at the letter case of names. -/
theorem Classifier.classify_caseFolded (options : ClassificationOptions) (profile : TableProfile) :
    (ofOptions options).classify profile.caseFolded = (ofOptions options).classify profile := by
  have base : profile.caseFolded.base = profile.base := by
    rw [TableProfile.base, TableProfile.key, TableProfile.caseFolded, Text.lowercase_lowercase]
    rfl
  have naming : ∀ name role starts endings,
      (RoleRule.naming name role starts endings).role? profile.caseFolded =
        (RoleRule.naming name role starts endings).role? profile := by
    intro name role starts endings
    simp only [RoleRule.naming, RoleRule.ofTest, base]
  simp only [classify, ofOptions, List.findSome?_cons, naming]
  rfl

/-! ### Nodes -/

def Relations.caseFolded (relations : Relations) : Relations :=
  { relations with profiles := relations.profiles.caseFolded }

/-- Under the built-in rules a relation has one role, whatever the letter case of names. -/
theorem Relations.ofScript_caseFolded (options : ClassificationOptions) (script : ParsedScript) :
    ofScript (.ofOptions options) script.caseFolded =
      (ofScript (.ofOptions options) script).caseFolded := by
  simp only [ofScript, caseFolded, Flow.ofScript_caseFolded, profileTables_caseFolded,
    Profiles.caseFolded, List.map_map, Function.comp_def, Classifier.classify_caseFolded]

/-- The node with its label and the id of its query in lower case. -/
def NodeDraft.caseFolded (node : NodeDraft) : NodeDraft :=
  { node with label := lowercase node.label, queryId := node.queryId.map lowercase }

variable {relations : Relations}

theorem nodeOf_caseFolded (table : TableReference) :
    (relations.caseFolded.nodeOf index table.caseFolded).caseFolded =
      (relations.nodeOf index table).caseFolded := by
  have label : lowercase (((relations.caseFolded.profiles.get? (relations.scopes.keyFor index table)).map
        TableProfile.label).getD table.caseFolded.name) =
      lowercase (((relations.profiles.get? (relations.scopes.keyFor index table)).map
        TableProfile.label).getD table.name) := by
    rw [Relations.caseFolded, Profiles.get?_caseFolded]
    cases relations.profiles.get? (relations.scopes.keyFor index table) with
    | none => exact Text.lowercase_lowercase table.name
    | some profile => exact Text.lowercase_lowercase profile.label
  rw [Relations.nodeOf, Relations.nodeOf, keyFor_caseFolded, Relations.node, Relations.node,
    NodeDraft.caseFolded, NodeDraft.caseFolded, NodeDraft.mk.injEq]
  exact ⟨rfl, label, rfl, rfl⟩

theorem id_nodeOf_caseFolded (table : TableReference) :
    (relations.caseFolded.nodeOf index table.caseFolded).id = (relations.nodeOf index table).id := by
  have same : (relations.caseFolded.nodeOf index table.caseFolded).caseFolded =
      (relations.nodeOf index table).caseFolded := nodeOf_caseFolded table
  have ids := congrArg NodeDraft.id same
  exact ids

theorem joinId_caseFolded (query : Query) (position : Nat) :
    joinId query.caseFolded position = joinId query position := by
  rw [joinId, joinId, nodeId_inj, Text.lowercase_numbered, Text.lowercase_numbered, Query.caseFolded,
    Text.lowercase_lowercase]
  exact ⟨rfl, rfl⟩

theorem joinNode_caseFolded (query : Query) (position : Nat) (join : JoinClause) :
    (joinNode query.caseFolded position join.caseFolded).caseFolded =
      (joinNode query position join).caseFolded := by
  rw [NodeDraft.caseFolded, NodeDraft.caseFolded, NodeDraft.mk.injEq]
  refine ⟨joinId_caseFolded query position, rfl, rfl, ?_⟩
  exact congrArg some (Text.lowercase_lowercase query.id)

theorem targetNode_caseFolded (query : Query) (role : NodeRole) {name otherName label otherLabel : String}
    (sameName : lowercase name = lowercase otherName) (sameLabel : lowercase label = lowercase otherLabel) :
    (targetNode query.caseFolded role name label).caseFolded =
      (targetNode query role otherName otherLabel).caseFolded := by
  rw [NodeDraft.caseFolded, NodeDraft.caseFolded, NodeDraft.mk.injEq]
  refine ⟨nodeId_inj.mpr ⟨rfl, sameName⟩, sameLabel, rfl, ?_⟩
  exact congrArg some (Text.lowercase_lowercase query.id)

theorem targetNodes_caseFolded (options : LayoutOptions) (query : Query) :
    (targetNodes options scopes index query.caseFolded).map NodeDraft.caseFolded =
      (targetNodes options scopes index query).map NodeDraft.caseFolded := by
  have outputs : query.caseFolded.outputs.isEmpty = query.outputs.isEmpty := List.isEmpty_map
  have written : (query.caseFolded.outputs.map fun output =>
        targetNode query.caseFolded .output output output).map NodeDraft.caseFolded =
      (query.outputs.map fun output => targetNode query .output output output).map
        NodeDraft.caseFolded := by
    have outputs : query.caseFolded.outputs = query.outputs.map lowercase := rfl
    rw [outputs, List.map_map, List.map_map, List.map_map]
    apply List.map_congr_left
    intro output _
    apply targetNode_caseFolded
    · exact Text.lowercase_lowercase output
    · exact Text.lowercase_lowercase output
  have id : lowercase query.caseFolded.id = lowercase query.id := Text.lowercase_lowercase query.id
  have name : lowercase query.caseFolded.name = lowercase query.name :=
    Text.lowercase_lowercase query.name
  unfold targetNodes
  rw [outputs, declaration_caseFolded]
  show List.map _ (if query.isCte then _ else if query.isSubQuery then _ else _) = _
  split
  · rw [List.map_singleton, List.map_singleton, targetNode_caseFolded query .cte rfl name]
  · split
    · rw [List.map_singleton, List.map_singleton, targetNode_caseFolded query .tempTable id name]
    · split
      · split
        · rw [List.map_singleton, List.map_singleton, targetNode_caseFolded query .output id rfl]
        · rfl
      · exact written

theorem targetIds_caseFolded (options : LayoutOptions) (query : Query) :
    targetIds options scopes index query.caseFolded = targetIds options scopes index query := by
  have ids : ∀ nodes : List NodeDraft,
      (nodes.map NodeDraft.caseFolded).map NodeDraft.id = nodes.map NodeDraft.id := by
    intro nodes
    rw [List.map_map]
    rfl
  rw [targetIds, targetIds, ← ids, targetNodes_caseFolded, ids]

theorem continuesChain_caseFolded (join next : JoinClause) :
    continuesChain join.caseFolded next.caseFolded = continuesChain join next := by
  rw [continuesChain, continuesChain]
  exact join.left.sameRelation_caseFolded next.left

theorem continues_caseFolded (previous : Option JoinClause) (join : JoinClause) :
    continues (previous.map JoinClause.caseFolded) join.caseFolded = continues previous join := by
  cases previous with
  | none => simp only [continues, Option.map_none]
  | some before => simp only [continues, Option.map_some, continuesChain_caseFolded]

theorem endsChain_caseFolded (join : JoinClause) (rest : List JoinClause) :
    endsChain join.caseFolded (rest.map JoinClause.caseFolded) = endsChain join rest := by
  cases rest with
  | nil => simp only [endsChain, List.map_nil, List.head?_nil, Option.map_none]
  | cons next _ =>
      simp only [endsChain, List.map_cons, List.head?_cons, Option.map_some, continuesChain_caseFolded]

theorem sideNodes_caseFolded (previous : Option JoinClause) (joins : List JoinClause) :
    (sideNodes relations.caseFolded index (previous.map JoinClause.caseFolded)
        (joins.map JoinClause.caseFolded)).map NodeDraft.caseFolded =
      (sideNodes relations index previous joins).map NodeDraft.caseFolded := by
  induction joins generalizing previous with
  | nil => rfl
  | cons join rest ih =>
      have behind := ih (some join)
      rw [Option.map_some] at behind
      rw [List.map_cons, sideNodes_cons, sideNodes_cons, continues_caseFolded, List.map_append,
        List.map_append, List.map_cons, List.map_cons, behind]
      have right : (relations.caseFolded.nodeOf index join.caseFolded.right).caseFolded =
          (relations.nodeOf index join.right).caseFolded := nodeOf_caseFolded join.right
      have left : (relations.caseFolded.nodeOf index join.caseFolded.left).caseFolded =
          (relations.nodeOf index join.left).caseFolded := nodeOf_caseFolded join.left
      rw [right]
      split
      · rfl
      · rw [List.map_singleton, List.map_singleton, left]

theorem queryNodes_caseFolded (options : LayoutOptions) (query : Query) :
    (queryNodes options relations.caseFolded query.caseFolded index).map NodeDraft.caseFolded =
      (queryNodes options relations query index).map NodeDraft.caseFolded := by
  have tables : (query.caseFolded.tables.map (relations.caseFolded.nodeOf index)).map
      NodeDraft.caseFolded = (query.tables.map (relations.nodeOf index)).map NodeDraft.caseFolded := by
    simp only [Query.caseFolded, List.map_map, Function.comp_def, nodeOf_caseFolded]
  have joins : (query.caseFolded.joins.mapIdx (joinNode query.caseFolded)).map NodeDraft.caseFolded =
      (query.joins.mapIdx (joinNode query)).map NodeDraft.caseFolded := by
    have shape : query.caseFolded.joins = query.joins.map JoinClause.caseFolded := rfl
    rw [shape, List.mapIdx_eq_zipIdx_map, List.zipIdx_map, List.mapIdx_eq_zipIdx_map]
    simp only [List.map_map, Function.comp_def, Prod.map, id, joinNode_caseFolded]
  have sides : (sideNodes relations.caseFolded index none query.caseFolded.joins).map
      NodeDraft.caseFolded = (sideNodes relations index none query.joins).map NodeDraft.caseFolded :=
    sideNodes_caseFolded none query.joins
  have targets : (targetNodes options relations.caseFolded.scopes index query.caseFolded).map
      NodeDraft.caseFolded =
        (targetNodes options relations.scopes index query).map NodeDraft.caseFolded :=
    targetNodes_caseFolded options query
  simp only [queryNodes, List.map_append, tables, joins, targets, sides]

/-! ### Edges -/

theorem joinEdges_caseFolded (query : Query) (targets : List String) (position : Nat)
    (previous : Option JoinClause) (joins : List JoinClause) :
    joinEdges relations.caseFolded index query.caseFolded targets position
        (previous.map JoinClause.caseFolded) (joins.map JoinClause.caseFolded) =
      joinEdges relations index query targets position previous joins := by
  induction joins generalizing position previous with
  | nil => rfl
  | cons join rest ih =>
      have behind := ih (position + 1) (some join)
      rw [Option.map_some] at behind
      have left : (relations.caseFolded.nodeOf index join.caseFolded.left).id =
          (relations.nodeOf index join.left).id := id_nodeOf_caseFolded join.left
      have right : (relations.caseFolded.nodeOf index join.caseFolded.right).id =
          (relations.nodeOf index join.right).id := id_nodeOf_caseFolded join.right
      simp only [List.map_cons, joinEdges_cons, continues_caseFolded, endsChain_caseFolded,
        joinId_caseFolded, left, right, behind]

theorem firstReferences_caseFolded (found tables : List TableReference) :
    firstReferences scopes index (found.map TableReference.caseFolded)
        (tables.map TableReference.caseFolded) =
      (firstReferences scopes index found tables).map TableReference.caseFolded := by
  unfold firstReferences
  induction tables generalizing found with
  | nil => rfl
  | cons table rest ih =>
      rw [List.map_cons, List.foldl_cons, List.foldl_cons, ← ih]
      congr 1
      simp only [List.any_map, Function.comp_def, keyFor_caseFolded]
      split
      · rfl
      · rw [List.map_append, List.map_singleton]

theorem unjoinedTables_caseFolded (query : Query) :
    unjoinedTables scopes index query.caseFolded =
      (unjoinedTables scopes index query).map TableReference.caseFolded := by
  have firsts : firstReferences scopes index [] query.caseFolded.tables =
      (firstReferences scopes index [] query.tables).map TableReference.caseFolded :=
    firstReferences_caseFolded [] query.tables
  have joined : joinedKeys scopes index query.caseFolded = joinedKeys scopes index query := by
    simp only [joinedKeys, Query.caseFolded, List.flatMap_map, JoinClause.caseFolded, keyFor_caseFolded]
  rw [unjoinedTables_eq, unjoinedTables_eq, firsts, joined, List.filter_map]
  simp only [Function.comp_def, keyFor_caseFolded]

theorem queryEdges_caseFolded (options : LayoutOptions) (query : Query) :
    queryEdges options relations.caseFolded query.caseFolded index =
      queryEdges options relations query index := by
  have targets : targetIds options relations.caseFolded.scopes index query.caseFolded =
      targetIds options relations.scopes index query := targetIds_caseFolded options query
  have joins : ∀ ids, joinEdges relations.caseFolded index query.caseFolded ids 0 none
      query.caseFolded.joins = joinEdges relations index query ids 0 none query.joins :=
    fun ids => joinEdges_caseFolded query ids 0 none query.joins
  have unjoined : unjoinedTables relations.caseFolded.scopes index query.caseFolded =
      (unjoinedTables relations.scopes index query).map TableReference.caseFolded :=
    unjoinedTables_caseFolded query
  simp only [queryEdges, tableEdges, targets, joins, unjoined, List.flatMap_map, id_nodeOf_caseFolded]

end Flow

end SqlLineage

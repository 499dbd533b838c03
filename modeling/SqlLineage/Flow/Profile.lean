/-
Module: SqlLineage.Flow.Profile
Purpose: What a script shows about each relation it reads: how it is named, whether the script makes or
  writes it, and how it is joined.
Main exports: TableProfile, Profiles, profileTables
-/
import SqlLineage.Flow.KeyedJoin
import SqlLineage.Flow.Relation

namespace SqlLineage.Flow

open Lineage (Query TableReference JoinClause ParsedScript)

/-- What is known of one relation. -/
structure TableProfile where
  /-- The name as first written. -/
  name : String := ""
  /-- The name to show, which for a derived table is its alias. -/
  label : String := ""
  isCte : Bool := false
  /-- Whether the relation stands for a subquery of the script. -/
  isDerived : Bool := false
  /-- Whether some query of the script writes the relation. -/
  isWritten : Bool := false
  /-- The number of joins of which this relation is the left side. -/
  primaryJoins : Nat := 0
  /-- The number of joins on a key of this relation as their right side. -/
  keyedJoins : Nat := 0
  /-- The relations joined with this one, each once. -/
  partners : List RelationKey := []
deriving Repr, Inhabited, DecidableEq

namespace TableProfile

/-- The case-folded name. -/
def key (profile : TableProfile) : String := Text.lowercase profile.name

/-- The case-folded name without its schema. -/
def base (profile : TableProfile) : String := baseName profile.key

/-- Notes a relation joined with this one. -/
def addPartner (partner : RelationKey) (profile : TableProfile) : TableProfile :=
  if profile.partners.contains partner then profile
  else { profile with partners := profile.partners ++ [partner] }

end TableProfile

/-- The profiles of the relations of a script, in order of first appearance. -/
abbrev Profiles := List (RelationKey × TableProfile)

namespace Profiles

/-- The profile of a relation. -/
def get? (profiles : Profiles) (key : RelationKey) : Option TableProfile := profiles.lookup key

def contains (profiles : Profiles) (key : RelationKey) : Bool := profiles.any (·.1 == key)

/-- Changes the profile of a relation, if there is one. -/
def modify (key : RelationKey) (change : TableProfile → TableProfile) (profiles : Profiles) :
    Profiles :=
  profiles.map fun entry => if entry.1 = key then (entry.1, change entry.2) else entry

/-- Adds the profile of a relation, unless there is one. -/
def insertNew (key : RelationKey) (profile : TableProfile) (profiles : Profiles) : Profiles :=
  if profiles.contains key then profiles else profiles ++ [(key, profile)]

theorem keys_modify (key : RelationKey) (change : TableProfile → TableProfile)
    (profiles : Profiles) : (profiles.modify key change).map (·.1) = profiles.map (·.1) := by
  simp only [modify, List.map_map]
  congr 1
  funext entry
  simp only [Function.comp]
  split <;> rfl

end Profiles

/-- The references to relations with the relation that each denotes, in order. -/
def references (script : ParsedScript) (scopes : CteScopes) : List (RelationKey × TableReference) :=
  script.queries.zipIdx.flatMap fun (query, index) =>
    query.tables.map fun table => (scopes.keyFor index table, table)

/-- The relations that some query reads, each with the name by which it is read first. -/
def readRelations (script : ParsedScript) (scopes : CteScopes) : Profiles :=
  (references script scopes).foldl
    (fun profiles (key, table) =>
      profiles.insertNew key { name := table.name, label := table.name, isCte := key.isCte })
    []

/-- The first subquery of this case-folded id. -/
def subqueryOf? (script : ParsedScript) (name : String) : Option Query :=
  script.queries.find? fun query => query.isSubQuery && Text.lowercase query.id == name

/-- Whether some query writes the relation of this case-folded name. -/
def isWritten (script : ParsedScript) (name : String) : Bool :=
  script.queries.any fun query => query.outputs.any fun output => Text.lowercase output == name

/-- Notes whether a relation is made or written by the script itself, which a common table expression
is not asked. -/
def describeOrigin (script : ParsedScript) (key : RelationKey) (profile : TableProfile) :
    TableProfile :=
  match key with
  | .cte _ => profile
  | .table name =>
    let written := { profile with isWritten := isWritten script name }
    match subqueryOf? script name with
    | some query => { written with isDerived := true, label := query.name }
    | none => written

/-- Counts one join, whose sides denote these relations, for both of them. A relation joined with
itself counts for nothing. -/
def countJoin (profiles : Profiles) (left right : RelationKey) (join : JoinClause) : Profiles :=
  if left = right then profiles
  else
    let counted := profiles.modify left fun profile =>
      { profile with primaryJoins := profile.primaryJoins + 1 }.addPartner right
    counted.modify right fun profile =>
      { profile with
        keyedJoins := profile.keyedJoins + if isKeyedJoin join then 1 else 0 }.addPartner left

/-- The joins of a script with the relations that their sides denote, in order. -/
def joinsOf (script : ParsedScript) (scopes : CteScopes) :
    List (RelationKey × RelationKey × JoinClause) :=
  script.queries.zipIdx.flatMap fun (query, index) =>
    query.joins.map fun join =>
      (scopes.keyFor index join.left, scopes.keyFor index join.right, join)

/-- The profiles of the relations that a script reads. -/
def profileTables (script : ParsedScript) (scopes : CteScopes) : Profiles :=
  let described := (readRelations script scopes).map fun (key, profile) =>
    (key, describeOrigin script key profile)
  (joinsOf script scopes).foldl
    (fun profiles (left, right, join) => countJoin profiles left right join) described

end SqlLineage.Flow

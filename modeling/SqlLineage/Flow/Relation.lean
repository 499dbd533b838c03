/-
Module: SqlLineage.Flow.Relation
Purpose: When two references denote the same relation. A reference to a common table expression stands
  for the declaration in its own statement; any other one stands for its case-folded name.
Main exports: RelationKey, CteScopes, CteScopes.ofScript, CteScopes.keyFor, CteScopes.declaration
-/
import SqlLineage.Lineage.ParsedScript

namespace SqlLineage.Flow

open Lineage (Query TableReference ParsedScript)

/-- The identity of a relation that a script reads. -/
inductive RelationKey where
  | table (name : String)
  | cte (name : String)
deriving Repr, Inhabited, DecidableEq

namespace RelationKey

/-- The name of the node that stands for the relation. -/
def name : RelationKey → String
  | table name => name
  | cte name => name

def isCte : RelationKey → Bool
  | table _ => false
  | cte _ => true

end RelationKey

/-- Which statement a query belongs to, and which node stands for a common table expression. -/
structure CteScopes where
  /-- The number of the statement of each query, by position. -/
  statements : List Nat := []
  /-- The node name for a statement number and a case-folded name. Of two entries the first counts. -/
  declared : List ((Nat × String) × String) := []
deriving Repr, Inhabited, DecidableEq

namespace CteScopes

/-- The scopes of the queries so far, with the number of the statement that the next query belongs to
and the node names that were given to a common table expression of that very name. -/
structure Progress where
  scopes : CteScopes := {}
  statement : Nat := 0
  claimed : List String := []
deriving Repr, Inhabited, DecidableEq

/-- The node name of a common table expression. The first one of a name keeps it; a later one is named
for its query, or for its statement if the query has no id. -/
def Progress.nodeName (progress : Progress) (query : Query) : String :=
  let name := Text.lowercase query.name
  if progress.claimed.contains name then
    if query.id.isEmpty then name ++ "@" ++ toString progress.statement
    else Text.lowercase query.id
  else name

/-- Takes the next query in. The queries of a statement end with its own one. -/
def Progress.add (progress : Progress) (query : Query) : Progress :=
  let name := Text.lowercase query.name
  { scopes := {
      statements := progress.scopes.statements ++ [progress.statement]
      declared :=
        if query.isCte then
          progress.scopes.declared ++ [((progress.statement, name), progress.nodeName query)]
        else progress.scopes.declared }
    statement :=
      if query.isStatementLevel then progress.statement + 1 else progress.statement
    claimed := if query.isCte then name :: progress.claimed else progress.claimed }

/-- The scopes of a script. -/
def ofScript (script : ParsedScript) : CteScopes :=
  (script.queries.foldl Progress.add {}).scopes

/-- The number of the statement of the query at this position. -/
def statementOf (scopes : CteScopes) (index : Nat) : Nat := scopes.statements.getD index 0

/-- The node name declared for a name by the latest of the statements up to this one that declares
it. -/
def declaredUpTo (scopes : CteScopes) (name : String) : Nat → Option String
  | 0 => scopes.declared.lookup (0, name)
  | statement + 1 =>
    (scopes.declared.lookup (statement + 1, name)).or (declaredUpTo scopes name statement)

/-- The relation that a reference of the query at this position denotes. A reference that is marked as
a common table expression may be to one of an earlier statement. -/
def keyFor (scopes : CteScopes) (index : Nat) (table : TableReference) : RelationKey :=
  if table.isCte then
    .cte ((scopes.declaredUpTo table.key (scopes.statementOf index)).getD table.key)
  else
    .table table.key

/-- The node name of the common table expression that the query at this position defines. -/
def declaration (scopes : CteScopes) (index : Nat) (query : Query) : String :=
  let name := Text.lowercase query.name
  (scopes.declared.lookup (scopes.statementOf index, name)).getD name

theorem keyFor_isCte (scopes : CteScopes) (index : Nat) (table : TableReference) :
    (scopes.keyFor index table).isCte = table.isCte := by
  unfold keyFor; split <;> simp_all [RelationKey.isCte]

theorem keyFor_of_not_isCte (scopes : CteScopes) (index : Nat) {table : TableReference}
    (plain : table.isCte = false) : scopes.keyFor index table = .table table.key := by
  simp [keyFor, plain]

end CteScopes

end SqlLineage.Flow

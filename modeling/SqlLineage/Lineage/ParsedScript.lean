/-
Module: SqlLineage.Lineage.ParsedScript
Purpose: The lineage of a whole script, put together from what its statements contribute.
Main exports: ParsedScript, StatementLineage, ParsedScript.ofStatements, markMain
-/
import SqlLineage.Lineage.Query

namespace SqlLineage.Lineage

/-- What one statement contributes. The queries that produce something stand before those that read
it, so the statement's own query is the last. -/
structure StatementLineage where
  ctes : List Cte := []
  queries : List Query := []
deriving Repr, Inhabited, DecidableEq

/-- The lineage of a script. Without queries nothing of the script was understood. -/
structure ParsedScript where
  ctes : List Cte := []
  queries : List Query := []
deriving Repr, Inhabited, DecidableEq

/-- Marks as main the last query of a statement's own, and no other; says whether there is one. -/
def markMainFrom : List Query → List Query × Bool
  | [] => ([], false)
  | query :: rest =>
    let tail := markMainFrom rest
    ({ query with isMain := !tail.2 && query.isStatementLevel } :: tail.1,
      tail.2 || query.isStatementLevel)

/-- Marks as main the last query of a statement's own, and no other. -/
def markMain (queries : List Query) : List Query := (markMainFrom queries).1

namespace ParsedScript

/-- The lineage of the statements one after the other. -/
def ofStatements (statements : List StatementLineage) : ParsedScript :=
  { ctes := statements.flatMap StatementLineage.ctes
    queries := markMain (statements.flatMap StatementLineage.queries) }

def isEmpty (script : ParsedScript) : Bool := script.queries.isEmpty

/-- The number of names among these, names that differ in case alone counted once. -/
def distinctNames (names : List String) : Nat := (names.map Text.lowercase).eraseDups.length

/-- The number of common table expressions by name. -/
def cteCount (script : ParsedScript) : Nat := distinctNames (script.ctes.map Cte.name)

/-- The number of relations by name that some query reads. -/
def tableCount (script : ParsedScript) : Nat :=
  distinctNames (script.queries.flatMap fun query => query.tables.map TableReference.name)

/-- The first query marked as main. -/
def mainQuery? (script : ParsedScript) : Option Query := script.queries.find? Query.isMain

end ParsedScript

end SqlLineage.Lineage

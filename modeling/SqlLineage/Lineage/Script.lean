/-
Module: SqlLineage.Lineage.Script
Purpose: The lineage of a script. Each statement that reads or writes relations is read by the grammar;
  one that is not in the grammar still gives the relations that its tokens show.
Main exports: rootQuery, statementLineage?, parseWith, parseScript
-/
import SqlLineage.Lineage.Collector
import SqlLineage.Script.RelationScan
import SqlLineage.Sql.Grammar.Statement

namespace SqlLineage.Lineage

/-- A statement's own query, before anything is known of what it reads. -/
def rootQuery (index : Nat) (kind : Script.StatementKind) : Query :=
  let id := "stmt_" ++ toString index
  match kind.target? with
  | some target => { id, name := target, outputs := [target], isTempTable := kind.isTempTable }
  | none => { id, name := "final query" }

/-- A query that reads the relations that a scan found. -/
def applyScan (scan : Script.RelationScan) (query : Query) : Query :=
  { scan.tables.foldl (fun query table => query.addTable table) query with
    joins := query.joins ++ scan.joins }

/-- What a statement contributes, with the query that it takes its rows from given by `read`. Without
such a query its tokens are scanned; a statement that shows no relation then is left out. -/
def statementLineage? (read : String → Option Sql.Query) (statement : Script.Statement) :
    Option StatementLineage := do
  let kind ← statement.kind?
  let root := rootQuery statement.index kind
  match read statement.normalized with
  | some tree => pure (collectStatement statement.index tree root)
  | none =>
    let query := applyScan statement.relations root
    if query.tables.isEmpty && query.outputs.isEmpty then none else pure { queries := [query] }

/-- The lineage of a script whose statements are read by `read`. -/
def parseWith (read : String → Option Sql.Query) (escapes : Script.QuoteEscapes) (script : String) :
    ParsedScript :=
  .ofStatements ((Script.Statement.split escapes script).filterMap (statementLineage? read))

/-- How a quote is written inside a literal of a dialect. -/
def escapesOf (dialect : Sql.Dialect) : Script.QuoteEscapes :=
  if dialect.backslashEscapes then .backslash else .doubled

/-- The lineage of a script in a dialect. -/
def parseScript (dialect : Sql.Dialect) (script : String) : ParsedScript :=
  parseWith (Sql.sourceQuery? dialect) (escapesOf dialect) script

end SqlLineage.Lineage

/-
Module: SqlLineage.Lineage.Document
Purpose: The JSON documents of the lineage of a script. Every field of a document may be missing and
  has a default, so that a partial document is read too.
Main exports: ParsedScript.toJson, ParsedScript.ofJson?, Query.toJson, Query.ofJson?
-/
import SqlLineage.Json.Record
import SqlLineage.Lineage.ParsedScript

namespace SqlLineage.Lineage

open Json (Fields record defaulted asString asBool asList asOption strings)

/-- A member that is left out when there is no value for it. -/
def optionalMember (name : String) : Option Json → List (String × Json)
  | some value => [(name, value)]
  | none => []

/-- A value that is written as one of a list of names. A name may also be the only member of an object, with
nothing as its value. -/
def asNamed (ofName? : String → Option α) : Json → Option α
  | .str name | .obj [(name, .null)] => ofName? name
  | _ => none

namespace TableReference

def fieldNames : List String := ["name", "schema", "alias", "isCTE"]

def toJson (table : TableReference) : Json :=
  .obj <| [("name", .str table.name)]
    ++ optionalMember "schema" (table.schema.map .str)
    ++ optionalMember "alias" (table.aliasName.map .str)
    ++ [("isCTE", .bool table.isCte)]

def ofJson? (document : Json) : Option TableReference := do
  let fields ← record fieldNames document
  let name ← defaulted asString "" "name" fields
  let schema ← defaulted (asOption asString) none "schema" fields
  let aliasName ← defaulted (asOption asString) none "alias" fields
  let isCte ← defaulted asBool false "isCTE" fields
  pure { name, schema, aliasName, isCte }

end TableReference

namespace JoinClause

def fieldNames : List String := ["left", "right", "kind", "condition"]

def toJson (join : JoinClause) : Json :=
  .obj [
    ("left", join.left.toJson),
    ("right", join.right.toJson),
    ("kind", .str join.kind.name),
    ("condition", .optional join.condition)]

def ofJson? (document : Json) : Option JoinClause := do
  let fields ← record fieldNames document
  let left ← defaulted TableReference.ofJson? {} "left" fields
  let right ← defaulted TableReference.ofJson? {} "right" fields
  let kind ← defaulted (asNamed JoinKind.ofName?) .inner "kind" fields
  let condition ← defaulted (asOption asString) none "condition" fields
  pure { left, right, kind, condition }

end JoinClause

namespace Field

def fieldNames : List String := ["expression", "alias", "transformation"]

def toJson (field : Field) : Json :=
  .obj <| [("expression", .str field.expression)]
    ++ optionalMember "alias" (field.aliasName.map .str)
    ++ [("transformation", .str field.transformation.name)]

def ofJson? (document : Json) : Option Field := do
  let fields ← record fieldNames document
  let expression ← defaulted asString "" "expression" fields
  let aliasName ← defaulted (asOption asString) none "alias" fields
  let transformation ←
    defaulted (asNamed Transformation.ofName?) .direct "transformation" fields
  pure { expression, aliasName, transformation }

end Field

namespace Filter

def fieldNames : List String := ["clause", "condition"]

def toJson (filter : Filter) : Json :=
  .obj [("clause", .str filter.clause), ("condition", .str filter.condition)]

def ofJson? (document : Json) : Option Filter := do
  let fields ← record fieldNames document
  let clause ← defaulted asString "" "clause" fields
  let condition ← defaulted asString "" "condition" fields
  pure { clause, condition }

end Filter

namespace UnionInfo

def fieldNames : List String := ["type", "sources"]

def toJson (info : UnionInfo) : Json :=
  .obj [("type", .str info.kind), ("sources", strings info.sources)]

def ofJson? (document : Json) : Option UnionInfo := do
  let fields ← record fieldNames document
  let kind ← defaulted asString "" "type" fields
  let sources ← defaulted (asList asString) [] "sources" fields
  pure { kind, sources }

end UnionInfo

namespace Query

def fieldNames : List String := [
  "id", "name", "tables", "joins", "outputs", "isMain", "isCTE", "isSubQuery", "isTempTable",
  "fields", "filters", "groupBy", "orderBy", "dependsOn", "unionInfo"]

def toJson (query : Query) : Json :=
  .obj <| [
    ("id", .str query.id),
    ("name", .str query.name),
    ("tables", .arr (query.tables.map TableReference.toJson)),
    ("joins", .arr (query.joins.map JoinClause.toJson)),
    ("outputs", strings query.outputs),
    ("isMain", .bool query.isMain),
    ("isCTE", .bool query.isCte),
    ("isSubQuery", .bool query.isSubQuery),
    ("isTempTable", .bool query.isTempTable),
    ("fields", .arr (query.fields.map Field.toJson)),
    ("filters", .arr (query.filters.map Filter.toJson)),
    ("groupBy", strings query.groupBy),
    ("orderBy", strings query.orderBy),
    ("dependsOn", strings query.dependsOn)]
    ++ optionalMember "unionInfo" (query.unionInfo.map UnionInfo.toJson)

def ofJson? (document : Json) : Option Query := do
  let given ← record fieldNames document
  let id ← defaulted asString "" "id" given
  let name ← defaulted asString "" "name" given
  let tables ← defaulted (asList TableReference.ofJson?) [] "tables" given
  let joins ← defaulted (asList JoinClause.ofJson?) [] "joins" given
  let outputs ← defaulted (asList asString) [] "outputs" given
  let isMain ← defaulted asBool false "isMain" given
  let isCte ← defaulted asBool false "isCTE" given
  let isSubQuery ← defaulted asBool false "isSubQuery" given
  let isTempTable ← defaulted asBool false "isTempTable" given
  let fields ← defaulted (asList Field.ofJson?) [] "fields" given
  let filters ← defaulted (asList Filter.ofJson?) [] "filters" given
  let groupBy ← defaulted (asList asString) [] "groupBy" given
  let orderBy ← defaulted (asList asString) [] "orderBy" given
  let dependsOn ← defaulted (asList asString) [] "dependsOn" given
  let unionInfo ← defaulted (asOption UnionInfo.ofJson?) none "unionInfo" given
  pure {
    id, name, tables, joins, outputs, isMain, isCte, isSubQuery, isTempTable, fields, filters,
    groupBy, orderBy, dependsOn, unionInfo }

end Query

namespace Cte

def fieldNames : List String := ["name", "definitionQuery"]

def toJson (cte : Cte) : Json :=
  .obj [("name", .str cte.name), ("definitionQuery", cte.definition.toJson)]

def ofJson? (document : Json) : Option Cte := do
  let fields ← record fieldNames document
  let name ← defaulted asString "" "name" fields
  let definition ← defaulted Query.ofJson? {} "definitionQuery" fields
  pure { name, definition }

end Cte

namespace ParsedScript

def fieldNames : List String := ["ctes", "allQueries"]

/-- The document of a script's lineage. -/
def toJson (script : ParsedScript) : Json :=
  .obj [
    ("ctes", .arr (script.ctes.map Cte.toJson)),
    ("allQueries", .arr (script.queries.map Query.toJson))]

/-- The lineage that a document holds. -/
def ofJson? (document : Json) : Option ParsedScript := do
  let fields ← record fieldNames document
  let ctes ← defaulted (asList Cte.ofJson?) [] "ctes" fields
  let queries ← defaulted (asList Query.ofJson?) [] "allQueries" fields
  pure { ctes, queries }

end ParsedScript

end SqlLineage.Lineage

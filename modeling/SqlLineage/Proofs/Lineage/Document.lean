/-
Module: SqlLineage.Proofs.Lineage.Document
Purpose: The document of a script's lineage tells the lineage, and so does any other that may stand for it:
  one that leaves out fields with their default values, or has members of unknown names.
Main exports: ParsedScript.Variant, ParsedScript.restores
-/
import SqlLineage.Lineage.Document
import SqlLineage.Proofs.Json.Variants

namespace SqlLineage.Lineage

open Json (RecordField RecordVariant OptionVariant Restores)

/-! ### Names -/

/-- What is written as one of a list of names is read if the names tell the values. -/
theorem restores_named {α : Type} {name : α → String} {ofName? : String → Option α}
    (ofName?_name : ∀ value, ofName? (name value) = some value) :
    Restores (asNamed ofName?) (fun value => .str (name value)) Eq :=
  .of_eq ofName?_name

/-! ### Relations -/

namespace TableReference

def recordFields : List (RecordField TableReference) :=
  [.text "name" name, .option "schema" schema Json.restores_optionalText,
    .option "alias" aliasName Json.restores_optionalText, .flag "isCTE" isCte]

def Variant : Json.Variant := RecordVariant (recordFields.map RecordField.member)

theorem restores : Restores ofJson? toJson Variant := by
  refine RecordField.restores_record (by decide) ?writes (fun _ => rfl) ?reads
  case writes =>
    rintro ⟨name, qualifier, aliasName, isCte⟩
    cases qualifier <;> cases aliasName <;> rfl
  case reads =>
    intro table given isRead
    simp [recordFields] at isRead
    simp [isRead]

end TableReference

namespace JoinClause

def recordFields : List (RecordField JoinClause) :=
  [.of "left" left {} TableReference.restores, .of "right" right {} TableReference.restores,
    .of "kind" kind .inner (restores_named JoinKind.ofName?_name), .nullableText "condition" condition]

def Variant : Json.Variant := RecordVariant (recordFields.map RecordField.member)

theorem restores : Restores ofJson? toJson Variant := by
  refine RecordField.restores_record (by decide) (fun _ => rfl) (fun _ => rfl) ?_
  intro join given isRead
  simp [recordFields] at isRead
  simp [isRead]

end JoinClause

/-! ### Parts of queries -/

namespace Field

def recordFields : List (RecordField Field) :=
  [.text "expression" expression, .option "alias" aliasName Json.restores_optionalText,
    .of "transformation" transformation .direct (restores_named Transformation.ofName?_name)]

def Variant : Json.Variant := RecordVariant (recordFields.map RecordField.member)

theorem restores : Restores ofJson? toJson Variant := by
  refine RecordField.restores_record (by decide) ?writes (fun _ => rfl) ?reads
  case writes =>
    rintro ⟨expression, aliasName, transformation⟩
    cases aliasName <;> rfl
  case reads =>
    intro field given isRead
    simp [recordFields] at isRead
    simp [isRead]

end Field

namespace Filter

def recordFields : List (RecordField Filter) := [.text "clause" clause, .text "condition" condition]

def Variant : Json.Variant := RecordVariant (recordFields.map RecordField.member)

theorem restores : Restores ofJson? toJson Variant := by
  refine RecordField.restores_record (by decide) (fun _ => rfl) (fun _ => rfl) ?_
  intro filter given isRead
  simp [recordFields] at isRead
  simp [isRead]

end Filter

namespace UnionInfo

def recordFields : List (RecordField UnionInfo) := [.text "type" kind, .texts "sources" sources]

def Variant : Json.Variant := RecordVariant (recordFields.map RecordField.member)

theorem restores : Restores ofJson? toJson Variant := by
  refine RecordField.restores_record (by decide) (fun _ => rfl) (fun _ => rfl) ?_
  intro info given isRead
  simp [recordFields] at isRead
  simp [isRead]

theorem restores_option : Restores (Json.asOption ofJson?) (fun info => (info.map toJson).getD .null)
    (OptionVariant Variant) := by
  apply restores.option rfl
  intro document stands
  cases stands

end UnionInfo

/-! ### Queries and scripts -/

namespace Query

def recordFields : List (RecordField Query) :=
  [.text "id" id, .text "name" name, .list "tables" tables TableReference.restores,
    .list "joins" joins JoinClause.restores, .texts "outputs" outputs, .flag "isMain" isMain,
    .flag "isCTE" isCte, .flag "isSubQuery" isSubQuery, .flag "isTempTable" isTempTable,
    .list "fields" fields Field.restores, .list "filters" filters Filter.restores,
    .texts "groupBy" groupBy, .texts "orderBy" orderBy, .texts "dependsOn" dependsOn,
    .option "unionInfo" unionInfo UnionInfo.restores_option]

def Variant : Json.Variant := RecordVariant (recordFields.map RecordField.member)

theorem restores : Restores ofJson? toJson Variant := by
  refine RecordField.restores_record (by decide) ?writes (fun _ => rfl) ?reads
  case writes =>
    rintro ⟨_, _, _, _, _, _, _, _, _, _, _, _, _, _, unionInfo⟩
    cases unionInfo <;> rfl
  case reads =>
    intro query given isRead
    simp [recordFields] at isRead
    simp [isRead]

end Query

namespace Cte

def recordFields : List (RecordField Cte) :=
  [.text "name" name, .of "definitionQuery" definition {} Query.restores]

def Variant : Json.Variant := RecordVariant (recordFields.map RecordField.member)

theorem restores : Restores ofJson? toJson Variant := by
  refine RecordField.restores_record (by decide) (fun _ => rfl) (fun _ => rfl) ?_
  intro cte given isRead
  simp [recordFields] at isRead
  simp [isRead]

end Cte

namespace ParsedScript

def recordFields : List (RecordField ParsedScript) :=
  [.list "ctes" ctes Cte.restores, .list "allQueries" queries Query.restores]

/-- What may stand for the document of a script's lineage, at whatever depth it differs. -/
def Variant : Json.Variant := RecordVariant (recordFields.map RecordField.member)

/-- The lineage of a script is read from its document and from whatever may stand for that. -/
theorem restores : Restores ofJson? toJson Variant := by
  refine RecordField.restores_record (by decide) (fun _ => rfl) (fun _ => rfl) ?_
  intro script given isRead
  simp [recordFields] at isRead
  simp [isRead]

end ParsedScript

/-- A document of a query that reads one table and joins it with a relation without a name. -/
def partialDocument : Json := .obj [("allQueries", .arr [.obj [
    ("tables", .arr [.obj [("name", .str "orders")]]), ("note", .null),
    ("joins", .arr [.obj [("kind", .str "LEFT")]])]])]

def partialScript : ParsedScript :=
  { queries := [{ tables := [{ name := "orders" }], joins := [{ kind := .left }] }] }

/-- What the document does not give has its default value in the lineage. -/
theorem variant_partialDocument : ParsedScript.Variant partialScript.toJson partialDocument := by
  have table : TableReference.Variant (TableReference.toJson { name := "orders" })
      (.obj [("name", .str "orders")]) := by
    refine .intro ⟨by decide, ?_, ?_⟩
    · simp [TableReference.recordFields]
    · simp [TableReference.recordFields, optionalMember, List.lookup_cons]
  have join : JoinClause.Variant (JoinClause.toJson { kind := .left }) (.obj [("kind", .str "LEFT")]) := by
    refine .intro ⟨by decide, ?_, ?_⟩
    · simp [JoinClause.recordFields, List.lookup_cons, JoinKind.name]
    · simp [JoinClause.recordFields, List.lookup_cons, Json.optional]
  have query : Query.Variant (Query.toJson { tables := [{ name := "orders" }], joins := [{ kind := .left }] })
      (.obj [("tables", .arr [.obj [("name", .str "orders")]]), ("note", .null),
        ("joins", .arr [.obj [("kind", .str "LEFT")]])]) := by
    refine .intro ⟨by decide, ?_, ?_⟩
    · simp [Query.recordFields, List.lookup_cons]
      exact ⟨.intro (.cons table .nil), .intro (.cons join .nil)⟩
    · simp [Query.recordFields, List.lookup_cons, Json.strings, optionalMember]
  refine .intro ⟨by decide, ?_, ?_⟩
  · simp [partialScript, ParsedScript.recordFields, List.lookup_cons]
    exact .intro (.cons query .nil)
  · simp [partialScript, ParsedScript.recordFields, List.lookup_cons]

end SqlLineage.Lineage

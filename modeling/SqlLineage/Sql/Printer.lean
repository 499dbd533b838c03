/-
Module: SqlLineage.Sql.Printer
Purpose: Writing a syntax tree out in its one normal form: keywords in upper case, one space between
  two words, names and literals in the quotes they have.
Main exports: Expr.render, Query.render, Part.renderAll, renderPath, renderNames
-/
import SqlLineage.Sql.Syntax
import SqlLineage.Text.Cut

namespace SqlLineage.Sql

open Text (joinWith)

/-- Texts with a comma between two of them. -/
def commas (texts : List String) : String := joinWith ", " texts

/-- A text after a blank, if there is one. -/
def spaced (text : String) : String := if text.isEmpty then "" else " " ++ text

/-- A name with its qualifiers, in their quotes. -/
def renderPath (path : List Ident) : String := joinWith "." (path.map Ident.render)

def renderNames (names : List Ident) : String := commas (names.map Ident.render)

def renderPaths (paths : List (List Ident)) : String := commas (paths.map renderPath)

def TableAlias.render (aliasName : TableAlias) : String :=
  aliasName.name.render
    ++ if aliasName.columns.isEmpty then "" else " (" ++ commas aliasName.columns ++ ")"

/-- The other name of a relation as it stands after it. -/
def renderAlias : Option TableAlias → String
  | none => ""
  | some aliasName => " AS " ++ aliasName.render

namespace JoinOperator

/-- The words of a join. -/
def keywords : JoinOperator → String
  | inner => "JOIN"
  | left => "LEFT JOIN"
  | right => "RIGHT JOIN"
  | full => "FULL JOIN"
  | cross => "CROSS JOIN"
  | semi => "SEMI JOIN"
  | leftSemi => "LEFT SEMI JOIN"
  | rightSemi => "RIGHT SEMI JOIN"
  | anti => "ANTI JOIN"
  | leftAnti => "LEFT ANTI JOIN"
  | rightAnti => "RIGHT ANTI JOIN"
  | crossApply => "CROSS APPLY"
  | outerApply => "OUTER APPLY"
  | asof _ => "ASOF JOIN"

/-- The condition on time, after the relation that is joined. -/
def renderMatching : JoinOperator → String
  | asof matching => " MATCH_CONDITION (" ++ matching ++ ")"
  | _ => ""

end JoinOperator

/-- The word before a join on all columns of one name. -/
def JoinConstraint.naturalWord : JoinConstraint → String
  | .natural => " NATURAL"
  | _ => ""

/-- The branches of a conditional, from the texts of its conditions and of its results. -/
def renderBranches (conditions results : List String) : String :=
  String.join <| (conditions.zip results).map fun (condition, result) =>
    " WHEN " ++ condition ++ " THEN " ++ result

/-- A clause that holds a list and is left out when that is empty. -/
def renderClause (words : String) (texts : List String) : String :=
  if texts.isEmpty then "" else words ++ commas texts

mutual

/-- The text of an expression. -/
def Expr.render : Expr → String
  | .column path => renderPath path
  | .nested inner => "(" ++ inner.render ++ ")"
  | .conditional operand conditions results otherwise =>
    "CASE" ++ Expr.renderAfter " " operand
      ++ renderBranches (Expr.renderList conditions) (Expr.renderList results)
      ++ Expr.renderAfter " ELSE " otherwise ++ " END"
  | .call name _ arguments ordering rest =>
    name ++ Part.renderAll arguments ++ Part.renderAll ordering ++ Part.renderAll rest
  | .braced call => "\x7bfn " ++ call.render ++ "\x7d"
  | .operation left operator right => left.render ++ " " ++ operator ++ " " ++ right.render
  | .phrase parts => Part.renderAll parts
  | .inverted lead principal => Part.renderAll lead ++ Part.renderAll principal

/-- The text of an expression after these words, if there is one. -/
def Expr.renderAfter (words : String) : Option Expr → String
  | none => ""
  | some expr => words ++ expr.render

def Expr.renderList : List Expr → List String
  | [] => []
  | expr :: rest => expr.render :: Expr.renderList rest

def Part.render : Part → String
  | .text text => text
  | .operand expr => expr.render
  | .query query => query.render

/-- The pieces one after the other. -/
def Part.renderAll : List Part → String
  | [] => ""
  | part :: rest => part.render ++ Part.renderAll rest

/-- The text of a query. -/
def Query.render : Query → String
  | ⟨isRecursive, ctes, body, orderBy, tail⟩ =>
    (if ctes.isEmpty then ""
      else renderClause (if isRecursive then "WITH RECURSIVE " else "WITH ") (Cte.renderList ctes)
        ++ " ")
      ++ body.render ++ renderClause " ORDER BY " orderBy ++ spaced tail

/-- The text of a query after a blank, if there is one. -/
def Query.renderAfter : Option Query → String
  | none => ""
  | some query => " " ++ query.render

def Cte.render : Cte → String
  | ⟨aliasName, materialized, query, origin⟩ =>
    aliasName.render ++ " AS" ++ spaced materialized ++ " (" ++ query.render ++ ")"
      ++ match origin with
        | none => ""
        | some name => " FROM " ++ name.render

def Cte.renderList : List Cte → List String
  | [] => []
  | cte :: rest => cte.render :: Cte.renderList rest

def QueryBody.render : QueryBody → String
  | .select select => select.render
  | .nested query => "(" ++ query.render ++ ")"
  | .combined operator quantifier left right =>
    left.render ++ " " ++ operator.keyword ++ spaced quantifier ++ " " ++ right.render
  | .write head source tail => head ++ Query.renderAfter source ++ spaced tail
  | .rows text => text

def Select.render : Select → String
  | ⟨head, items, destination, tables, views, condition, groupBy, grouping, having, tail⟩ =>
    "SELECT" ++ spaced head ++ spaced (commas (SelectItem.renderList items)) ++ spaced destination
      ++ renderClause " FROM " (JoinedTables.renderList tables)
      ++ spaced views
      ++ Expr.renderAfter " WHERE " condition
      ++ renderClause " GROUP BY " groupBy
      ++ spaced grouping
      ++ Expr.renderAfter " HAVING " having
      ++ spaced tail

def SelectItem.render : SelectItem → String
  | .value expr none => expr.render
  | .value expr (some aliasName) => expr.render ++ " AS " ++ aliasName.render
  | .wildcard text => text

def SelectItem.renderList : List SelectItem → List String
  | [] => []
  | item :: rest => item.render :: SelectItem.renderList rest

def JoinedTables.render : JoinedTables → String
  | ⟨relation, joins⟩ => relation.render ++ Join.renderAll joins

def JoinedTables.renderList : List JoinedTables → List String
  | [] => []
  | joined :: rest => joined.render :: JoinedTables.renderList rest

def TableFactor.render : TableFactor → String
  | .table name arguments aliasName options =>
    renderPath name ++ arguments ++ renderAlias aliasName ++ spaced options
  | .derived isLateral query aliasName =>
    (if isLateral then "LATERAL " else "") ++ "(" ++ query.render ++ ")" ++ renderAlias aliasName
  | .nested inner aliasName => "(" ++ inner.render ++ ")" ++ renderAlias aliasName
  | .other text aliasName options => text ++ renderAlias aliasName ++ spaced options

def Join.render : Join → String
  | ⟨isGlobal, operator, relation, constraint⟩ =>
    (if isGlobal then " GLOBAL" else "") ++ constraint.naturalWord ++ " " ++ operator.keywords ++ " "
      ++ relation.render ++ operator.renderMatching ++ constraint.render

def JoinConstraint.render : JoinConstraint → String
  | .on condition => " ON " ++ condition.render
  | .using columns => " USING(" ++ renderPaths columns ++ ")"
  | .natural => ""
  | .none => ""

def Join.renderAll : List Join → String
  | [] => ""
  | join :: rest => join.render ++ Join.renderAll rest

end

end SqlLineage.Sql

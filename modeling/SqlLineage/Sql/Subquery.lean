/-
Module: SqlLineage.Sql.Subquery
Purpose: The search for the queries that are nested in an expression. It goes through all of the tree, and
  through the queries in it as well; it counts in how many of them it is, and finds a query that is in no
  other one. So it finds the outermost queries, in order.
Main exports: Finder, Expr.search, Expr.outermost, Expr.outermost_eq_queries
-/
import SqlLineage.Sql.Syntax

namespace SqlLineage.Sql

/-- How far the search has come. -/
structure Finder where
  /-- In how many queries the search is. -/
  depth : Nat := 0
  found : List Query := []

namespace Finder

/-- The search comes to a query, which is found if it is in no other one. -/
def enter (query : Query) (finder : Finder) : Finder :=
  { depth := finder.depth + 1
    found := if finder.depth = 0 then finder.found ++ [query] else finder.found }

/-- The search comes to the end of a query. -/
def leave (finder : Finder) : Finder := { finder with depth := finder.depth - 1 }

/-- The search has found these queries as well. -/
def add (queries : List Query) (finder : Finder) : Finder :=
  { finder with found := finder.found ++ queries }

@[simp] theorem add_nil (finder : Finder) : finder.add [] = finder := by
  simp [add]

theorem add_add (first second : List Query) (finder : Finder) :
    (finder.add first).add second = finder.add (first ++ second) := by
  simp [add]

/-- A query inside another one is not found. -/
theorem leave_enter_of_inside (query : Query) {finder : Finder} (inside : finder.depth ≠ 0) :
    (finder.enter query).leave = finder := by
  simp [enter, leave, inside]

/-- A query that is in no other one is found. -/
theorem leave_enter_of_outside (query : Query) {finder : Finder} (outside : finder.depth = 0) :
    (finder.enter query).leave = finder.add [query] := by
  simp [enter, leave, add, outside]

/-- What is found does not change where the search is. -/
theorem outside_add {queries : List Query} {finder : Finder} (outside : finder.depth = 0) :
    (finder.add queries).depth = 0 := outside

end Finder

/-! ### The search -/

mutual

/-- Searches a query, with all that is in it. -/
def Query.search : Query → Finder → Finder
  | ⟨isRecursive, ctes, body, orderBy, tail⟩, finder =>
    (body.search (Cte.searchList ctes
      (finder.enter ⟨isRecursive, ctes, body, orderBy, tail⟩))).leave

def Query.searchOption : Option Query → Finder → Finder
  | none, finder => finder
  | some query, finder => query.search finder

def Cte.searchList : List Cte → Finder → Finder
  | [], finder => finder
  | ⟨_, _, query, _⟩ :: rest, finder => Cte.searchList rest (query.search finder)

def QueryBody.search : QueryBody → Finder → Finder
  | .select select, finder => select.search finder
  | .nested query, finder => query.search finder
  | .combined _ _ left right, finder => right.search (left.search finder)
  | .write _ source _, finder => Query.searchOption source finder
  | .rows _, finder => finder

def Select.search : Select → Finder → Finder
  | ⟨_, items, _, tables, _, condition, _, _, having, _⟩, finder =>
    Expr.searchOption having (Expr.searchOption condition
      (JoinedTables.searchList tables (SelectItem.searchList items finder)))

def SelectItem.searchList : List SelectItem → Finder → Finder
  | [], finder => finder
  | item :: rest, finder => SelectItem.searchList rest (item.search finder)

def SelectItem.search : SelectItem → Finder → Finder
  | .value expr _, finder => expr.search finder
  | .wildcard _, finder => finder

def JoinedTables.searchList : List JoinedTables → Finder → Finder
  | [], finder => finder
  | joined :: rest, finder => JoinedTables.searchList rest (joined.search finder)

def JoinedTables.search : JoinedTables → Finder → Finder
  | ⟨relation, joins⟩, finder => Join.searchList joins (relation.search finder)

def TableFactor.search : TableFactor → Finder → Finder
  | .derived _ query _, finder => query.search finder
  | .nested inner _, finder => inner.search finder
  | .table _ _ _ _, finder => finder
  | .other _ _ _, finder => finder

def Join.searchList : List Join → Finder → Finder
  | [], finder => finder
  | ⟨_, _, relation, constraint⟩ :: rest, finder =>
    Join.searchList rest (constraint.search (relation.search finder))

def JoinConstraint.search : JoinConstraint → Finder → Finder
  | .on condition, finder => condition.search finder
  | .using _, finder => finder
  | .natural, finder => finder
  | .none, finder => finder

/-- Searches an expression: all conditions of a conditional before its results, the principal operand of an
inverted phrase first, and the order of a call last. -/
def Expr.search : Expr → Finder → Finder
  | .column _, finder => finder
  | .nested inner, finder => inner.search finder
  | .conditional operand conditions results otherwise, finder =>
    Expr.searchOption otherwise (Expr.searchList results
      (Expr.searchList conditions (Expr.searchOption operand finder)))
  | .call _ _ arguments ordering rest, finder =>
    Part.searchList ordering (Part.searchList rest (Part.searchList arguments finder))
  | .braced call, finder => call.search finder
  | .operation left _ right, finder => right.search (left.search finder)
  | .phrase parts, finder => Part.searchList parts finder
  | .inverted lead principal, finder => Part.searchList lead (Part.searchList principal finder)

def Expr.searchOption : Option Expr → Finder → Finder
  | none, finder => finder
  | some expr, finder => expr.search finder

def Expr.searchList : List Expr → Finder → Finder
  | [], finder => finder
  | expr :: rest, finder => Expr.searchList rest (expr.search finder)

def Part.searchList : List Part → Finder → Finder
  | [], finder => finder
  | part :: rest, finder => Part.searchList rest (part.search finder)

def Part.search : Part → Finder → Finder
  | .text _, finder => finder
  | .operand expr, finder => expr.search finder
  | .query query, finder => query.search finder

end

/-- The outermost queries of an expression, as the search finds them. -/
def Expr.outermost (expr : Expr) : List Query := (expr.search {}).found

/-! ### Nothing is found inside a query -/

mutual

theorem Query.search_of_inside {finder : Finder} (inside : finder.depth ≠ 0) :
    (query : Query) → query.search finder = finder
  | ⟨isRecursive, ctes, body, orderBy, tail⟩ => by
      have within : (finder.enter ⟨isRecursive, ctes, body, orderBy, tail⟩).depth ≠ 0 :=
        Nat.succ_ne_zero _
      rw [Query.search, Cte.searchList_of_inside within ctes, QueryBody.search_of_inside within body]
      exact Finder.leave_enter_of_inside _ inside

theorem Query.searchOption_of_inside {finder : Finder} (inside : finder.depth ≠ 0) :
    (query : Option Query) → Query.searchOption query finder = finder
  | none => by rw [Query.searchOption]
  | some query => by rw [Query.searchOption, Query.search_of_inside inside query]

theorem Cte.searchList_of_inside {finder : Finder} (inside : finder.depth ≠ 0) :
    (ctes : List Cte) → Cte.searchList ctes finder = finder
  | [] => by rw [Cte.searchList]
  | ⟨_, _, query, _⟩ :: rest => by
      rw [Cte.searchList, Query.search_of_inside inside query, Cte.searchList_of_inside inside rest]

theorem QueryBody.search_of_inside {finder : Finder} (inside : finder.depth ≠ 0) :
    (body : QueryBody) → body.search finder = finder
  | .select select => by rw [QueryBody.search, Select.search_of_inside inside select]
  | .nested query => by rw [QueryBody.search, Query.search_of_inside inside query]
  | .combined _ _ left right => by
      rw [QueryBody.search, QueryBody.search_of_inside inside left,
        QueryBody.search_of_inside inside right]
  | .write _ source _ => by rw [QueryBody.search, Query.searchOption_of_inside inside source]
  | .rows _ => by rw [QueryBody.search]

theorem Select.search_of_inside {finder : Finder} (inside : finder.depth ≠ 0) :
    (select : Select) → select.search finder = finder
  | ⟨_, items, _, tables, _, condition, _, _, having, _⟩ => by
      rw [Select.search, SelectItem.searchList_of_inside inside items,
        JoinedTables.searchList_of_inside inside tables, Expr.searchOption_of_inside inside condition,
        Expr.searchOption_of_inside inside having]

theorem SelectItem.searchList_of_inside {finder : Finder} (inside : finder.depth ≠ 0) :
    (items : List SelectItem) → SelectItem.searchList items finder = finder
  | [] => by rw [SelectItem.searchList]
  | item :: rest => by
      rw [SelectItem.searchList, SelectItem.search_of_inside inside item,
        SelectItem.searchList_of_inside inside rest]

theorem SelectItem.search_of_inside {finder : Finder} (inside : finder.depth ≠ 0) :
    (item : SelectItem) → item.search finder = finder
  | .value expr _ => by rw [SelectItem.search, Expr.search_of_inside inside expr]
  | .wildcard _ => by rw [SelectItem.search]

theorem JoinedTables.searchList_of_inside {finder : Finder} (inside : finder.depth ≠ 0) :
    (tables : List JoinedTables) → JoinedTables.searchList tables finder = finder
  | [] => by rw [JoinedTables.searchList]
  | joined :: rest => by
      rw [JoinedTables.searchList, JoinedTables.search_of_inside inside joined,
        JoinedTables.searchList_of_inside inside rest]

theorem JoinedTables.search_of_inside {finder : Finder} (inside : finder.depth ≠ 0) :
    (joined : JoinedTables) → joined.search finder = finder
  | ⟨relation, joins⟩ => by
      rw [JoinedTables.search, TableFactor.search_of_inside inside relation,
        Join.searchList_of_inside inside joins]

theorem TableFactor.search_of_inside {finder : Finder} (inside : finder.depth ≠ 0) :
    (factor : TableFactor) → factor.search finder = finder
  | .derived _ query _ => by rw [TableFactor.search, Query.search_of_inside inside query]
  | .nested inner _ => by rw [TableFactor.search, JoinedTables.search_of_inside inside inner]
  | .table _ _ _ _ => by rw [TableFactor.search]
  | .other _ _ _ => by rw [TableFactor.search]

theorem Join.searchList_of_inside {finder : Finder} (inside : finder.depth ≠ 0) :
    (joins : List Join) → Join.searchList joins finder = finder
  | [] => by rw [Join.searchList]
  | ⟨_, _, relation, constraint⟩ :: rest => by
      rw [Join.searchList, TableFactor.search_of_inside inside relation,
        JoinConstraint.search_of_inside inside constraint, Join.searchList_of_inside inside rest]

theorem JoinConstraint.search_of_inside {finder : Finder} (inside : finder.depth ≠ 0) :
    (constraint : JoinConstraint) → constraint.search finder = finder
  | .on condition => by rw [JoinConstraint.search, Expr.search_of_inside inside condition]
  | .using _ => by rw [JoinConstraint.search]
  | .natural => by rw [JoinConstraint.search]
  | .none => by rw [JoinConstraint.search]

theorem Expr.search_of_inside {finder : Finder} (inside : finder.depth ≠ 0) :
    (expr : Expr) → expr.search finder = finder
  | .column _ => by rw [Expr.search]
  | .nested inner => by rw [Expr.search, Expr.search_of_inside inside inner]
  | .conditional operand conditions results otherwise => by
      rw [Expr.search, Expr.searchOption_of_inside inside operand,
        Expr.searchList_of_inside inside conditions, Expr.searchList_of_inside inside results,
        Expr.searchOption_of_inside inside otherwise]
  | .call _ _ arguments ordering rest => by
      rw [Expr.search, Part.searchList_of_inside inside arguments, Part.searchList_of_inside inside rest,
        Part.searchList_of_inside inside ordering]
  | .braced call => by rw [Expr.search, Expr.search_of_inside inside call]
  | .operation left _ right => by
      rw [Expr.search, Expr.search_of_inside inside left, Expr.search_of_inside inside right]
  | .phrase parts => by rw [Expr.search, Part.searchList_of_inside inside parts]
  | .inverted lead principal => by
      rw [Expr.search, Part.searchList_of_inside inside principal,
        Part.searchList_of_inside inside lead]

theorem Expr.searchOption_of_inside {finder : Finder} (inside : finder.depth ≠ 0) :
    (expr : Option Expr) → Expr.searchOption expr finder = finder
  | none => by rw [Expr.searchOption]
  | some expr => by rw [Expr.searchOption, Expr.search_of_inside inside expr]

theorem Expr.searchList_of_inside {finder : Finder} (inside : finder.depth ≠ 0) :
    (exprs : List Expr) → Expr.searchList exprs finder = finder
  | [] => by rw [Expr.searchList]
  | expr :: rest => by
      rw [Expr.searchList, Expr.search_of_inside inside expr, Expr.searchList_of_inside inside rest]

theorem Part.searchList_of_inside {finder : Finder} (inside : finder.depth ≠ 0) :
    (parts : List Part) → Part.searchList parts finder = finder
  | [] => by rw [Part.searchList]
  | part :: rest => by
      rw [Part.searchList, Part.search_of_inside inside part, Part.searchList_of_inside inside rest]

theorem Part.search_of_inside {finder : Finder} (inside : finder.depth ≠ 0) :
    (part : Part) → part.search finder = finder
  | .text _ => by rw [Part.search]
  | .operand expr => by rw [Part.search, Expr.search_of_inside inside expr]
  | .query query => by rw [Part.search, Query.search_of_inside inside query]

end

/-! ### The outermost queries are found -/

/-- Where the search is in no query, it finds the one that it comes to and nothing inside it. -/
theorem Query.search_of_outside (query : Query) {finder : Finder} (outside : finder.depth = 0) :
    query.search finder = finder.add [query] := by
  obtain ⟨isRecursive, ctes, body, orderBy, tail⟩ := query
  have within : (finder.enter ⟨isRecursive, ctes, body, orderBy, tail⟩).depth ≠ 0 := Nat.succ_ne_zero _
  rw [Query.search, Cte.searchList_of_inside within ctes, QueryBody.search_of_inside within body]
  exact Finder.leave_enter_of_outside _ outside

mutual

/-- The search of an expression finds its outermost queries, behind those that were found before. -/
theorem Expr.search_of_outside {finder : Finder} (outside : finder.depth = 0) :
    (expr : Expr) → expr.search finder = finder.add expr.queries
  | .column _ => by rw [Expr.search, Expr.queries, Finder.add_nil]
  | .nested inner => by rw [Expr.search, Expr.queries, Expr.search_of_outside outside inner]
  | .conditional operand conditions results otherwise => by
      rw [Expr.search, Expr.queries, Expr.searchOption_of_outside outside operand,
        Expr.searchList_of_outside (Finder.outside_add outside) conditions,
        Expr.searchList_of_outside (Finder.outside_add (Finder.outside_add outside)) results,
        Expr.searchOption_of_outside (Finder.outside_add (Finder.outside_add (Finder.outside_add outside)))
          otherwise]
      simp only [Finder.add_add, List.append_assoc]
  | .call _ _ arguments ordering rest => by
      rw [Expr.search, Expr.queries, Part.searchList_of_outside outside arguments,
        Part.searchList_of_outside (Finder.outside_add outside) rest,
        Part.searchList_of_outside (Finder.outside_add (Finder.outside_add outside)) ordering]
      simp only [Finder.add_add, List.append_assoc]
  | .braced call => by rw [Expr.search, Expr.queries, Expr.search_of_outside outside call]
  | .operation left _ right => by
      rw [Expr.search, Expr.queries, Expr.search_of_outside outside left,
        Expr.search_of_outside (Finder.outside_add outside) right, Finder.add_add]
  | .phrase parts => by rw [Expr.search, Expr.queries, Part.searchList_of_outside outside parts]
  | .inverted lead principal => by
      rw [Expr.search, Expr.queries, Part.searchList_of_outside outside principal,
        Part.searchList_of_outside (Finder.outside_add outside) lead, Finder.add_add]

theorem Expr.searchOption_of_outside {finder : Finder} (outside : finder.depth = 0) :
    (expr : Option Expr) → Expr.searchOption expr finder = finder.add (Expr.queriesOfOption expr)
  | none => by rw [Expr.searchOption, Expr.queriesOfOption, Finder.add_nil]
  | some expr => by
      rw [Expr.searchOption, Expr.queriesOfOption, Expr.search_of_outside outside expr]

theorem Expr.searchList_of_outside {finder : Finder} (outside : finder.depth = 0) :
    (exprs : List Expr) → Expr.searchList exprs finder = finder.add (Expr.queriesOfList exprs)
  | [] => by rw [Expr.searchList, Expr.queriesOfList, Finder.add_nil]
  | expr :: rest => by
      rw [Expr.searchList, Expr.queriesOfList, Expr.search_of_outside outside expr,
        Expr.searchList_of_outside (Finder.outside_add outside) rest, Finder.add_add]

theorem Part.searchList_of_outside {finder : Finder} (outside : finder.depth = 0) :
    (parts : List Part) → Part.searchList parts finder = finder.add (Part.queriesOfList parts)
  | [] => by rw [Part.searchList, Part.queriesOfList, Finder.add_nil]
  | part :: rest => by
      rw [Part.searchList, Part.queriesOfList, Part.search_of_outside outside part,
        Part.searchList_of_outside (Finder.outside_add outside) rest, Finder.add_add]

theorem Part.search_of_outside {finder : Finder} (outside : finder.depth = 0) :
    (part : Part) → part.search finder = finder.add part.queries
  | .text _ => by rw [Part.search, Part.queries, Finder.add_nil]
  | .operand expr => by rw [Part.search, Part.queries, Expr.search_of_outside outside expr]
  | .query query => by rw [Part.search, Part.queries, Query.search_of_outside query outside]

end

/-- The search of an expression finds its outermost queries and nothing else. -/
theorem Expr.outermost_eq_queries (expr : Expr) : expr.outermost = expr.queries := by
  rw [outermost, Expr.search_of_outside rfl expr]
  rfl

/-! ### What is found is smaller -/

mutual

theorem Expr.sizeOf_lt_of_mem_queries {query : Query} :
    (expr : Expr) → query ∈ expr.queries → sizeOf query < sizeOf expr
  | .column _, member => by
      rw [Expr.queries] at member
      cases member
  | .nested inner, member => by
      rw [Expr.queries] at member
      have := Expr.sizeOf_lt_of_mem_queries inner member
      simp
      omega
  | .conditional operand conditions results otherwise, member => by
      simp only [Expr.queries, List.mem_append] at member
      rw [Expr.conditional.sizeOf_spec]
      rcases member with ((member | member) | member) | member
      · have := Expr.sizeOf_lt_of_mem_queriesOfOption operand member
        omega
      · have := Expr.sizeOf_lt_of_mem_queriesOfList conditions member
        omega
      · have := Expr.sizeOf_lt_of_mem_queriesOfList results member
        omega
      · have := Expr.sizeOf_lt_of_mem_queriesOfOption otherwise member
        omega
  | .call _ _ arguments ordering rest, member => by
      simp only [Expr.queries, List.mem_append] at member
      rw [Expr.call.sizeOf_spec]
      rcases member with (member | member) | member
      · have := Part.sizeOf_lt_of_mem_queriesOfList arguments member
        omega
      · have := Part.sizeOf_lt_of_mem_queriesOfList rest member
        omega
      · have := Part.sizeOf_lt_of_mem_queriesOfList ordering member
        omega
  | .braced call, member => by
      rw [Expr.queries] at member
      have := Expr.sizeOf_lt_of_mem_queries call member
      simp
      omega
  | .operation left _ right, member => by
      rw [Expr.queries, List.mem_append] at member
      rw [Expr.operation.sizeOf_spec]
      rcases member with member | member
      · have := Expr.sizeOf_lt_of_mem_queries left member
        omega
      · have := Expr.sizeOf_lt_of_mem_queries right member
        omega
  | .phrase parts, member => by
      rw [Expr.queries] at member
      have := Part.sizeOf_lt_of_mem_queriesOfList parts member
      simp
      omega
  | .inverted lead principal, member => by
      rw [Expr.queries, List.mem_append] at member
      rw [Expr.inverted.sizeOf_spec]
      rcases member with member | member
      · have := Part.sizeOf_lt_of_mem_queriesOfList principal member
        omega
      · have := Part.sizeOf_lt_of_mem_queriesOfList lead member
        omega

theorem Expr.sizeOf_lt_of_mem_queriesOfOption {query : Query} :
    (expr : Option Expr) → query ∈ Expr.queriesOfOption expr → sizeOf query < sizeOf expr
  | none, member => by
      rw [Expr.queriesOfOption] at member
      cases member
  | some expr, member => by
      rw [Expr.queriesOfOption] at member
      have := Expr.sizeOf_lt_of_mem_queries expr member
      simp
      omega

theorem Expr.sizeOf_lt_of_mem_queriesOfList {query : Query} :
    (exprs : List Expr) → query ∈ Expr.queriesOfList exprs → sizeOf query < sizeOf exprs
  | [], member => by
      rw [Expr.queriesOfList] at member
      cases member
  | expr :: rest, member => by
      rw [Expr.queriesOfList, List.mem_append] at member
      rw [List.cons.sizeOf_spec]
      rcases member with member | member
      · have := Expr.sizeOf_lt_of_mem_queries expr member
        omega
      · have := Expr.sizeOf_lt_of_mem_queriesOfList rest member
        omega

theorem Part.sizeOf_lt_of_mem_queriesOfList {query : Query} :
    (parts : List Part) → query ∈ Part.queriesOfList parts → sizeOf query < sizeOf parts
  | [], member => by
      rw [Part.queriesOfList] at member
      cases member
  | part :: rest, member => by
      rw [Part.queriesOfList, List.mem_append] at member
      rw [List.cons.sizeOf_spec]
      rcases member with member | member
      · have := Part.sizeOf_lt_of_mem_queries part member
        omega
      · have := Part.sizeOf_lt_of_mem_queriesOfList rest member
        omega

theorem Part.sizeOf_lt_of_mem_queries {query : Query} :
    (part : Part) → query ∈ part.queries → sizeOf query < sizeOf part
  | .text _, member => by
      rw [Part.queries] at member
      cases member
  | .operand expr, member => by
      rw [Part.queries] at member
      have := Expr.sizeOf_lt_of_mem_queries expr member
      simp
      omega
  | .query nested, member => by
      rw [Part.queries, List.mem_singleton] at member
      subst member
      simp

end

/-- A query that is found in an expression is smaller than the expression. -/
theorem Expr.sizeOf_lt_of_mem_outermost {expr : Expr} {query : Query} (found : query ∈ expr.outermost) :
    sizeOf query < sizeOf expr := by
  rw [Expr.outermost_eq_queries] at found
  exact Expr.sizeOf_lt_of_mem_queries expr found

end SqlLineage.Sql

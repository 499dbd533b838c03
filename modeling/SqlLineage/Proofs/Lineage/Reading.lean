/-
Module: SqlLineage.Proofs.Lineage.Reading
Purpose: What the queries of a syntax tree read, told by the tree alone: the relations that each of them
  mentions, in order, and for each mention the declarations of common table expressions around it. The
  queries come in the order in which they end, so an inner one comes before the one around it.
Main exports: Frame, Sees, Mention, Block, Reading, Query.reading, Expr.reading_eq_queries
-/
import SqlLineage.Sql.Syntax
import SqlLineage.Text.Cut
import SqlLineage.Text.Lowercase

namespace SqlLineage.Sql

/-! ### What is visible at a point -/

/-- What stands around a point inside a query that declares common table expressions. -/
inductive Frame where
  /-- The definition of one of them, behind those that are declared before it. -/
  | definition (isRecursive : Bool) (earlier : List String) (name : String)
  /-- The body of the query, which declares these. -/
  | body (names : List String)

/-- Whether a frame is the definition of a common table expression that may read itself. -/
def Frame.isRecursive : Frame → Bool
  | .definition isRecursive _ _ => isRecursive
  | .body _ => false

/-- Whether a frame shows a common table expression whose name in lower case is this one. -/
inductive Frame.Shows : Frame → String → Prop where
  | earlier {isRecursive : Bool} {earlier : List String} {name other : String}
      (member : other ∈ earlier) :
      Shows (.definition isRecursive earlier name) (Text.lowercase other)
  | itself {earlier : List String} {name : String} :
      Shows (.definition true earlier name) (Text.lowercase name)
  | declared {names : List String} {name : String} (member : name ∈ names) :
      Shows (.body names) (Text.lowercase name)

/-- Whether a common table expression of this name in lower case is visible where these frames stand
around, the innermost one first. -/
def Sees (around : List Frame) (key : String) : Prop := ∃ frame ∈ around, frame.Shows key

@[simp] theorem not_sees_nil (key : String) : ¬ Sees [] key := by
  rintro ⟨_, member, _⟩
  cases member

theorem sees_cons_iff {frame : Frame} {around : List Frame} {key : String} :
    Sees (frame :: around) key ↔ frame.Shows key ∨ Sees around key := by
  simp [Sees]

theorem shows_definition_iff {isRecursive : Bool} {earlier : List String} {name key : String} :
    (Frame.definition isRecursive earlier name).Shows key ↔
      key ∈ earlier.map Text.lowercase ∨ isRecursive = true ∧ key = Text.lowercase name := by
  constructor
  · intro shown
    cases shown with
    | earlier member => exact .inl (List.mem_map_of_mem member)
    | itself => exact .inr ⟨rfl, rfl⟩
  · rintro (declared | ⟨rfl, rfl⟩)
    · obtain ⟨other, member, rfl⟩ := List.mem_map.mp declared
      exact .earlier member
    · exact .itself

theorem shows_body_iff {names : List String} {key : String} :
    (Frame.body names).Shows key ↔ key ∈ names.map Text.lowercase := by
  constructor
  · intro shown
    cases shown with
    | declared member => exact List.mem_map_of_mem member
  · intro declared
    obtain ⟨name, member, rfl⟩ := List.mem_map.mp declared
    exact .declared member

/-! ### What a query reads -/

/-- What a query can take rows from. -/
inductive Source where
  /-- A relation by name. -/
  | table (name : String) (aliasName : Option String)
  /-- A query nested there: a derived table, or a query inside an expression. -/
  | query (aliasName : Option String)
deriving DecidableEq

/-- A source at a point of a syntax tree. -/
structure Mention where
  around : List Frame
  source : Source

namespace Mention

/-- The name and the other name of a relation that is mentioned by name. -/
def table? (mention : Mention) : Option (String × Option String) :=
  match mention.source with
  | .table name aliasName => some (name, aliasName)
  | .query _ => none

/-- Whether a nested query is mentioned. -/
def isQuery (mention : Mention) : Bool := mention.table?.isNone

@[simp] theorem table?_table (around : List Frame) (name : String) (aliasName : Option String) :
    table? ⟨around, .table name aliasName⟩ = some (name, aliasName) := rfl

@[simp] theorem table?_query (around : List Frame) (aliasName : Option String) :
    table? ⟨around, .query aliasName⟩ = none := rfl

@[simp] theorem isQuery_table (around : List Frame) (name : String) (aliasName : Option String) :
    isQuery ⟨around, .table name aliasName⟩ = false := rfl

@[simp] theorem isQuery_query (around : List Frame) (aliasName : Option String) :
    isQuery ⟨around, .query aliasName⟩ = true := rfl

end Mention

/-- What a query inside a statement reads, and whether it is nested in another one, as common table
expressions are not. -/
structure Block where
  isNested : Bool
  mentions : List Mention

/-- What a part of a query reads: the queries inside it, and what the query around it reads there. -/
structure Reading where
  inner : List Block := []
  own : List Mention := []

namespace Reading

instance : Append Reading :=
  ⟨fun first second => ⟨first.inner ++ second.inner, first.own ++ second.own⟩⟩

@[simp] theorem inner_append (first second : Reading) :
    (first ++ second).inner = first.inner ++ second.inner := rfl

@[simp] theorem own_append (first second : Reading) :
    (first ++ second).own = first.own ++ second.own := rfl

@[ext] theorem ext {first second : Reading} (inner : first.inner = second.inner)
    (own : first.own = second.own) : first = second := by
  cases first
  cases second
  cases inner
  cases own
  rfl

theorem append_assoc (first second third : Reading) :
    first ++ second ++ third = first ++ (second ++ third) := by
  ext1 <;> simp [List.append_assoc]

@[simp] theorem append_empty (reading : Reading) : reading ++ {} = reading := by
  ext1 <;> simp

@[simp] theorem empty_append (reading : Reading) : {} ++ reading = reading := by
  ext1 <;> simp

/-- All that is mentioned, one query after another. -/
def mentions (reading : Reading) : List Mention :=
  reading.inner.flatMap Block.mentions ++ reading.own

/-- What a query reads that is the definition of a common table expression. -/
def asDefinition (reading : Reading) : Reading :=
  { inner := reading.inner ++ [⟨false, reading.own⟩] }

/-- What a query reads that is nested at a point of another one, which reads it. -/
def asNested (around : List Frame) (aliasName : Option String) (reading : Reading) : Reading :=
  { inner := reading.inner ++ [⟨true, reading.own⟩], own := [⟨around, .query aliasName⟩] }

end Reading

/-- The name of a common table expression. -/
def Cte.name (cte : Cte) : String := cte.aliasName.name.value

/-- The joins whose condition says which rows belong together. -/
def JoinOperator.isConditional (operator : JoinOperator) : Bool :=
  operator ∈ [.inner, .left, .right, .full]

mutual

/-- What a query reads where these frames stand around it. -/
def Query.reading (around : List Frame) : Query → Reading
  | ⟨isRecursive, ctes, body, _, _⟩ =>
    Cte.readingOfList isRecursive around [] ctes ++ body.reading (.body (ctes.map Cte.name) :: around)

/-- What the definitions of common table expressions read, behind those of these names. -/
def Cte.readingOfList (isRecursive : Bool) (around : List Frame) (earlier : List String) :
    List Cte → Reading
  | [] => {}
  | ⟨aliasName, _, query, _⟩ :: rest =>
    let name := aliasName.name.value
    (query.reading (.definition isRecursive earlier name :: around)).asDefinition ++
      Cte.readingOfList isRecursive around (earlier ++ [name]) rest

def QueryBody.reading (around : List Frame) : QueryBody → Reading
  | .select select => select.reading around
  | .nested query => query.reading around
  | .combined _ _ left right => left.reading around ++ right.reading around
  | .write _ source _ => Query.readingOfOption around source
  | .rows _ => {}

def Query.readingOfOption (around : List Frame) : Option Query → Reading
  | none => {}
  | some query => query.reading around

def Select.reading (around : List Frame) : Select → Reading
  | ⟨_, items, _, tables, _, condition, _, _, having, _⟩ =>
    JoinedTables.readingOfList around tables ++ SelectItem.readingOfList around items ++
      Expr.readingOfOption around condition ++ Expr.readingOfOption around having

def JoinedTables.readingOfList (around : List Frame) : List JoinedTables → Reading
  | [] => {}
  | joined :: rest => joined.reading around ++ JoinedTables.readingOfList around rest

def JoinedTables.reading (around : List Frame) : JoinedTables → Reading
  | ⟨relation, joins⟩ => relation.reading around ++ Join.readingOfList around joins

def Join.readingOfList (around : List Frame) : List Join → Reading
  | [] => {}
  | ⟨_, operator, relation, constraint⟩ :: rest =>
    relation.reading around ++
      (if operator.isConditional then constraint.reading around else {}) ++
      Join.readingOfList around rest

def JoinConstraint.reading (around : List Frame) : JoinConstraint → Reading
  | .on condition => condition.reading around
  | _ => {}

def TableFactor.reading (around : List Frame) : TableFactor → Reading
  | .table name _ aliasName _ =>
    { own := [⟨around, .table (Text.joinWith "." (name.map Ident.value))
        (aliasName.map (·.name.value))⟩] }
  | .derived _ query aliasName =>
    (query.reading around).asNested around (aliasName.map (·.name.value))
  | .nested inner _ => inner.reading around
  | .other _ _ _ => {}

def SelectItem.readingOfList (around : List Frame) : List SelectItem → Reading
  | [] => {}
  | item :: rest => item.reading around ++ SelectItem.readingOfList around rest

def SelectItem.reading (around : List Frame) : SelectItem → Reading
  | .value expr _ => expr.reading around
  | .wildcard _ => {}

/-- What an expression reads, in the order of `Expr.queries`. -/
def Expr.reading (around : List Frame) : Expr → Reading
  | .column _ => {}
  | .nested inner => inner.reading around
  | .conditional operand conditions results otherwise =>
    Expr.readingOfOption around operand ++ Expr.readingOfList around conditions ++
      Expr.readingOfList around results ++ Expr.readingOfOption around otherwise
  | .call _ _ arguments ordering rest =>
    Part.readingOfList around arguments ++ Part.readingOfList around rest ++
      Part.readingOfList around ordering
  | .braced call => call.reading around
  | .operation left _ right => left.reading around ++ right.reading around
  | .phrase parts => Part.readingOfList around parts
  | .inverted lead principal =>
    Part.readingOfList around principal ++ Part.readingOfList around lead

def Expr.readingOfOption (around : List Frame) : Option Expr → Reading
  | none => {}
  | some expr => expr.reading around

def Expr.readingOfList (around : List Frame) : List Expr → Reading
  | [] => {}
  | expr :: rest => expr.reading around ++ Expr.readingOfList around rest

def Part.readingOfList (around : List Frame) : List Part → Reading
  | [] => {}
  | part :: rest => part.reading around ++ Part.readingOfList around rest

def Part.reading (around : List Frame) : Part → Reading
  | .text _ => {}
  | .operand expr => expr.reading around
  | .query query => (query.reading around).asNested around none

end

/-! ### Expressions read their outermost queries -/

/-- What queries nested at one point read, one after another. -/
def Query.readingOfNested (around : List Frame) : List Query → Reading
  | [] => {}
  | query :: rest => (query.reading around).asNested around none ++ Query.readingOfNested around rest

theorem Query.readingOfNested_append (around : List Frame) (first second : List Query) :
    Query.readingOfNested around (first ++ second) =
      Query.readingOfNested around first ++ Query.readingOfNested around second := by
  induction first with
  | nil => simp [Query.readingOfNested]
  | cons query rest ih => simp [Query.readingOfNested, ih, Reading.append_assoc]

mutual

/-- An expression reads its outermost queries and nothing else. -/
theorem Expr.reading_eq_queries (around : List Frame) :
    (expr : Expr) → expr.reading around = Query.readingOfNested around expr.queries
  | .column _ => by simp [Expr.reading, Expr.queries, Query.readingOfNested]
  | .nested inner => by
      rw [Expr.reading, Expr.queries, Expr.reading_eq_queries around inner]
  | .conditional operand conditions results otherwise => by
      simp only [Expr.reading, Expr.queries, Query.readingOfNested_append,
        Expr.readingOfOption_eq_queries around operand,
        Expr.readingOfOption_eq_queries around otherwise,
        Expr.readingOfList_eq_queries around conditions,
        Expr.readingOfList_eq_queries around results]
  | .call _ _ arguments ordering rest => by
      simp only [Expr.reading, Expr.queries, Query.readingOfNested_append,
        Part.readingOfList_eq_queries around arguments, Part.readingOfList_eq_queries around ordering,
        Part.readingOfList_eq_queries around rest]
  | .braced call => by
      rw [Expr.reading, Expr.queries, Expr.reading_eq_queries around call]
  | .operation left _ right => by
      rw [Expr.reading, Expr.queries, Query.readingOfNested_append,
        Expr.reading_eq_queries around left, Expr.reading_eq_queries around right]
  | .phrase parts => by
      rw [Expr.reading, Expr.queries, Part.readingOfList_eq_queries around parts]
  | .inverted lead principal => by
      rw [Expr.reading, Expr.queries, Query.readingOfNested_append,
        Part.readingOfList_eq_queries around lead, Part.readingOfList_eq_queries around principal]

theorem Expr.readingOfOption_eq_queries (around : List Frame) : (expr : Option Expr) →
    Expr.readingOfOption around expr = Query.readingOfNested around (Expr.queriesOfOption expr)
  | none => by rw [Expr.readingOfOption, Expr.queriesOfOption, Query.readingOfNested]
  | some expr => by
      rw [Expr.readingOfOption, Expr.queriesOfOption, Expr.reading_eq_queries around expr]

theorem Expr.readingOfList_eq_queries (around : List Frame) : (exprs : List Expr) →
    Expr.readingOfList around exprs = Query.readingOfNested around (Expr.queriesOfList exprs)
  | [] => by rw [Expr.readingOfList, Expr.queriesOfList, Query.readingOfNested]
  | expr :: rest => by
      rw [Expr.readingOfList, Expr.queriesOfList, Query.readingOfNested_append,
        Expr.reading_eq_queries around expr, Expr.readingOfList_eq_queries around rest]

theorem Part.readingOfList_eq_queries (around : List Frame) : (parts : List Part) →
    Part.readingOfList around parts = Query.readingOfNested around (Part.queriesOfList parts)
  | [] => by rw [Part.readingOfList, Part.queriesOfList, Query.readingOfNested]
  | part :: rest => by
      rw [Part.readingOfList, Part.queriesOfList, Query.readingOfNested_append,
        Part.reading_eq_queries around part, Part.readingOfList_eq_queries around rest]

theorem Part.reading_eq_queries (around : List Frame) :
    (part : Part) → part.reading around = Query.readingOfNested around part.queries
  | .text _ => by rw [Part.reading, Part.queries, Query.readingOfNested]
  | .operand expr => by
      rw [Part.reading, Part.queries, Expr.reading_eq_queries around expr]
  | .query query => by
      rw [Part.reading, Part.queries, Query.readingOfNested, Query.readingOfNested,
        Reading.append_empty]

end

end SqlLineage.Sql

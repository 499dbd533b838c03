/-
Module: SqlLineage.Proofs.Lineage.FlatQueries
Purpose: The walk and the scan side by side, on queries of `FROM` lists with joins that are combined by
  `UNION`. The walk through the syntax tree lists each relation, and each join with the first relation of its
  item. The scan of the tokens agrees with it just if no item with joins stands in front of another one in
  its list, and each item with joins starts with the first relation of the statement.
Main exports: Sql.Query.flat?, Walk.Lists, lists_walkQuery, collected_scanned_of_flat, scan_ne_walk
-/
import SqlLineage.Lineage.Script
import SqlLineage.Proofs.Lineage.LexicalWalk
import SqlLineage.Proofs.Script.FlatScan

/-! ### Trees of flat queries -/

namespace SqlLineage.Sql

open Lineage (TableReference JoinKind)
open Script (FlatItem comparisonOperators)

def Expr.isColumn : Expr → Bool
  | .column _ => true
  | _ => false

/-- Whether an expression is comparisons of two columns with `AND` between them. -/
def Expr.isComparisons : Expr → Bool
  | .operation left operator right =>
    (left.isColumn && comparisonOperators.contains operator && right.isColumn) ||
      (operator == "AND" && left.isComparisons && right.isComparisons)
  | _ => false

/-- The relation that rows are taken from, if it is one by name. -/
def TableFactor.reference? : TableFactor → Option TableReference
  | .table name _ aliasName _ => some (Lineage.referenceTo [] name aliasName)
  | _ => none

/-- Whether a join has a condition of comparisons, or none with `CROSS`. -/
def Join.isFlat (join : Join) : Bool :=
  match join.operator, join.constraint with
  | .cross, .none => true
  | operator, .on condition => Lineage.keepsCondition operator && condition.isComparisons
  | _, _ => false

/-- The kind of a join and the relation that it adds, if it is such a join with a relation by name. -/
def Join.flat? (join : Join) : Option (JoinKind × TableReference) :=
  if join.isFlat then join.relation.reference?.map fun right => (Lineage.joinKind join.operator, right)
  else none

/-- The item of a list that a relation is with those joined to it. -/
def JoinedTables.flat? (joined : JoinedTables) : Option FlatItem := do
  let first ← joined.relation.reference?
  let others ← joined.joins.mapM Join.flat?
  pure ⟨first, others⟩

/-- The items of the list from which a query takes all columns, without a condition. -/
def Select.flat? : Select → Option (List FlatItem)
  | ⟨_, [.wildcard "*"], _, tables, _, none, [], _, none, _⟩ => tables.mapM JoinedTables.flat?
  | _ => none

/-- The lists of such queries that are combined by `UNION`. -/
def QueryBody.flat? : QueryBody → Option (List (List FlatItem))
  | .select chosen => chosen.flat?.map ([·])
  | .combined .union _ left right => do
    let branches ← left.flat?
    let more ← right.flat?
    pure (branches ++ more)
  | _ => none

/-- The lists of a query without common table expressions and without an order. -/
def Query.flat? : Query → Option (List (List FlatItem))
  | ⟨_, [], body, [], _⟩ => body.flat?
  | _ => none

theorem Join.flat?_eq_some_iff {join : Join} {kind : JoinKind} {right : TableReference} :
    join.flat? = some (kind, right) ↔
      join.isFlat = true ∧ join.relation.reference? = some right ∧ Lineage.joinKind join.operator = kind := by
  unfold flat?
  split
  · next isFlat => simp [isFlat]
  · next other => simp [other]

theorem JoinedTables.flat?_eq_some_iff {joined : JoinedTables} {item : FlatItem} :
    joined.flat? = some item ↔ ∃ first others, joined.relation.reference? = some first ∧
      joined.joins.mapM Join.flat? = some others ∧ item = ⟨first, others⟩ := by
  simp only [flat?, Option.bind_eq_bind, Option.bind_eq_some_iff, Option.pure_def, Option.some.injEq]
  constructor
  · rintro ⟨first, isFirst, others, isOthers, rfl⟩
    exact ⟨first, others, isFirst, isOthers, rfl⟩
  · rintro ⟨first, others, isFirst, isOthers, rfl⟩
    exact ⟨first, isFirst, others, isOthers, rfl⟩

end SqlLineage.Sql

namespace SqlLineage.Lineage

open Script (FlatItem QuoteEscapes SpellsBranch SpellsBranches SpellsComparisons SpellsItem SpellsJoined
  SpellsRelation Statement StatementKind Token listedJoins listedJoins_append listedTables
  listedTables_append scannedTables)

/-! ### The walk through a flat query -/

/-- Whether a walk has gone on without queries of their own, and has listed these relations and joins. -/
structure Walk.Lists (tables : List TableReference) (joins : List JoinSides)
    (walk later : Walk) : Prop where
  ctes : later.ctes = walk.ctes
  queries : later.queries = walk.queries
  tables : later.query.tables = walk.query.tables ++ tables
  joins : later.query.joins.map JoinClause.sides = walk.query.joins.map JoinClause.sides ++ joins

theorem joins_addTable (table : TableReference) (query : Query) :
    (query.addTable table).joins = query.joins := by
  unfold Query.addTable Query.addDependency
  split
  · split <;> rfl
  · rfl

namespace Walk.Lists

variable {tables more : List TableReference} {joins others : List JoinSides}
  {walk later last : Walk}

theorem refl (walk : Walk) : Lists [] [] walk walk :=
  ⟨rfl, rfl, (List.append_nil _).symm, (List.append_nil _).symm⟩

theorem trans (first : Lists tables joins walk later) (second : Lists more others later last) :
    Lists (tables ++ more) (joins ++ others) walk last where
  ctes := second.ctes.trans first.ctes
  queries := second.queries.trans first.queries
  tables := by rw [second.tables, first.tables, List.append_assoc]
  joins := by rw [second.joins, first.joins, List.append_assoc]

/-- A walk that goes on to note other things lists no more. -/
theorem update (lists : Lists tables joins walk later) {change : Query → Query}
    (sameTables : (change later.query).tables = later.query.tables)
    (sameJoins : (change later.query).joins = later.query.joins) :
    Lists tables joins walk (later.update change) where
  ctes := lists.ctes
  queries := lists.queries
  tables := sameTables.trans lists.tables
  joins := by rw [← lists.joins, query_update, sameJoins]

theorem addTable (table : TableReference) (walk : Walk) :
    Lists [table] [] walk (walk.update (·.addTable table)) where
  ctes := rfl
  queries := rfl
  tables := Query.tables_addTable table walk.query
  joins := by rw [query_update, joins_addTable, List.append_nil]

theorem join (left right : TableReference) (operator : Sql.JoinOperator) (constraint : Sql.JoinConstraint)
    (walk : Walk) :
    Lists [] [(left, right, joinKind operator)] walk
      (walk.join (some left) (some right) operator constraint) where
  ctes := rfl
  queries := rfl
  tables := (List.append_nil _).symm
  joins := by
    rw [Walk.join, query_update, List.map_append]
    rfl

end Walk.Lists

/-- Comparisons of columns hold no query. -/
theorem walkExpr_of_isComparisons {index : Nat} {scope : List String} :
    (expr : Sql.Expr) → expr.isComparisons = true → ∀ walk, walkExpr index scope expr walk = walk
  | .operation left operator right, compares, walk => by
      have ofColumn : ∀ {expr : Sql.Expr}, expr.isColumn = true →
          ∀ walk, walkExpr index scope expr walk = walk := by
        intro expr isColumn walk
        cases expr with
        | column path => rfl
        | _ => cases isColumn
      simp only [Sql.Expr.isComparisons, Bool.or_eq_true, Bool.and_eq_true] at compares
      show walkExpr index scope right (walkExpr index scope left walk) = walk
      rcases compares with ⟨⟨isLeft, _⟩, isRight⟩ | ⟨⟨_, isLeft⟩, isRight⟩
      · rw [ofColumn isLeft, ofColumn isRight]
      · rw [walkExpr_of_isComparisons left isLeft, walkExpr_of_isComparisons right isRight]

section Steps

variable (index : Nat) (walk : Walk)

/-- A relation by name is noted and given back. -/
theorem walkFactor_of_reference? {factor : Sql.TableFactor} {table : TableReference}
    (isTable : factor.reference? = some table) :
    walkFactor index [] factor walk = (walk.update (·.addTable table), some table) := by
  cases factor with
  | table name arguments aliasName options =>
      cases isTable
      rfl
  | _ => cases isTable

/-- The condition of a flat join holds no query. -/
theorem walkConstraint_of_isFlat {join : Sql.Join} (isFlat : join.isFlat = true) (scope : List String) :
    (if keepsCondition join.operator then walkConstraint index scope join.constraint walk else walk) =
      walk := by
  obtain ⟨isGlobal, operator, relation, constraint⟩ := join
  cases constraint with
  | on condition =>
      have compares : condition.isComparisons = true := by
        cases operator <;> simp_all [Sql.Join.isFlat]
      split
      · exact walkExpr_of_isComparisons condition compares walk
      · rfl
  | _ => split <;> rfl

/-- A list is read member by member. -/
theorem mapM_cons_eq_some_iff {α β : Type} {read : α → Option β} {a : α} {rest : List α} {values : List β} :
    (a :: rest).mapM read = some values ↔
      ∃ value more, read a = some value ∧ rest.mapM read = some more ∧ values = value :: more := by
  simp only [List.mapM_cons, Option.bind_eq_bind, Option.bind_eq_some_iff, Option.pure_def, Option.some.injEq]
  constructor
  · rintro ⟨value, first, more, later, rfl⟩
    exact ⟨value, more, first, later, rfl⟩
  · rintro ⟨value, more, first, later, rfl⟩
    exact ⟨value, first, more, later, rfl⟩

/-- The walk lists what is joined, each join to the relation before them. -/
theorem lists_walkJoins {joins : List Sql.Join} {joined : List (JoinKind × TableReference)}
    (isFlat : joins.mapM Sql.Join.flat? = some joined) (first : TableReference) :
    Walk.Lists (joined.map Prod.snd) (joined.map fun (kind, right) => (first, right, kind)) walk
      (walkJoins index [] (some first) joins walk) := by
  induction joins generalizing joined walk with
  | nil =>
      cases isFlat
      exact .refl walk
  | cons join rest ih =>
      obtain ⟨⟨kind, right⟩, others, isJoin, isRest, rfl⟩ := mapM_cons_eq_some_iff.mp isFlat
      obtain ⟨flat, isRight, rfl⟩ := Sql.Join.flat?_eq_some_iff.mp isJoin
      have skipped := walkConstraint_of_isFlat index (walk.update (·.addTable right)) flat []
      have noted := (Walk.Lists.addTable right walk).trans
        (.join first right join.operator join.constraint (walk.update (·.addTable right)))
      obtain ⟨isGlobal, operator, relation, constraint⟩ := join
      rw [walkJoins, walkFactor_of_reference? index walk isRight]
      simp only at skipped ⊢
      rw [skipped]
      exact noted.trans (ih _ isRest)

/-- The walk lists an item, with its joins to its first relation. -/
theorem lists_walkJoined {joined : Sql.JoinedTables} {item : FlatItem} (isFlat : joined.flat? = some item) :
    Walk.Lists item.tables (item.joinsTo item.first) walk (walkJoined index [] joined walk).1 := by
  obtain ⟨first, others, isFirst, isOthers, rfl⟩ := Sql.JoinedTables.flat?_eq_some_iff.mp isFlat
  have noted := (Walk.Lists.addTable first walk).trans (lists_walkJoins index _ isOthers first)
  obtain ⟨relation, joins⟩ := joined
  rw [walkJoined, walkFactor_of_reference? index walk isFirst]
  exact noted

theorem lists_walkTables {tables : List Sql.JoinedTables} {items : List FlatItem}
    (isFlat : tables.mapM Sql.JoinedTables.flat? = some items) :
    Walk.Lists (listedTables items) (listedJoins items) walk (walkTables index [] tables walk) := by
  induction tables generalizing items walk with
  | nil =>
      cases isFlat
      exact .refl walk
  | cons joined rest ih =>
      obtain ⟨item, others, isItem, isRest, rfl⟩ := mapM_cons_eq_some_iff.mp isFlat
      exact (lists_walkJoined index walk isItem).trans (ih _ isRest)

/-- The walk lists a list, and of the rest of its query the column only. -/
theorem lists_walkSelect {chosen : Sql.Select} {items : List FlatItem} (isFlat : chosen.flat? = some items) :
    Walk.Lists (listedTables items) (listedJoins items) walk (walkSelect index [] chosen walk) := by
  unfold Sql.Select.flat? at isFlat
  split at isFlat
  · simp only [walkSelect, walkItems, walkItem, walkOption, Walk.filter]
    exact ((lists_walkTables index walk isFlat).update rfl rfl).update rfl rfl
  · cases isFlat

/-- The walk lists the lists that are combined one after another. -/
theorem lists_walkBody {body : Sql.QueryBody} {branches : List (List FlatItem)}
    (isFlat : body.flat? = some branches) :
    Walk.Lists (listedTables branches.flatten) (listedJoins branches.flatten) walk
      (walkBody index [] body walk) := by
  fun_induction Sql.QueryBody.flat? body generalizing branches walk with
  | case1 chosen =>
      obtain ⟨items, isList, rfl⟩ := Option.map_eq_some_iff.mp isFlat
      rw [List.flatten_singleton, walkBody]
      exact lists_walkSelect index walk isList
  | case2 quantifier left right ihLeft ihRight =>
      simp only [Option.bind_eq_bind, Option.bind_eq_some_iff, Option.pure_def, Option.some.injEq] at isFlat
      obtain ⟨branches, isLeft, more, isRight, rfl⟩ := isFlat
      have noted := (ihLeft walk isLeft).trans (ihRight _ isRight)
      rw [← listedTables_append, ← listedJoins_append, ← List.flatten_append] at noted
      rw [walkBody]
      exact noted.update rfl rfl
  | case3 => cases isFlat

theorem lists_walkQuery {tree : Sql.Query} {branches : List (List FlatItem)}
    (isFlat : tree.flat? = some branches) :
    Walk.Lists (listedTables branches.flatten) (listedJoins branches.flatten) walk
      (walkQuery index [] tree walk) := by
  unfold Sql.Query.flat? at isFlat
  split at isFlat
  · rw [walkQuery, walkCtes]
    exact (lists_walkBody index walk isFlat).update rfl rfl
  · cases isFlat

end Steps

/-! ### The walk and the scan -/

/-- Of queries of `FROM` lists that are combined by `UNION` the walk lists each relation, and each join with
the first relation of its item. The scan of the same statement finds the items of each list up to the first
one with joins and all relations that are joined, and each join with the first relation of the statement. So
both list the same relations just if no item with joins stands in front of another one in its list, and the
same joins just if each item with joins starts with the first relation of the statement. -/
theorem collected_scanned_of_flat {escapes : QuoteEscapes} {script : String} {statement : Statement}
    (isStatement : statement ∈ Statement.split escapes script) {branches : List (List FlatItem)}
    (spells : SpellsBranches statement.significant branches) {tree : Sql.Query}
    (isFlat : tree.flat? = some branches) (kind : StatementKind) :
    ∃ query item,
      collectStatement statement.index tree (rootQuery statement.index kind) = { queries := [query] } ∧
      branches.flatten.head? = some item ∧
      (query.tables = listedTables branches.flatten ∧
        query.joins.map JoinClause.sides = listedJoins branches.flatten) ∧
      (statement.relations.tables = branches.flatMap scannedTables ∧
        statement.relations.joins.map JoinClause.sides =
          branches.flatten.flatMap (FlatItem.joinsTo item.first)) ∧
      (statement.relations.tables = query.tables ↔
        ∀ items ∈ branches, ∀ other ∈ items.dropLast, other.joined = []) ∧
      (statement.relations.joins.map JoinClause.sides = query.joins.map JoinClause.sides ↔
        ∀ other ∈ branches.flatten, other.joined ≠ [] → other.first = item.first) := by
  obtain ⟨item, isFirst⟩ := spells.exists_first
  have written : ∀ token ∈ statement.significant, token.text ≠ "" := fun token member =>
    Script.text_ne_empty_of_mem_significant isStatement member
  obtain ⟨scannedTables, scannedJoins⟩ := Script.scanRelations_of_branches spells written isFirst
  have walked := lists_walkQuery statement.index { query := rootQuery statement.index kind } isFlat
  have noTables : (rootQuery statement.index kind).tables = [] := by
    unfold rootQuery
    split <;> rfl
  have noJoins : (rootQuery statement.index kind).joins = [] := by
    unfold rootQuery
    split <;> rfl
  have tables := walked.tables
  have joins := walked.joins
  rw [noTables, List.nil_append] at tables
  rw [noJoins, List.map_nil, List.nil_append] at joins
  refine ⟨_, item, ?_, isFirst, ⟨tables, joins⟩, ⟨scannedTables, scannedJoins⟩, ?_, ?_⟩
  · rw [collectStatement, collectQuery_eq]
    dsimp only
    rw [walked.ctes, walked.queries]
    rfl
  · rw [Statement.relations, scannedTables, tables]
    exact Script.flatMap_scannedTables_eq_iff branches
  · rw [Statement.relations, scannedJoins, joins]
    exact Script.joinsTo_eq_iff item.first branches.flatten

/-- A script of two lists. The first one has an item behind an item with joins, and the joins of the second
one are not to the first relation of the statement. -/
def flatScript : String :=
  "SELECT * FROM a AS x, s.b JOIN c ON x.i = c.i, d UNION ALL SELECT * FROM e CROSS JOIN f"

def flatBranches : List (List FlatItem) := [
  [⟨.named "a" (some "x") false, []⟩, ⟨.named "s.b" none false, [(.inner, .named "c" none false)]⟩,
    ⟨.named "d" none false, []⟩],
  [⟨.named "e" none false, [(.cross, .named "f" none false)]⟩]]

def flatAliased : List Token := [⟨.identifier, "a", 14⟩, ⟨.keyword, "AS", 16⟩, ⟨.identifier, "x", 19⟩]

def flatCondition : List Token :=
  [⟨.identifier, "x", 36⟩, ⟨.punctuation, ".", 37⟩, ⟨.identifier, "i", 38⟩] ++ ⟨.operator, "=", 40⟩ ::
    [⟨.identifier, "c", 42⟩, ⟨.punctuation, ".", 43⟩, ⟨.identifier, "i", 44⟩]

def flatJoined : List Token :=
  [⟨.identifier, "s", 22⟩, ⟨.punctuation, ".", 23⟩, ⟨.identifier, "b", 24⟩] ++
    ([] ++ ⟨.keyword, "JOIN", 26⟩ ::
      ([⟨.identifier, "c", 31⟩] ++ (⟨.keyword, "ON", 33⟩ :: flatCondition ++ [])))

def flatFirst : List Token :=
  ⟨.keyword, "SELECT", 0⟩ :: ⟨.operator, "*", 7⟩ :: ⟨.keyword, "FROM", 9⟩ ::
    ((flatAliased ++ []) ++ ⟨.punctuation, ",", 20⟩ ::
      (flatJoined ++ ⟨.punctuation, ",", 45⟩ :: ([⟨.identifier, "d", 47⟩] ++ [])))

def flatSecond : List Token :=
  ⟨.keyword, "SELECT", 59⟩ :: ⟨.operator, "*", 66⟩ :: ⟨.keyword, "FROM", 68⟩ ::
    ([⟨.identifier, "e", 73⟩] ++ ([⟨.keyword, "CROSS", 75⟩] ++ ⟨.keyword, "JOIN", 81⟩ ::
      ([⟨.identifier, "f", 86⟩] ++ ([] ++ []))))

/-- The tokens of the script. -/
def flatTokens : List Token :=
  flatFirst ++ ([⟨.keyword, "UNION", 49⟩, ⟨.keyword, "ALL", 55⟩] ++ flatSecond)

theorem spellsBranches_flatTokens : SpellsBranches flatTokens flatBranches := by
  have ofName (name : String) (offset : Nat) :
      SpellsRelation [⟨.identifier, name, offset⟩] (.named name none false) :=
    .bare (.last rfl)
  have aliased : SpellsItem (flatAliased ++ []) ⟨.named "a" (some "x") false, []⟩ :=
    .intro (@SpellsRelation.aliasedAs [⟨.identifier, "a", 14⟩] _ ⟨.keyword, "AS", 16⟩
      ⟨.identifier, "x", 19⟩ (.last (by decide)) (by decide) (by decide)) .nil
  have condition : SpellsComparisons flatCondition :=
    .compare (.dotted (by decide) (by decide) (.last (by decide))) rfl (by decide)
      (.dotted (by decide) (by decide) (.last (by decide)))
  have joined : SpellsItem flatJoined ⟨.named "s.b" none false, [(.inner, .named "c" none false)]⟩ :=
    .intro (.bare (.dotted (by decide) (by decide) (.last (by decide))))
      (@SpellsJoined.cons [] _ _ _ _ _ _ _ _ (by decide) .nil (by decide) (ofName "c" 31)
        (.on (by decide) (by decide) condition) .nil)
  have crossed : SpellsItem _ ⟨.named "e" none false, [(.cross, .named "f" none false)]⟩ :=
    .intro (ofName "e" 73) (@SpellsJoined.cons ["CROSS"] [⟨.keyword, "CROSS", 75⟩] _ _ _
      ⟨.keyword, "JOIN", 81⟩ _ _ _ (by decide) (.cons (by decide) .nil) (by decide) (ofName "f" 86) .cross
        .nil)
  have first : SpellsBranch flatFirst _ :=
    .intro (by decide) (by decide) (by decide)
      (.cons aliased (by decide) (.cons joined (by decide) (.last (.intro (ofName "d" 47) .nil))))
  have second : SpellsBranch flatSecond _ :=
    .intro (by decide) (by decide) (by decide) (.last crossed)
  exact .union first ⟨["UNION", "ALL"], by decide, .cons (by decide) (.cons (by decide) .nil)⟩ (.last second)

/-- On this script the walk and the scan list neither the same relations nor the same joins. -/
theorem collected_scanned_flatScript : ∃ statement, Statement.split .doubled flatScript = [statement] ∧
    ∃ tree ∈ Sql.sourceQuery? .generic statement.normalized,
      SpellsBranches statement.significant flatBranches ∧ tree.flat? = some flatBranches ∧
        ∃ query, collectStatement statement.index tree (rootQuery statement.index .select) =
            { queries := [query] } ∧
          (query.tables.map TableReference.name = ["a", "s.b", "c", "d", "e", "f"] ∧
            query.joins.map (fun join => join.left.name) = ["s.b", "e"]) ∧
          statement.relations.tables.map TableReference.name = ["a", "s.b", "c", "e", "f"] ∧
          statement.relations.joins.map (fun join => join.left.name) = ["a", "a"] := by
  have split : (Statement.split .doubled flatScript).map (fun statement =>
      (statement.significant, statement.normalized)) = [(flatTokens, flatScript)] := by
    decide +kernel
  have parsed : ∃ tree ∈ Sql.sourceQuery? .generic flatScript, tree.flat? = some flatBranches := by
    decide +kernel
  obtain ⟨statement, whole, read⟩ := List.map_eq_singleton_iff.mp split
  obtain ⟨tokens, text⟩ := Prod.mk.inj read
  obtain ⟨tree, isTree, isFlat⟩ := parsed
  have isStatement : statement ∈ Statement.split .doubled flatScript := by simp [whole]
  have spells : SpellsBranches statement.significant flatBranches := tokens ▸ spellsBranches_flatTokens
  obtain ⟨query, item, collected, isFirst, ⟨tables, joins⟩, ⟨seenTables, seenJoins⟩, _, _⟩ :=
    collected_scanned_of_flat isStatement spells isFlat .select
  cases isFirst
  have lefts {joins : List JoinClause} {sides : List JoinSides}
      (same : joins.map JoinClause.sides = sides) :
      joins.map (fun join => join.left.name) = sides.map fun side => side.1.name := by
    rw [← same, List.map_map]
    rfl
  refine ⟨statement, whole, tree, text ▸ isTree, spells, isFlat, query, collected, ⟨?_, ?_⟩, ?_, ?_⟩
  · rw [tables]
    rfl
  · rw [lefts joins]
    rfl
  · rw [seenTables]
    rfl
  · rw [lefts seenJoins]
    rfl

/-- The scan need not find what the walk lists: it loses an item behind one with joins, and takes the first
relation of the statement for that of the item or of the query that a join belongs to. -/
theorem scan_ne_walk :
    ((Statement.split .doubled "SELECT * FROM a JOIN b ON a.x = b.x, c").map fun statement =>
        statement.relations.tables.map TableReference.name) = [["a", "b"]] ∧
    (∃ tree ∈ Sql.sourceQuery? .generic "SELECT * FROM a JOIN b ON a.x = b.x, c",
      (collectQuery 0 tree { query := {} }).query.tables.map TableReference.name = ["a", "b", "c"]) ∧
    ((Statement.split .doubled "SELECT * FROM a, b JOIN c ON b.x = c.x").map fun statement =>
        statement.relations.joins.map fun join => join.left.name) = [["a"]] ∧
    (∃ tree ∈ Sql.sourceQuery? .generic "SELECT * FROM a, b JOIN c ON b.x = c.x",
      (collectQuery 0 tree { query := {} }).query.joins.map (fun join => join.left.name) = ["b"]) ∧
    ((Statement.split .doubled "SELECT * FROM a UNION SELECT * FROM b JOIN c ON b.x = c.x").map
        fun statement => statement.relations.joins.map fun join => join.left.name) = [["a"]] ∧
    ∃ tree ∈ Sql.sourceQuery? .generic "SELECT * FROM a UNION SELECT * FROM b JOIN c ON b.x = c.x",
      (collectQuery 0 tree { query := {} }).query.joins.map (fun join => join.left.name) = ["b"] := by
  decide +kernel

end SqlLineage.Lineage

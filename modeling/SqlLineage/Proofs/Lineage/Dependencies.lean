/-
Module: SqlLineage.Proofs.Lineage.Dependencies
Purpose: What the queries of a statement note as what they depend on. Each notes the common table
  expressions and the nested queries that it refers to, once and in order; and in a statement with a query to
  take rows from these stand before it.
Main exports: Entry, Filled, Produces, IsOrdered, Walk.Orders, exists_ordered, producersFirst
-/
import SqlLineage.Proofs.Lineage.Mentions

namespace SqlLineage.Lineage

open Sql (Frame Mention Block Reading)

/-! ### Names that are noted once -/

namespace Query

variable {query : Query} {names : List String}

/-- A name is noted behind those before it, unless it is one of them. -/
theorem dependsOn_addDependency (noted : query.dependsOn = names.eraseDups) (name : String) :
    (query.addDependency name).dependsOn = (names ++ [name]).eraseDups := by
  have known : query.dependsOn.contains name = names.contains name := by
    rw [noted, Bool.eq_iff_iff, List.contains_iff_mem, List.contains_iff_mem, List.mem_eraseDups]
  rw [Query.addDependency, known, List.eraseDups_append, List.cons_removeAll]
  cases names.contains name with
  | true => simp [noted]
  | false => simp [noted, List.eraseDups_cons]

theorem dependsOn_addTable (noted : query.dependsOn = names.eraseDups) (table : TableReference) :
    (query.addTable table).dependsOn =
      (names ++ if table.isCte then [table.key] else []).eraseDups := by
  rw [Query.addTable]
  cases table.isCte with
  | true => exact dependsOn_addDependency noted table.key
  | false => simpa using noted

end Query

/-! ### Mentions with their references -/

/-- A mention and the reference that stands for it. -/
structure Entry where
  mention : Mention
  reference : TableReference

/-- The name that a query notes for what it reads there: the case-folded one of a common table expression, or
the id of a nested query. -/
def Entry.dependency? (entry : Entry) : Option String :=
  if entry.reference.isCte then some entry.reference.key
  else if entry.mention.isQuery then some entry.reference.name else none

/-- A complete query with what it mentions. It lists the references and has noted what they depend on. -/
structure Filled where
  query : Query
  entries : List Entry
  tables : query.tables = entries.map Entry.reference
  dependsOn : query.dependsOn = (entries.filterMap Entry.dependency?).eraseDups

/-- What a complete query mentions. -/
def Filled.mentions (filled : Filled) : List Mention := filled.entries.map Entry.mention

/-! ### Producers -/

/-- Whether one of these queries produces what is noted under this name: it defines a common table expression
of this case-folded name, or it is nested and has this id. -/
def Produces (queries : List Query) (name : String) : Prop :=
  ∃ query ∈ queries, query.isCte = true ∧ Text.lowercase query.name = name ∨
    query.isSubQuery = true ∧ query.id = name

instance (queries : List Query) (name : String) : Decidable (Produces queries name) :=
  inferInstanceAs (Decidable (∃ query ∈ queries, _ ∨ _))

theorem Produces.mono {queries more : List Query} {name : String} (subset : queries ⊆ more)
    (produces : Produces queries name) : Produces more name := by
  obtain ⟨query, member, kind⟩ := produces
  exact ⟨query, subset member, kind⟩

/-- Whether a mention stands inside the definition of a common table expression of this case-folded name that
may read itself. -/
def InRecursion (mention : Mention) (name : String) : Prop :=
  ∃ earlier itself, Frame.definition true earlier itself ∈ mention.around ∧ Text.lowercase itself = name

/-- Whether what an entry depends on is in scope or produced by these queries, but for a common table
expression that reads itself. The mention stands inside these frames. -/
structure Entry.IsMet (around : List Frame) (scope : List String) (queries : List Query) (entry : Entry) :
    Prop where
  framed : around ⊆ entry.mention.around
  produced : ∀ name, entry.dependency? = some name →
    name ∈ scope ∨ Produces queries name ∨ InRecursion entry.mention name

namespace Entry.IsMet

variable {around : List Frame} {scope : List String} {queries more : List Query} {entry : Entry}

theorem mono (met : entry.IsMet around scope queries) (subset : queries ⊆ more) :
    entry.IsMet around scope more where
  framed := met.framed
  produced name depends := (met.produced name depends).imp_right (Or.imp_left (.mono subset))

theorem outside {frame : Frame} (met : entry.IsMet (frame :: around) scope queries) :
    entry.IsMet around scope queries where
  framed := List.Subset.trans (List.subset_cons_self frame around) met.framed
  produced := met.produced

/-- A name that these queries produce need not be in scope. -/
theorem discharge {key : String} (met : entry.IsMet around (scope ++ [key]) queries)
    (produces : Produces queries key) : entry.IsMet around scope queries where
  framed := met.framed
  produced name depends := by
    rcases met.produced name depends with visible | found
    · rcases List.mem_append.mp visible with outer | here
      · exact .inl outer
      · rw [List.mem_singleton.mp here]
        exact .inr (.inl produces)
    · exact .inr found

/-- Behind its definition a name need not be in scope for what stands inside that. -/
theorem defined {isRecursive : Bool} {earlier : List String} {name : String}
    (met : entry.IsMet (.definition isRecursive earlier name :: around)
      (if isRecursive then scope ++ [Text.lowercase name] else scope) queries) :
    entry.IsMet around scope queries := by
  cases isRecursive with
  | false => exact met.outside
  | true =>
      refine ⟨met.outside.framed, fun other depends => ?_⟩
      rcases met.produced other depends with visible | found
      · rcases List.mem_append.mp visible with outer | here
        · exact .inl outer
        · have inside := met.framed List.mem_cons_self
          exact .inr (.inr ⟨earlier, name, inside, (List.mem_singleton.mp here).symm⟩)
      · exact .inr found

end Entry.IsMet

/-- Whether queries that are complete behind these ones stand in order: what each of them depends on is in
scope or produced before it. -/
def IsOrdered (around : List Frame) (scope : List String) : List Query → List Filled → Prop
  | _, [] => True
  | before, filled :: rest => (∀ entry ∈ filled.entries, entry.IsMet around scope before) ∧
      IsOrdered around scope (before ++ [filled.query]) rest

namespace IsOrdered

variable {around inside : List Frame} {scope inner : List String} {before : List Query}
  {first second : List Filled}

theorem append_iff : IsOrdered around scope before (first ++ second) ↔
    IsOrdered around scope before first ∧
      IsOrdered around scope (before ++ first.map Filled.query) second := by
  induction first generalizing before with
  | nil => simp [IsOrdered]
  | cons filled rest ih => simp [IsOrdered, ih, and_assoc]

/-- Queries stay in order where no more is asked of their entries. -/
theorem imp (ordered : IsOrdered inside inner before first)
    (met : ∀ {queries entry}, before ⊆ queries → Entry.IsMet inside inner queries entry →
      entry.IsMet around scope queries) : IsOrdered around scope before first := by
  induction first generalizing before with
  | nil => exact trivial
  | cons filled rest ih =>
      refine ⟨fun entry member => met (List.Subset.refl _) (ordered.1 entry member), ?_⟩
      apply ih ordered.2
      intro queries entry subset
      exact met (List.Subset.trans (List.subset_append_left _ _) subset)

end IsOrdered

/-! ### A walk completes queries in order -/

namespace Walk

/-- What a walk has added when it has read a part of a syntax tree: complete queries in order, and entries of
the query that is being filled. -/
structure Adds (around : List Frame) (scope : List String) (walk : Walk) (reading : Reading) (later : Walk)
    (inner : List Filled) (own : List Entry) : Prop where
  query : walk.query.SameKind later.query
  queries : later.queries = walk.queries ++ inner.map Filled.query
  tables : later.query.tables = walk.query.tables ++ own.map Entry.reference
  dependsOn : ∀ names : List String, walk.query.dependsOn = names.eraseDups →
    later.query.dependsOn = (names ++ own.filterMap Entry.dependency?).eraseDups
  blocks : reading.inner.map Block.mentions = inner.map Filled.mentions
  mentions : reading.own = own.map Entry.mention
  ordered : IsOrdered around scope walk.queries inner
  met : ∀ entry ∈ own, entry.IsMet around scope later.queries

/-- Whether a walk that reads a part of a syntax tree completes the queries inside it in order. -/
def Orders (around : List Frame) (scope : List String) (walk : Walk) (reading : Reading) (later : Walk) :
    Prop :=
  ∃ inner own, Adds around scope walk reading later inner own

/-- What a walk has added once the query is complete that it has filled: that one behind those inside it. -/
structure Completed (around : List Frame) (scope : List String) (walk : Walk) (reading : Reading)
    (later : Walk) (filled : List Filled) : Prop where
  queries : later.queries ++ [later.query] = walk.queries ++ filled.map Filled.query
  mentions : reading.inner.map Block.mentions ++ [reading.own] = filled.map Filled.mentions
  ordered : IsOrdered around scope walk.queries filled

namespace Orders

variable {around : List Frame} {scope : List String} {walk later last : Walk} {reading behind : Reading}

theorem of_notes (noted : walk.Notes later) : Orders around scope walk {} later := by
  refine ⟨[], [], noted.query, ?_, ?_, ?_, rfl, rfl, trivial, List.forall_mem_nil _⟩
  · rw [noted.queries, List.map_nil, List.append_nil]
  · rw [noted.tables, List.map_nil, List.append_nil]
  · intro names known
    rw [noted.dependsOn, known, List.filterMap_nil, List.append_nil]

theorem append (orders : Orders around scope walk reading later)
    (next : Orders around scope later behind last) : Orders around scope walk (reading ++ behind) last := by
  obtain ⟨inner, own, adds⟩ := orders
  obtain ⟨others, more, addsNext⟩ := next
  have subset : later.queries ⊆ last.queries := by
    rw [addsNext.queries]
    exact List.subset_append_left _ _
  refine ⟨inner ++ others, own ++ more, adds.query.trans addsNext.query, ?_, ?_, ?_, ?_, ?_, ?_, ?_⟩
  · rw [addsNext.queries, adds.queries, List.map_append, List.append_assoc]
  · rw [addsNext.tables, adds.tables, List.map_append, List.append_assoc]
  · intro names known
    rw [addsNext.dependsOn _ (adds.dependsOn names known), List.filterMap_append, List.append_assoc]
  · rw [Sql.Reading.inner_append, List.map_append, List.map_append, adds.blocks, addsNext.blocks]
  · rw [Sql.Reading.own_append, List.map_append, adds.mentions, addsNext.mentions]
  · rw [IsOrdered.append_iff, ← adds.queries]
    exact ⟨adds.ordered, addsNext.ordered⟩
  · have early : ∀ entry ∈ own, entry.IsMet around scope last.queries :=
      fun entry member => (adds.met entry member).mono subset
    exact List.forall_mem_append.mpr ⟨early, addsNext.met⟩

/-- A walk stays in order where no more is asked of its entries. -/
theorem imp {inside : List Frame} {inner : List String} (orders : Orders inside inner walk reading later)
    (met : ∀ {queries entry}, walk.queries ⊆ queries → Entry.IsMet inside inner queries entry →
      entry.IsMet around scope queries) : Orders around scope walk reading later := by
  obtain ⟨filled, own, adds⟩ := orders
  have subset : walk.queries ⊆ later.queries := by
    rw [adds.queries]
    exact List.subset_append_left _ _
  exact ⟨filled, own, adds.query, adds.queries, adds.tables, adds.dependsOn, adds.blocks, adds.mentions,
    adds.ordered.imp met, fun entry member => met subset (adds.met entry member)⟩

/-- A reference to a common table expression is to one in scope. -/
theorem table (name : List Sql.Ident) (aliasName : Option Sql.TableAlias) (walk : Walk) :
    Orders around scope walk
      { own := [⟨around, .table (Text.joinWith "." (name.map Sql.Ident.value))
        (aliasName.map fun aliasName => aliasName.name.value)⟩] }
      (walk.update (·.addTable (referenceTo scope name aliasName))) := by
  let entry : Entry := ⟨⟨around, .table (Text.joinWith "." (name.map Sql.Ident.value))
    (aliasName.map fun aliasName => aliasName.name.value)⟩, referenceTo scope name aliasName⟩
  have depends : entry.dependency? =
      if entry.reference.isCte then some entry.reference.key else none := rfl
  refine ⟨[], [entry], .addTable _ _, by simp, by simp [entry], ?_, rfl, rfl, trivial, ?_⟩
  · intro names known
    show (walk.query.addTable entry.reference).dependsOn = _
    rw [Query.dependsOn_addTable known, List.filterMap_cons, depends]
    cases entry.reference.isCte with
    | true => rfl
    | false => rfl
  · refine List.forall_mem_singleton.mpr ⟨List.Subset.refl _, fun noted known => ?_⟩
    rw [depends] at known
    split at known
    · next isCte =>
        rw [← Option.some.inj known]
        exact .inl (List.contains_iff_mem.mp isCte)
    · cases known

theorem sameKind (orders : Orders around scope walk reading later) :
    walk.query.SameKind later.query := by
  obtain ⟨_, _, adds⟩ := orders
  exact adds.query

/-- A query that was empty before the walk is complete behind it, after those inside it. -/
theorem exists_completed (orders : Orders around scope walk reading later)
    (unread : walk.query.tables = []) (free : walk.query.dependsOn = []) :
    ∃ filled, Completed around scope walk reading later filled := by
  obtain ⟨inner, own, adds⟩ := orders
  have tables := adds.tables
  rw [unread, List.nil_append] at tables
  let last : Filled := ⟨later.query, own, tables, adds.dependsOn [] free⟩
  refine ⟨inner ++ [last], ?_, ?_, ?_⟩
  · rw [adds.queries, List.map_append, List.append_assoc]
    rfl
  · rw [adds.blocks, adds.mentions, List.map_append]
    rfl
  · rw [IsOrdered.append_iff]
    refine ⟨adds.ordered, ?_, trivial⟩
    rw [← adds.queries]
    exact adds.met

section Fill

variable {fill : Walk → Walk}

/-- A nested query is complete before the one around it refers to it. -/
theorem nested (fills : ∀ walk, Orders around scope walk reading (fill walk)) (index : Nat)
    (aliasName : Option String) (walk : Walk) :
    Orders around scope walk (reading.asNested around aliasName) (walk.nested index aliasName fill) := by
  let start : Walk := { walk with
    nestedCount := walk.nestedCount + 1, query := emptyNested index walk.nestedCount aliasName }
  have kept := (fills start).sameKind
  obtain ⟨filled, completed⟩ := (fills start).exists_completed rfl rfl
  let entry : Entry := ⟨⟨around, .query aliasName⟩,
    .named (QueryId.nested index walk.nestedCount).text aliasName false⟩
  refine ⟨filled, [entry], (Query.SameKind.addDependency _ walk.query).trans (.addTable _ _),
    completed.queries, ?_, ?_, ?_, rfl, completed.ordered, ?_⟩
  · show (Query.addTable _ (Query.addDependency _ walk.query)).tables = _
    rw [Query.tables_addTable, Query.tables_addDependency]
    rfl
  · intro names known
    exact Query.dependsOn_addDependency known (QueryId.nested index walk.nestedCount).text
  · rw [← completed.mentions, Sql.Reading.asNested, List.map_append]
    rfl
  · refine List.forall_mem_singleton.mpr ⟨List.Subset.refl _, fun name depends => .inr (.inl ?_)⟩
    obtain rfl := Option.some.inj depends
    have listed : (fill start).query ∈ (walk.nested index aliasName fill).queries :=
      List.mem_append_right _ List.mem_cons_self
    exact ⟨(fill start).query, listed, .inr ⟨kept.isSubQuery, kept.id⟩⟩

/-- A definition is complete when it is declared. -/
theorem definition {isRecursive : Bool} {earlier : List String} {name : String}
    (fills : ∀ walk, Orders (.definition isRecursive earlier name :: around)
      (if isRecursive then scope ++ [Text.lowercase name] else scope) walk reading (fill walk))
    (index : Nat) (walk : Walk) :
    Orders around scope walk reading.asDefinition (walk.declared index name fill) := by
  let start : Walk := { walk with query := emptyDefinition index name }
  have outside : Orders around scope start reading (fill start) :=
    (fills start).imp fun _ met => met.defined
  obtain ⟨filled, completed⟩ := outside.exists_completed rfl rfl
  refine ⟨filled, [], .refl _, completed.queries, ?_, ?_, ?_, rfl, completed.ordered,
    List.forall_mem_nil _⟩
  · exact (List.append_nil walk.query.tables).symm
  · intro names known
    rw [List.filterMap_nil, List.append_nil]
    exact known
  · rw [← completed.mentions, Sql.Reading.asDefinition, List.map_append]
    rfl

/-- What is declared is produced from then on. -/
theorem produces_declared (index : Nat) (name : String)
    (kept : ∀ walk : Walk, walk.query.SameKind (fill walk).query) (walk : Walk) :
    Produces (walk.declared index name fill).queries (Text.lowercase name) := by
  have sameKind := kept { walk with query := emptyDefinition index name }
  exact ⟨_, List.mem_append_right _ List.mem_cons_self,
    .inl ⟨sameKind.isCte, congrArg Text.lowercase sameKind.name⟩⟩

end Fill

end Orders

/-- Each step of a walk keeps the queries in order. -/
theorem orders_steps (index : Nat) : Walk.Steps index Orders where
  notes noted := .of_notes noted
  append := .append
  table _ name aliasName walk := .table name aliasName walk
  nested fills := .nested fills index
  declared fills walk _ _ behind := by
    apply (Orders.definition fills index walk).append
    apply behind.imp
    intro queries entry subset met
    apply met.discharge
    exact (Orders.produces_declared index _ (fun walk => (fills walk).sameKind) walk).mono subset
  body orders := orders.imp fun _ met => met.outside

end Walk

/-! ### The queries of a statement -/

theorem flatten_mentionLists (tree : Sql.Query) :
    (mentionLists tree).flatten = (tree.reading []).mentions := by
  rw [mentionLists, List.flatten_append, ← List.flatMap_def, List.flatten_singleton]
  rfl

/-- The queries of a statement are complete, with all that its syntax tree mentions, and stand in order. -/
theorem exists_ordered (index : Nat) (tree : Sql.Query) {root : Query} (unread : root.tables = [])
    (free : root.dependsOn = []) :
    ∃ filled : List Filled, (collectStatement index tree root).queries = filled.map Filled.query ∧
      mentionLists tree = filled.map Filled.mentions ∧ IsOrdered [] [] [] filled := by
  have orders := (Walk.orders_steps index).onQuery isScope_nil tree { query := root }
  obtain ⟨filled, completed⟩ := orders.exists_completed unread free
  refine ⟨filled, ?_, completed.mentions, completed.ordered⟩
  rw [queries_collectStatement]
  exact completed.queries

/-- The name that a query notes for a reference, in a statement whose nested queries have these ids. -/
def TableReference.dependency? (nested : List String) (reference : TableReference) : Option String :=
  if reference.isCte then some reference.key
  else if nested.contains reference.name then some reference.name else none

/-- Whether what a statement reads can be told from its names. No relation is mentioned inside a common table
expression that may read itself, as those of `WITH RECURSIVE` may, and none has the id of a nested query as
its name. -/
structure IsPlain (tree : Sql.Query) : Prop where
  unrecursive : ∀ mention ∈ (tree.reading []).mentions, ∀ frame ∈ mention.around,
    frame.isRecursive = false
  unnumbered : ∀ mention ∈ (tree.reading []).mentions, ∀ name aliasName,
    mention.table? = some (name, aliasName) → ∀ index number, name ≠ (QueryId.nested index number).text

namespace Filled

variable {filled : Filled} {nested : List String}

/-- In a complete query each reference stands for the mention that it has an entry with. -/
theorem entry_known (known : filled.query.Mentions nested filled.mentions) {entry : Entry}
    (member : entry ∈ filled.entries) : Resolves entry.mention entry.reference ∧
      (entry.mention.isQuery = true → entry.reference.name ∈ nested) := by
  constructor
  · have resolves := known.resolves
    rw [mentions, filled.tables, List.forall₂_map_left_iff, List.forall₂_map_right_iff,
      List.forall₂_same] at resolves
    exact resolves entry member
  · apply known.named entry.mention entry.reference
    rw [mentions, filled.tables, List.zip_map']
    exact List.mem_map_of_mem member

/-- Where no relation has the name of a nested query, references can be told apart by their names. -/
theorem dependsOn_eq (known : filled.query.Mentions nested filled.mentions)
    (plain : ∀ mention ∈ filled.mentions, ∀ name aliasName, mention.table? = some (name, aliasName) →
      name ∉ nested) :
    filled.query.dependsOn =
      (filled.query.tables.filterMap (TableReference.dependency? nested)).eraseDups := by
  rw [filled.dependsOn, filled.tables, List.filterMap_map]
  apply congrArg
  apply List.filterMap_congr
  intro entry member
  obtain ⟨resolves, named⟩ := entry_known known member
  have unnumbered := plain entry.mention (List.mem_map_of_mem member)
  obtain ⟨⟨around, source⟩, reference⟩ := entry
  rw [Entry.dependency?, Function.comp_apply, TableReference.dependency?]
  cases source with
  | table name aliasName =>
      have outside : ¬ nested.contains reference.name = true := by
        rw [List.contains_iff_mem, resolves.1]
        exact unnumbered name aliasName rfl
      rw [if_neg outside]
      rfl
  | query aliasName =>
      have inside : nested.contains reference.name = true := List.contains_iff_mem.mpr (named rfl)
      rw [if_pos inside]
      rfl

end Filled

/-- Whether the queries of a statement note what they read: each the common table expressions and the nested
queries that it refers to, once and in the order of its references. If the statement has a query to take rows
from, that is each time a query before it. -/
structure StatementLineage.ProducersFirst (isRead : Bool) (lineage : StatementLineage) : Prop where
  dependsOn : ∀ query ∈ lineage.queries, query.dependsOn =
    (query.tables.filterMap (TableReference.dependency? (nestedIds lineage.queries))).eraseDups
  produced : isRead = true → ∀ before query after, lineage.queries = before ++ query :: after →
    ∀ name ∈ query.dependsOn, Produces before name

section Collected

variable (index : Nat) {tree : Sql.Query} {root : Query}

/-- What a query of a statement mentions is mentioned in the statement. -/
theorem mem_mentions_of_mem {filled : List Filled} (lists : mentionLists tree = filled.map Filled.mentions)
    {query : Filled} (member : query ∈ filled) {mention : Mention} (listed : mention ∈ query.mentions) :
    mention ∈ (tree.reading []).mentions := by
  rw [← flatten_mentionLists, lists]
  exact List.mem_flatten.mpr ⟨_, List.mem_map_of_mem member, listed⟩

theorem exists_number_of_mem_nestedIds (bears : root.Bears index (.statement index)) {name : String}
    (listed : name ∈ nestedIds (collectStatement index tree root).queries) :
    ∃ number, name = (QueryId.nested index number).text := by
  obtain ⟨query, nested, rfl⟩ := List.mem_map.mp listed
  obtain ⟨member, isSubQuery⟩ := List.mem_filter.mp nested
  obtain ⟨_, queryBears⟩ := (isNamed_collectStatement tree bears).bears query member
  exact queryBears.exists_nested isSubQuery

variable (isPlain : IsPlain tree) (unread : root.tables = []) (free : root.dependsOn = [])

include isPlain unread free

theorem dependsOn_collectStatement (bears : root.Bears index (.statement index)) :
    ∀ query ∈ (collectStatement index tree root).queries, query.dependsOn = (query.tables.filterMap
      (TableReference.dependency? (nestedIds (collectStatement index tree root).queries))).eraseDups := by
  obtain ⟨filled, queries, lists, _⟩ := exists_ordered index tree unread free
  have known := mentions_collectStatement index tree unread
  have numbered := @exists_number_of_mem_nestedIds index tree root bears
  generalize nestedIds (collectStatement index tree root).queries = nested at numbered known ⊢
  rw [queries, lists, List.forall₂_map_left_iff, List.forall₂_map_right_iff, List.forall₂_same] at known
  rw [queries]
  intro query member
  obtain ⟨query, isFilled, rfl⟩ := List.mem_map.mp member
  apply Filled.dependsOn_eq (known query isFilled)
  intro mention listed name aliasName named isNested
  obtain ⟨number, isText⟩ := numbered isNested
  have isMentioned := mem_mentions_of_mem lists isFilled listed
  exact isPlain.unnumbered mention isMentioned name aliasName named index number isText

theorem produces_collectStatement {before after : List Query} {query : Query}
    (split : (collectStatement index tree root).queries = before ++ query :: after) :
    ∀ name ∈ query.dependsOn, Produces before name := by
  obtain ⟨filled, queries, lists, ordered⟩ := exists_ordered index tree unread free
  rw [queries] at split
  obtain ⟨first, rest, rfl, rfl, isRest⟩ := List.map_eq_append_iff.mp split
  obtain ⟨query, last, rfl, rfl, rfl⟩ := List.map_eq_cons_iff.mp isRest
  intro name depends
  rw [query.dependsOn, List.mem_eraseDups] at depends
  obtain ⟨entry, member, isNoted⟩ := List.mem_filterMap.mp depends
  have met := (IsOrdered.append_iff.mp ordered).2.1 entry member
  rcases met.produced name isNoted with visible | produced | ⟨earlier, itself, inside, _⟩
  · cases visible
  · exact produced
  · have isMentioned := mem_mentions_of_mem lists (List.mem_append_right _ List.mem_cons_self)
      (List.mem_map_of_mem member)
    exact absurd (isPlain.unrecursive entry.mention isMentioned _ inside) Bool.noConfusion

end Collected

/-- A query notes the common table expressions among relations that are listed at once. -/
theorem dependsOn_foldl_addTable {query : Query} {names : List String}
    (noted : query.dependsOn = names.eraseDups) (tables : List TableReference) :
    (tables.foldl (fun query table => query.addTable table) query).dependsOn =
      (names ++ tables.filterMap (TableReference.dependency? [])).eraseDups := by
  induction tables generalizing query names with
  | nil =>
      rw [List.filterMap_nil, List.append_nil]
      exact noted
  | cons table rest ih =>
      rw [List.foldl_cons, ih (Query.dependsOn_addTable noted table), List.append_assoc,
        List.filterMap_cons, TableReference.dependency?]
      cases table.isCte with
      | true => rfl
      | false => rfl

/-- A statement whose tokens are scanned has one query, which notes what it reads. -/
theorem producersFirst_scanned (scan : Script.RelationScan) {index : Nat} {root : Query}
    (bears : root.Bears index (.statement index)) (unread : root.tables = [])
    (free : root.dependsOn = []) :
    StatementLineage.ProducersFirst false { queries := [applyScan scan root] } := by
  have sameKind := sameKind_foldl_addTable scan.tables root
  have notNested : (applyScan scan root).isSubQuery = false := by
    cases bears with
    | statement _ _ isSubQuery => exact sameKind.isSubQuery.trans isSubQuery
  have nested : nestedIds [applyScan scan root] = [] := by
    rw [nestedIds, List.filter_cons_of_neg (by rw [notNested]; exact Bool.false_ne_true)]
    rfl
  have tables : (applyScan scan root).tables = scan.tables := by
    rw [applyScan, tables_foldl_addTable, unread, List.nil_append]
  refine ⟨List.forall_mem_singleton.mpr ?_, fun isRead => absurd isRead Bool.false_ne_true⟩
  rw [nested, tables]
  exact @dependsOn_foldl_addTable root [] free scan.tables

/-- The queries of a statement note what they read, and with a query to take rows from each stands behind what
it reads. -/
theorem producersFirst {read : String → Option Sql.Query} {statement : Script.Statement}
    {lineage : StatementLineage} (contributes : statementLineage? read statement = some lineage)
    (isPlain : ∀ tree, read statement.normalized = some tree → IsPlain tree) :
    lineage.ProducersFirst (read statement.normalized).isSome := by
  simp only [statementLineage?, Option.bind_eq_bind, Option.bind_eq_some_iff] at contributes
  obtain ⟨kind, _, contributes⟩ := contributes
  have bears := bears_rootQuery statement.index kind
  have unread := tables_rootQuery statement.index kind
  have free := dependsOn_rootQuery statement.index kind
  split at contributes
  · next tree isTree =>
      obtain rfl := Option.some.inj contributes
      rw [isTree]
      have isPlain := isPlain tree isTree
      exact ⟨dependsOn_collectStatement statement.index isPlain unread free bears,
        fun _ _ _ _ split => produces_collectStatement statement.index isPlain unread free split⟩
  · next isNone =>
      split at contributes
      · cases contributes
      · obtain rfl := Option.some.inj contributes
        rw [isNone]
        exact producersFirst_scanned statement.relations bears unread free

/-- A statement that reads a common table expression, in another case, and a nested query. -/
theorem producersFirst_nested :
    ∃ statement ∈ Script.Statement.split .doubled "WITH a AS(SELECT 1)SELECT 1 FROM A,(SELECT 1)x",
      ∃ lineage, statementLineage? (Sql.sourceQuery? .generic) statement = some lineage ∧
        lineage.queries.map Query.dependsOn = [[], [], ["a", "sub_0_0"]] ∧
        lineage.ProducersFirst true := by
  have read : ∃ statement ∈ Script.Statement.split .doubled
        "WITH a AS(SELECT 1)SELECT 1 FROM A,(SELECT 1)x",
      ∃ tree ∈ Sql.sourceQuery? .generic statement.normalized,
        statement.kind? = some .withSelect ∧
        (collectStatement statement.index tree (rootQuery statement.index .withSelect)).queries.map
          Query.dependsOn = [[], [], ["a", "sub_0_0"]] ∧
        ∀ mention ∈ (tree.reading []).mentions,
          (∀ frame ∈ mention.around, frame.isRecursive = false) ∧
            ∀ table ∈ mention.table?, '_' ∉ table.1.toList := by
    decide +kernel
  obtain ⟨statement, member, tree, isTree, kind, noted, plain⟩ := read
  have contributes : statementLineage? (Sql.sourceQuery? .generic) statement =
      some (collectStatement statement.index tree (rootQuery statement.index .withSelect)) := by
    rw [statementLineage?, kind, Option.mem_def.mp isTree]
    rfl
  have isPlain : IsPlain tree := by
    refine ⟨fun mention listed => (plain mention listed).1, ?_⟩
    intro mention listed name aliasName named index number isText
    apply (plain mention listed).2 (name, aliasName) named
    rw [isText]
    exact QueryId.mem_text _
  refine ⟨statement, member, _, contributes, noted, ?_⟩
  have first := producersFirst contributes fun other isOther => by
    rwa [← Option.some.inj (isTree.symm.trans isOther)]
  rwa [Option.mem_def.mp isTree] at first

/-- Whether a statement is in the grammar of a dialect. -/
def isAccepted (dialect : Sql.Dialect) (statement : String) : Bool :=
  match Sql.tokenize? dialect statement with
  | none => false
  | some tokens =>
    let rules := Sql.Grammar.rulesFor dialect tokens.length
    match (Sql.Grammar.statements rules).run { tokens, depth := Sql.Grammar.maxDepth } with
    | .ok _ => true
    | .error _ => false

/-- A statement in the grammar that has no query to take rows from is scanned. What is found there may depend
on a common table expression that no query of the statement defines. -/
theorem scanned_dependency_unproduced :
    ∃ statement ∈ Script.Statement.split .doubled
        "INSERT INTO t DEFAULT VALUES RETURNING (WITH a AS(SELECT 1)SELECT 1 FROM a)",
      isAccepted .generic statement.normalized = true ∧
      ∃ lineage ∈ statementLineage? (Sql.sourceQuery? .generic) statement,
        ∃ query ∈ lineage.queries, "a" ∈ query.dependsOn ∧ ¬ Produces lineage.queries "a" := by
  decide +kernel

end SqlLineage.Lineage

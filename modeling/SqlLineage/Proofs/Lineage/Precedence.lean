/-
Module: SqlLineage.Proofs.Lineage.Precedence
Purpose: What a query reads stands before it. In a statement that the grammar reads, a common table
  expression or a nested query is complete before each query that refers to it, unless common table
  expressions read themselves or a name that is written is one that is made up.
Main exports: IsMadeUp, IsForeseeable, Query.Supplies, exists_supplier, exists_block, exists_supplier_before
-/
import SqlLineage.Proofs.Lineage.Dependencies

namespace SqlLineage.Lineage

/-! ### Made-up names -/

/-- Whether a name has the form of the ids that are made up for the queries inside statements. -/
inductive IsMadeUp : String → Prop where
  | declared (index : Nat) (key : String) : IsMadeUp (QueryId.declared index key).text
  | nested (index number : Nat) : IsMadeUp (QueryId.nested index number).text

theorem mem_of_isMadeUp {name : String} (isMadeUp : IsMadeUp name) : '_' ∈ name.toList := by
  cases isMadeUp with
  | declared index key => exact QueryId.mem_text _
  | nested index number => exact QueryId.mem_text _

theorem head_of_isMadeUp {name : String} (isMadeUp : IsMadeUp name) :
    name.toList.head? = some 'c' ∨ name.toList.head? = some 's' := by
  cases isMadeUp with
  | declared index key =>
      left
      simp [QueryId.text, String.toList_append]
  | nested index number =>
      right
      simp [QueryId.text, String.toList_append]

/-! ### The queries of a statement -/

/-- Whether a mention is foreseeable: it does not stand inside a common table expression that may read
itself, and its name, if it has one, is not made up in any letter case. -/
structure IsForeseeable (mention : Sql.Mention) : Prop where
  unrecursive : ∀ frame ∈ mention.around, frame.isRecursive = false
  named : ∀ name aliasName, mention.table? = some (name, aliasName) → ¬ IsMadeUp (Text.lowercase name)

/-- Whether a query is what a reference is to: the common table expression of its name, or the nested query
of that id. -/
inductive Query.Supplies (producer : Query) (table : TableReference) : Prop where
  | declared (isCte : producer.isCte = true) (marked : table.isCte = true)
      (named : Text.lowercase producer.name = table.key)
  | nested (isSubQuery : producer.isSubQuery = true) (plain : table.isCte = false)
      (named : producer.id = table.key)

/-- Whether a reference is to a query inside a statement, which it is marked for or shows by its name. -/
def TableReference.IsInward (table : TableReference) : Prop :=
  table.isCte = true ∨ IsMadeUp table.key

namespace Query.Supplies

variable {producer later : Query} {table : TableReference} {source : Nat} {id : QueryId}

/-- A reference shows the id of the query that it is to. -/
theorem id_eq (supplies : producer.Supplies table) (bears : producer.Bears source id) :
    producer.id = if table.isCte then (QueryId.declared source table.key).text else table.key := by
  cases supplies with
  | declared isCte marked named => rw [if_pos marked, bears.text, bears.eq_declared isCte, named]
  | nested isSubQuery plain named => rw [plain, named, if_neg Bool.false_ne_true]

theorem isInward (supplies : producer.Supplies table) (bears : producer.Bears source id) :
    table.IsInward := by
  cases supplies with
  | declared _ marked _ => exact .inl marked
  | nested isSubQuery _ named =>
      obtain ⟨number, isText⟩ := bears.exists_nested isSubQuery
      right
      rw [← named, isText]
      exact .nested source number

theorem of_sameKind (supplies : producer.Supplies table) (sameKind : producer.SameKind later) :
    later.Supplies table := by
  cases supplies with
  | declared isCte marked named =>
      refine .declared (sameKind.isCte.trans isCte) marked ?_
      rw [sameKind.name, named]
  | nested isSubQuery plain named =>
      exact .nested (sameKind.isSubQuery.trans isSubQuery) plain (sameKind.id.trans named)

end Query.Supplies

section Collected

variable (index : Nat) {tree : Sql.Query} {root : Query}
  (foreseeable : ∀ mention ∈ (tree.reading []).mentions, IsForeseeable mention)
  (unread : root.tables = []) (free : root.dependsOn = []) (bears : root.Bears index (.statement index))
  (declaredApart : ∀ query ∈ (collectStatement index tree root).queries, query.isCte = true →
    ¬ IsMadeUp (Text.lowercase query.name))

include foreseeable unread free bears declaredApart

/-- A query of a statement that the grammar reads stands behind those that its references are to. -/
theorem exists_supplier {before after : List Query} {query : Query}
    (split : (collectStatement index tree root).queries = before ++ query :: after)
    {table : TableReference} (listed : table ∈ query.tables) (inward : table.IsInward) :
    ∃ producer ∈ before, producer.Supplies table := by
  obtain ⟨filled, queries, lists, ordered⟩ := exists_ordered index tree unread free
  have known := mentions_collectStatement index tree unread
  have numbered : ∀ name ∈ nestedIds (collectStatement index tree root).queries, IsMadeUp name := by
    intro name isNested
    obtain ⟨number, rfl⟩ := exists_number_of_mem_nestedIds index bears isNested
    exact .nested index number
  have folded : ∀ other ∈ (collectStatement index tree root).queries,
      Text.lowercase other.id = other.id := by
    intro other member
    obtain ⟨_, otherBears⟩ := (isNamed_collectStatement tree bears).bears other member
    exact otherBears.lowercase_id
  have isNested : ∀ other ∈ (collectStatement index tree root).queries, other.isSubQuery = true →
      other.id ∈ nestedIds (collectStatement index tree root).queries :=
    fun other member isSubQuery => List.mem_map_of_mem (List.mem_filter.mpr ⟨member, isSubQuery⟩)
  have early : ∀ other ∈ before, other ∈ (collectStatement index tree root).queries :=
    fun other member => split ▸ List.mem_append_left _ member
  generalize nestedIds (collectStatement index tree root).queries = nested at known numbered isNested
  rw [queries, lists, List.forall₂_map_left_iff, List.forall₂_map_right_iff, List.forall₂_same] at known
  have split := queries ▸ split
  obtain ⟨first, rest, rfl, rfl, isRest⟩ := List.map_eq_append_iff.mp split
  obtain ⟨query, last, rfl, rfl, rfl⟩ := List.map_eq_cons_iff.mp isRest
  rw [query.tables] at listed
  obtain ⟨entry, member, rfl⟩ := List.mem_map.mp listed
  have isFilled : query ∈ first ++ query :: last := List.mem_append_right _ List.mem_cons_self
  have met := (IsOrdered.append_iff.mp ordered).2.1 entry member
  rw [List.nil_append] at met
  obtain ⟨resolves, named⟩ := Filled.entry_known (known query isFilled) member
  have isForeseeable := foreseeable entry.mention
    (mem_mentions_of_mem lists isFilled (List.mem_map_of_mem member))
  -- What the entry depends on is produced before, because nothing reads itself.
  have produced : ∀ name, entry.dependency? = some name → Produces (first.map Filled.query) name := by
    intro name depends
    rcases met.produced name depends with visible | produced | ⟨earlier, itself, inside, _⟩
    · cases visible
    · exact produced
    · exact absurd (isForeseeable.unrecursive _ inside) Bool.noConfusion
  obtain ⟨⟨around, source⟩, reference⟩ := entry
  cases source with
  | table name aliasName =>
      obtain ⟨sameName, _, _⟩ := resolves
      have apart : ¬ IsMadeUp reference.key := by
        rw [TableReference.key, sameName]
        exact isForeseeable.named name aliasName rfl
      have marked : reference.isCte = true := inward.resolve_right apart
      obtain ⟨producer, isBefore, ⟨isCte, sameKey⟩ | ⟨isSubQuery, sameId⟩⟩ :=
        produced reference.key (if_pos marked)
      · exact ⟨producer, isBefore, .declared isCte marked sameKey⟩
      · rw [← sameId] at apart
        exact absurd (numbered _ (isNested producer (early producer isBefore) isSubQuery)) apart
  | query aliasName =>
      have plain : reference.isCte = false := resolves.2
      have madeUp : IsMadeUp reference.name := numbered _ (named rfl)
      have depends : Entry.dependency? ⟨⟨around, .query aliasName⟩, reference⟩ = some reference.name := by
        rw [Entry.dependency?, plain]
        rfl
      obtain ⟨producer, isBefore, ⟨isCte, sameKey⟩ | ⟨isSubQuery, sameId⟩⟩ := produced _ depends
      · rw [← sameKey] at madeUp
        exact absurd madeUp (declaredApart producer (early producer isBefore) isCte)
      · refine ⟨producer, isBefore, .nested isSubQuery plain ?_⟩
        rw [TableReference.key, ← sameId, folded producer (early producer isBefore)]

end Collected

/-! ### The queries of a script -/

/-- An item of joined blocks stands in one of them, and what is before it there is before it at all. -/
theorem exists_of_getElem?_flatMap {α β : Type} {blocks : List α} {items : α → List β} {position : Nat}
    {item : β} (located : (blocks.flatMap items)[position]? = some item) :
    ∃ block ∈ blocks, ∃ before after, items block = before ++ item :: after ∧
      ∀ other ∈ before, ∃ earlier < position, (blocks.flatMap items)[earlier]? = some other := by
  induction blocks generalizing position with
  | nil => cases located
  | cons block rest ih =>
      rw [List.flatMap_cons] at located ⊢
      by_cases here : position < (items block).length
      · rw [List.getElem?_append_left here, List.getElem?_eq_some_iff] at located
        obtain ⟨_, rfl⟩ := located
        refine ⟨block, List.mem_cons_self, (items block).take position, (items block).drop (position + 1),
          ?_, ?_⟩
        · rw [List.getElem_cons_drop, List.take_append_drop]
        · intro other member
          obtain ⟨earlier, bound, rfl⟩ := List.mem_take_iff_getElem.mp member
          refine ⟨earlier, by omega, ?_⟩
          rw [List.getElem?_append_left (by omega), List.getElem?_eq_getElem]
      · rw [List.getElem?_append_right (by omega)] at located
        obtain ⟨found, member, before, after, split, earlier⟩ := ih located
        refine ⟨found, List.mem_cons_of_mem _ member, before, after, split, ?_⟩
        intro other isBefore
        obtain ⟨index, lower, isOther⟩ := earlier other isBefore
        refine ⟨(items block).length + index, by omega, ?_⟩
        rw [List.getElem?_append_right (by omega), Nat.add_sub_cancel_left, isOther]

section Script

variable {read : String → Option Sql.Query} {escapes : Script.QuoteEscapes} {script : String}
  {position source : Nat} {query : Query}

/-- A query of a script stands in what its statement contributes, behind queries that stand before it in the
script. -/
theorem exists_block (located : (sourcedQueries read escapes script)[position]? = some (source, query)) :
    ∃ statement ∈ Script.Statement.split escapes script, statement.index = source ∧
      ∃ lineage, statementLineage? read statement = some lineage ∧
        ∃ before collected after, lineage.queries = before ++ collected :: after ∧
          collected.unmarked = query.unmarked ∧
          ∀ other ∈ before, ∃ earlier < position, ∃ producer,
            (sourcedQueries read escapes script)[earlier]? = some (source, producer) ∧
              producer.unmarked = other.unmarked := by
  have unmarked : ((contributions read escapes script).flatMap fun contribution =>
      contribution.2.queries.map fun query => (contribution.1, query.unmarked))[position]? =
        some (source, query.unmarked) := by
    rw [← map_unmarked_sourcedQueries, List.getElem?_map, located]
    rfl
  obtain ⟨⟨index, lineage⟩, isContribution, before, after, split, earlier⟩ :=
    exists_of_getElem?_flatMap unmarked
  obtain ⟨statement, member, contributes⟩ := List.mem_filterMap.mp isContribution
  obtain ⟨_, isLineage, same⟩ := Option.map_eq_some_iff.mp contributes
  obtain ⟨rfl, rfl⟩ := Prod.mk.inj same
  obtain ⟨first, rest, queries, rfl, isRest⟩ := List.map_eq_append_iff.mp split
  obtain ⟨collected, last, rfl, isQuery, rfl⟩ := List.map_eq_cons_iff.mp isRest
  obtain ⟨rfl, sameQuery⟩ := Prod.mk.inj isQuery
  refine ⟨statement, member, rfl, _, isLineage, first, collected, last, queries, sameQuery, ?_⟩
  intro other isBefore
  obtain ⟨index, lower, isOther⟩ := earlier _ (List.mem_map_of_mem isBefore)
  rw [← map_unmarked_sourcedQueries, List.getElem?_map] at isOther
  obtain ⟨⟨another, producer⟩, isProducer, same⟩ := Option.map_eq_some_iff.mp isOther
  obtain ⟨rfl, sameProducer⟩ := Prod.mk.inj same
  exact ⟨index, lower, producer, isProducer, sameProducer⟩

/-- Only a statement that the grammar reads has queries inside it. -/
theorem isRead_of_not_isStatementLevel
    (located : (sourcedQueries read escapes script)[position]? = some (source, query))
    (inner : query.isStatementLevel = false) : IsRead read escapes script source := by
  obtain ⟨statement, member, rfl, lineage, contributes, before, collected, after, split, same, _⟩ :=
    exists_block located
  rw [isRead_iff member]
  cases contributes_of_statementLineage? contributes with
  | collected isTree =>
      rw [isTree]
      rfl
  | @scanned kind isNone =>
      have isOwn : collected ∈ before ++ collected :: after := List.mem_append_right _ List.mem_cons_self
      rw [← split, List.mem_singleton] at isOwn
      have filled := extends_foldl_addTable statement.relations.tables (rootQuery statement.index kind)
      have level : collected.isStatementLevel = true := by
        rw [isOwn]
        exact filled.isStatementLevel.trans (rootQuery_spec statement.index kind).1
      have sameLevel : collected.unmarked.isStatementLevel = query.unmarked.isStatementLevel := by
        rw [same]
      exact Bool.noConfusion (inner.symm.trans (sameLevel.symm.trans level))

/-- What a query of a script reads that stands for a query inside its statement stands before it. -/
theorem exists_supplier_before
    (foreseeable : ∀ mentions ∈ scriptMentions read escapes script, ∀ mention ∈ mentions,
      IsForeseeable mention)
    (declaredApart : ∀ declaration ∈ declarations read escapes script, ¬ IsMadeUp declaration.2)
    (isRead : IsRead read escapes script source)
    (located : (sourcedQueries read escapes script)[position]? = some (source, query))
    {table : TableReference} (listed : table ∈ query.tables) (inward : table.IsInward) :
    ∃ earlier < position, ∃ producer,
      (sourcedQueries read escapes script)[earlier]? = some (source, producer) ∧
        producer.Supplies table := by
  obtain ⟨statement, member, rfl, lineage, contributes, before, collected, after, split, same, earlier⟩ :=
    exists_block located
  have isSome := (isRead_iff member).mp isRead
  have isContribution : (statement.index, lineage) ∈ contributions read escapes script :=
    List.mem_filterMap.mpr ⟨statement, member, by rw [contributes]; rfl⟩
  have apart : ∀ query ∈ lineage.queries, query.isCte = true → ¬ IsMadeUp (Text.lowercase query.name) := by
    intro definition isDefinition isCte
    obtain ⟨found, sourced, sameFound⟩ := exists_sourced isContribution isDefinition
    have sameKind := sameKind_of_unmarked_eq sameFound
    rw [sameKind.name]
    exact declaredApart (statement.index, Text.lowercase found.name)
      (mem_declarations_iff.mpr ⟨found, sourced, sameKind.isCte.symm.trans isCte, rfl⟩)
  have mentioned : ∀ tree, read statement.normalized = some tree →
      ∀ mention ∈ (tree.reading []).mentions, IsForeseeable mention := by
    intro tree isTree mention isMention
    rw [← flatten_mentionLists, List.mem_flatten] at isMention
    obtain ⟨mentions, isList, inList⟩ := isMention
    refine foreseeable mentions (List.mem_flatMap.mpr ⟨statement, member, ?_⟩) mention inList
    rw [statementMentions, contributes, isTree]
    exact isList
  have isTable : table ∈ collected.tables := by
    rw [tables_eq_of_unmarked_eq same]
    exact listed
  cases contributes_of_statementLineage? contributes with
  | scanned isNone =>
      rw [isNone] at isSome
      cases isSome
  | @collected kind tree isTree =>
      obtain ⟨other, isBefore, supplies⟩ := exists_supplier statement.index (mentioned tree isTree)
        (tables_rootQuery statement.index kind) (dependsOn_rootQuery statement.index kind)
        (bears_rootQuery statement.index kind) apart split isTable inward
      obtain ⟨index, lower, producer, isProducer, sameProducer⟩ := earlier other isBefore
      exact ⟨index, lower, producer, isProducer,
        supplies.of_sameKind (sameKind_of_unmarked_eq sameProducer.symm)⟩

end Script

end SqlLineage.Lineage

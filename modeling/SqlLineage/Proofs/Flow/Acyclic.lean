/-
Module: SqlLineage.Proofs.Flow.Acyclic
Purpose: When the graph of a script has no back edge. The joins and the result of a query inside a statement
  come behind what the query reads, because that stands before it; those of a statement's own query come last.
  So no edges run in a circle, unless a common table expression reads itself or shares its name, a relation
  that is written is read again, or a name that is written is one that is made up.
Main exports: Classifier.isCte_of_classify, IsUntangled, Ranks, ranks_climb, FlowGraph.Ascends,
  FlowLayout.layout_ascends
-/
import Mathlib.Data.Prod.Lex
import SqlLineage.Proofs.Flow.CteNames
import SqlLineage.Proofs.Flow.JoinPaths
import SqlLineage.Proofs.Flow.Layering
import SqlLineage.Proofs.Lineage.Precedence

namespace SqlLineage.Flow

open Lineage (Query QueryId TableReference ParsedScript IsMadeUp IsRead IsForeseeable declarations
  parseWith sourcedQueries getElem?_sourcedQueries scriptMentions)
open Relation (TransGen)

/-! ### Ranks -/

/-- No path leads back to its start if of two steps in a row the first one leads to a node of higher rank
than the node that it starts from. -/
theorem not_transGen_of_climbs {α β : Type} [Preorder β] {step : α → α → Prop} (ranks : α → β → Prop)
    (climbs : ∀ first second third, step first second → step second third →
      ∃ rank, ranks second rank ∧ ∀ lower, ranks first lower → lower < rank) (start : α) :
    ¬ TransGen step start start := by
  have path : ∀ last, TransGen step start last → ∀ behind, step last behind →
      ∃ rank, ranks last rank ∧ ∀ lower, ranks start lower → lower < rank := by
    intro last steps
    induction steps with
    | single first => exact fun behind second => climbs _ _ _ first second
    | tail _ next ih =>
        intro behind second
        obtain ⟨middle, isRank, above⟩ := ih _ next
        obtain ⟨rank, isLast, higher⟩ := climbs _ _ _ next second
        exact ⟨rank, isLast, fun lower isLower => (above lower isLower).trans (higher middle isRank)⟩
  intro circle
  obtain ⟨second, first⟩ : ∃ second, step start second := by
    obtain ⟨second, first, _⟩ := TransGen.head'_iff.mp circle
    exact ⟨second, first⟩
  obtain ⟨rank, isRank, above⟩ := path start circle second first
  exact lt_irrefl rank (above rank isRank)

/-! ### Roles -/

/-- The built-in rules take only common table expressions for such. -/
theorem Classifier.isCte_of_classify {options : ClassificationOptions} {profile : TableProfile}
    (role : (ofOptions options).classify profile = .cte) : profile.isCte = true := by
  have ofTest : ∀ {name test result}, (RoleRule.ofTest name result test).role? profile = some .cte →
      result = .cte ∧ test profile = true := by
    intro name test result claimed
    simp only [RoleRule.ofTest, Option.ite_none_right_eq_some, Option.some.injEq] at claimed
    exact ⟨claimed.2, claimed.1⟩
  unfold classify at role
  cases found : (ofOptions options).rules.findSome? (·.role? profile) with
  | none =>
      rw [found] at role
      cases role
  | some result =>
      rw [found, Option.getD_some] at role
      subst role
      obtain ⟨rule, listed, claims⟩ := List.exists_of_findSome?_eq_some found
      simp only [ofOptions, List.mem_cons, List.not_mem_nil, or_false] at listed
      rcases listed with rfl | rfl | rfl | rfl | rfl | rfl | rfl
      · exact (ofTest claims).2
      · cases (ofTest claims).1
      · cases (ofTest claims).1
      · cases (ofTest claims).1
      · cases (ofTest claims).1
      · cases (ofTest claims).1
      · simp only [RoleRule.fanOut] at claims
        split at claims
        · cases claims
        · split at claims <;> cases claims

theorem Relations.isCte_of_role {options : ClassificationOptions} {script : ParsedScript}
    {key : RelationKey} (role : (ofScript (.ofOptions options) script).role key = .cte)
    (profiled : key ∈ (ofScript (.ofOptions options) script).profiles.map (·.1)) : key.isCte = true := by
  obtain ⟨profile, described, sameRole⟩ := exists_profile profiled
  rw [← described.isCte]
  exact Classifier.isCte_of_classify (sameRole.symm.trans role)

/-! ### What queries produce -/

namespace FlowLayout

variable {layout : FlowLayout} {script : ParsedScript} {position : Nat} {producer : Query}

theorem targets_of_isCte (isCte : producer.isCte = true) : layout.targets script position producer =
    [nodeId .cte ((layout.relations script).scopes.declaration position producer)] := by
  simp [targets, targetIds, targetNodes, isCte, targetNode]

theorem targets_of_isSubQuery (notCte : producer.isCte = false) (isSubQuery : producer.isSubQuery = true) :
    layout.targets script position producer = [nodeId .tempTable producer.id] := by
  simp [targets, targetIds, targetNodes, notCte, isSubQuery, targetNode]

/-- A statement's own query produces nothing but what it writes or shows. -/
theorem exists_output (level : producer.isStatementLevel = true) {id : String}
    (produced : id ∈ layout.targets script position producer) : ∃ name, id = nodeId .output name := by
  simp only [Query.isStatementLevel, Bool.and_eq_true, Bool.not_eq_true'] at level
  simp only [targets, targetIds, targetNodes, level, Bool.false_eq_true, if_false] at produced
  split at produced
  · split at produced
    · exact ⟨_, List.mem_singleton.mp produced⟩
    · cases produced
  · obtain ⟨node, listed, rfl⟩ := List.mem_map.mp produced
    obtain ⟨output, _, rfl⟩ := List.mem_map.mp listed
    exact ⟨output, rfl⟩

end FlowLayout

section Script

variable (read : String → Option Sql.Query) (escapes : Script.QuoteEscapes) (script : String)

/-- Whether nothing in a script leads back to where it comes from. -/
structure IsUntangled : Prop where
  /-- No relation is read inside a common table expression that may read itself. -/
  unrecursive : ∀ mentions ∈ scriptMentions read escapes script, ∀ mention ∈ mentions,
    ∀ frame ∈ mention.around, frame.isRecursive = false
  /-- No statement declares a case-folded name twice, at whatever depth. -/
  declaredOnce : (declarations read escapes script).Nodup
  /-- No relation that some query writes is read, but as a common table expression. -/
  unread : ∀ writer ∈ (parseWith read escapes script).queries, ∀ output ∈ writer.outputs,
    ∀ reader ∈ (parseWith read escapes script).queries, ∀ table ∈ reader.tables, table.isCte = false →
      table.key ≠ Text.lowercase output

/-- The names that are written in the statements that the grammar reads: those of the relations that are
mentioned there, and those of the common table expressions that are declared there. -/
def inscribedNames : List String :=
  (scriptMentions read escapes script).flatten.filterMap (fun mention => mention.table?.map Prod.fst) ++
    ((parseWith read escapes script).queries.filter Query.isCte).map Query.name

variable {read escapes script}

/-- The name of a common table expression is its own lower-case form. -/
theorem lowercase_cteName {source : Nat} {key : String} (listed : (source, key) ∈ declarations read escapes script) :
    Text.lowercase (cteName read escapes script source key) = cteName read escapes script source key := by
  obtain ⟨query, _, _, rfl⟩ := Lineage.mem_declarations_iff.mp listed
  unfold cteName
  split
  · exact QueryId.lowercase_text (Text.lowercase_lowercase query.name)
  · exact Text.lowercase_lowercase query.name

variable (untangled : IsUntangled read escapes script)
  (apart : ∀ name ∈ inscribedNames read escapes script, ¬ IsMadeUp (Text.lowercase name))

include apart

theorem not_isMadeUp_of_mem_declarations :
    ∀ declaration ∈ declarations read escapes script, ¬ IsMadeUp declaration.2 := by
  rintro ⟨source, key⟩ listed
  obtain ⟨query, sourced, isCte, rfl⟩ := Lineage.mem_declarations_iff.mp listed
  have member := List.mem_map_of_mem (f := Prod.snd) sourced
  rw [Lineage.map_snd_sourcedQueries] at member
  exact apart query.name
    (List.mem_append_right _ (List.mem_map_of_mem (List.mem_filter.mpr ⟨member, isCte⟩)))

/-- A name that is declared is none that is made up for another one. -/
theorem not_takes {source other : Nat} {key name : String}
    (listed : (source, key) ∈ declarations read escapes script) :
    ¬ Takes read escapes script key source other name := by
  rintro ⟨_, _, rfl⟩
  exact not_isMadeUp_of_mem_declarations apart _ listed (.declared other name)

include untangled

theorem isForeseeable : ∀ mentions ∈ scriptMentions read escapes script, ∀ mention ∈ mentions,
    IsForeseeable mention := by
  intro mentions isList mention inList
  refine ⟨untangled.unrecursive mentions isList mention inList, fun name aliasName isTable => ?_⟩
  refine apart name (List.mem_append_left _ ?_)
  refine List.mem_filterMap.mpr ⟨mention, List.mem_flatten.mpr ⟨mentions, isList, inList⟩, ?_⟩
  rw [isTable]
  rfl

section Producer

variable {classification : ClassificationOptions} {options : LayoutOptions} {index other source another : Nat}
  {reader producer : Query} {table : TableReference}
  (located : (sourcedQueries read escapes script)[index]? = some (source, reader))
  (listed : table ∈ reader.tables) (isRead : IsRead read escapes script source)
  (producerLocated : (sourcedQueries read escapes script)[other]? = some (another, producer))
  (meets : (FlowLayout.ofOptions classification options).referent (parseWith read escapes script) index table ∈
    (FlowLayout.ofOptions classification options).targets (parseWith read escapes script) other producer)

include located listed isRead producerLocated meets

omit untangled in
/-- A reference to what a common table expression produces is to that one. -/
theorem supplied_of_isCte (isCte : producer.isCte = true) : table.isCte = true ∧ another = source ∧
    Text.lowercase producer.name = table.key := by
  have isReader := (getElem?_sourcedQueries.mp located).2
  rw [FlowLayout.targets_of_isCte isCte, List.mem_singleton] at meets
  obtain ⟨role, sameName⟩ := nodeId_inj.mp meets
  have marked : table.isCte = true := by
    rw [← CteScopes.keyFor_isCte _ index table]
    exact Relations.isCte_of_role role (Relations.mem_keys_of_mem_tables isReader listed)
  have declared := Lineage.mem_declarations_of_isRead isRead (List.mem_of_getElem? located) listed marked
  have declares : (another, Text.lowercase producer.name) ∈ declarations read escapes script :=
    Lineage.mem_declarations_iff.mpr ⟨producer, List.mem_of_getElem? producerLocated, isCte, rfl⟩
  have key : ((FlowLayout.ofOptions classification options).relations
      (parseWith read escapes script)).scopes.keyFor index table =
        .cte (cteName read escapes script source table.key) := keyFor_eq_cteName located marked declared
  have name : ((FlowLayout.ofOptions classification options).relations
      (parseWith read escapes script)).scopes.declaration other producer =
        cteName read escapes script another (Text.lowercase producer.name) :=
    declaration_eq_cteName producerLocated isCte
  rw [key, name] at sameName
  have same : cteName read escapes script source table.key =
      cteName read escapes script another (Text.lowercase producer.name) := by
    rw [← lowercase_cteName declared, ← lowercase_cteName declares]
    exact sameName
  rcases (cteName_eq_iff declared declares).mp same with ⟨rfl, sameKey⟩ | takes | takes
  · exact ⟨marked, rfl, sameKey.symm⟩
  · exact absurd takes (not_takes apart declared)
  · exact absurd takes (not_takes apart declares)

omit untangled apart isRead in
/-- A reference to what a nested query produces is to that one. -/
theorem supplied_of_isSubQuery (isSubQuery : producer.isSubQuery = true) :
    table.isCte = false ∧ producer.id = table.key := by
  have lawful := Classifier.lawful_ofOptions classification
  have isReader := (getElem?_sourcedQueries.mp located).2
  obtain ⟨_, bears⟩ := Lineage.exists_bears (List.mem_of_getElem? producerLocated)
  rw [FlowLayout.targets_of_isSubQuery (bears.not_isCte_of_isSubQuery isSubQuery) isSubQuery,
    List.mem_singleton] at meets
  obtain ⟨role, sameName⟩ := nodeId_inj.mp meets
  have plain : table.isCte = false := by
    cases marked : table.isCte with
    | false => rfl
    | true =>
        rw [← CteScopes.keyFor_isCte _ index table] at marked
        have isRole := Relations.role_cte lawful (Relations.mem_keys_of_mem_tables isReader listed) marked
        exact absurd (isRole.symm.trans role) NodeRole.noConfusion
  refine ⟨plain, ?_⟩
  rw [CteScopes.keyFor_of_not_isCte _ index plain] at sameName
  rw [← bears.lowercase_id, ← sameName]
  exact Text.lowercase_lowercase table.name

omit untangled in
/-- A reference to what a query inside a statement produces is to that query. -/
theorem supplies_of_mem_targets (inner : producer.isStatementLevel = false) :
    (table.isCte = true → another = source) ∧ producer.Supplies table := by
  cases isCte : producer.isCte with
  | true =>
      obtain ⟨marked, sameSource, named⟩ :=
        supplied_of_isCte apart located listed isRead producerLocated meets isCte
      exact ⟨fun _ => sameSource, .declared isCte marked named⟩
  | false =>
      have isSubQuery : producer.isSubQuery = true := by
        simpa [Query.isStatementLevel, isCte] using inner
      obtain ⟨plain, named⟩ := supplied_of_isSubQuery located listed producerLocated meets isSubQuery
      exact ⟨fun marked => Bool.noConfusion (plain.symm.trans marked), .nested isSubQuery plain named⟩

/-- What a query reads of the queries inside statements is produced before it. -/
theorem lt_of_referent_mem_targets (inner : producer.isStatementLevel = false) : other < index := by
  obtain ⟨sameSource, supplies⟩ :=
    supplies_of_mem_targets apart located listed isRead producerLocated meets inner
  obtain ⟨_, bears⟩ := Lineage.exists_bears (List.mem_of_getElem? producerLocated)
  obtain ⟨earlier, lower, supplier, isSupplier, suppliesToo⟩ :=
    Lineage.exists_supplier_before (isForeseeable untangled apart) (not_isMadeUp_of_mem_declarations apart)
      isRead located listed (supplies.isInward bears)
  obtain ⟨_, supplierBears⟩ := Lineage.exists_bears (List.mem_of_getElem? isSupplier)
  have sameId : supplier.id = producer.id := by
    rw [suppliesToo.id_eq supplierBears, supplies.id_eq bears]
    split
    · next marked => rw [sameSource marked]
    · rfl
  have distinct := (Lineage.nodup_lowercase_ids_iff read escapes script).mpr untangled.declaredOnce
  have isQuery := (getElem?_sourcedQueries.mp isSupplier).2
  have here : earlier = other := by
    have bound := (List.getElem?_eq_some_iff.mp isQuery).1
    refine (List.getElem?_inj (by simpa using bound) distinct).mp ?_
    rw [List.getElem?_map, List.getElem?_map, isQuery, (getElem?_sourcedQueries.mp producerLocated).2,
      Option.map_some, Option.map_some, sameId]
  exact here ▸ lower

end Producer

end Script

/-! ### The ranks of joins and results -/

/-- The stage of the joins of a query: its position, or the last stage for a statement's own query. -/
def stageOf (index : Nat) (query : Query) : WithTop Nat :=
  if query.isStatementLevel then ⊤ else WithTop.some index

/-- The ranks of nodes: joins follow one another within the stage of their query, and what a query inside a
statement produces comes last in that. Nodes that no query inside a statement produces have none. -/
inductive Ranks (layout : FlowLayout) (script : ParsedScript) : String → WithTop Nat ×ₗ WithTop Nat → Prop where
  | join {index position : Nat} {query : Query} (located : script.queries[index]? = some query) :
      Ranks layout script (joinId query position) (toLex (stageOf index query, WithTop.some position))
  | result {index : Nat} {query : Query} {id : String} (located : script.queries[index]? = some query)
      (inner : query.isStatementLevel = false) (produced : id ∈ layout.targets script index query) :
      Ranks layout script id (toLex (WithTop.some index, ⊤))

section Ranks

variable {classification : ClassificationOptions} {options : LayoutOptions}
  {read : String → Option Sql.Query} {escapes : Script.QuoteEscapes} {script : String}
  (untangled : IsUntangled read escapes script)

include untangled

/-- Nothing leads on from a relation as it is written. -/
theorem not_leads_of_output {name target : String} : (nodeId .output name, target) ∉
    ((FlowLayout.ofOptions classification options).draft (parseWith read escapes script)).edges := by
  have lawful : (FlowLayout.ofOptions classification options).classifier.Lawful :=
    Classifier.lawful_ofOptions classification
  have notJoin : ¬ IsJoinId (nodeId .output name) := not_isJoinId_nodeId name (by decide)
  intro isEdge
  rcases queryEdge_or_writtenToRead isEdge with ofQuery | written
  · generalize start : nodeId .output name = source at ofQuery notJoin
    cases ofQuery with
    | side => exact role_ne lawful rfl _ _ (nodeId_inj.mp start).1.symm
    | chain => exact notJoin (isJoinId_joinId _ _)
    | result => exact notJoin (isJoinId_joinId _ _)
    | table => exact role_ne lawful rfl _ _ (nodeId_inj.mp start).1.symm
  · obtain ⟨writer, isWriter, output, isOutput, _, reader, located, table, listed, plain, sameKey, _, _⟩ :=
      written
    exact untangled.unread writer isWriter output isOutput reader (List.mem_of_getElem? located) table listed
      plain sameKey

/-- Joins of one id have one rank, in which no result is. -/
theorem rank_of_joinId {index position : Nat} {query : Query} {rank : WithTop Nat ×ₗ WithTop Nat}
    (located : (parseWith read escapes script).queries[index]? = some query)
    (isRank : Ranks (FlowLayout.ofOptions classification options) (parseWith read escapes script)
      (joinId query position) rank) : rank = toLex (stageOf index query, WithTop.some position) := by
  have distinct := (Lineage.nodup_lowercase_ids_iff read escapes script).mpr untangled.declaredOnce
  have isJoin := isJoinId_joinId query position
  generalize same : joinId query position = id at isRank isJoin
  cases isRank with
  | join otherLocated =>
      obtain ⟨rfl, rfl, rfl⟩ := eq_of_joinId_eq distinct located otherLocated same
      rfl
  | result _ _ produced => exact absurd isJoin (not_isJoinId_of_mem_targetIds produced)

variable (apart : ∀ name ∈ inscribedNames read escapes script, ¬ IsMadeUp (Text.lowercase name))

include apart

/-- What a query reads ranks before its joins and its result. -/
theorem lt_of_rank_referent {index : Nat} {query : Query} {table : TableReference}
    {rank : WithTop Nat ×ₗ WithTop Nat}
    (located : (parseWith read escapes script).queries[index]? = some query)
    (listed : table ∈ query.references)
    (isRank : Ranks (FlowLayout.ofOptions classification options) (parseWith read escapes script)
      ((FlowLayout.ofOptions classification options).referent (parseWith read escapes script) index table) rank)
    (behind : WithTop Nat) : rank < toLex (stageOf index query, behind) := by
  have lawful : (FlowLayout.ofOptions classification options).classifier.Lawful :=
    Classifier.lawful_ofOptions classification
  have notJoin : ¬ IsJoinId ((FlowLayout.ofOptions classification options).referent
      (parseWith read escapes script) index table) := not_isJoinId_referent lawful index table
  generalize denoted : (FlowLayout.ofOptions classification options).referent
    (parseWith read escapes script) index table = id at isRank notJoin
  cases isRank with
  | join => exact absurd (isJoinId_joinId _ _) notJoin
  | @result other producer _ producerLocated inner produced =>
      rw [Prod.Lex.toLex_lt_toLex]
      left
      rw [stageOf]
      split
      · exact WithTop.coe_lt_top other
      · next notOwn =>
          subst denoted
          obtain ⟨source, sourced⟩ := Lineage.exists_getElem?_sourcedQueries located
          obtain ⟨another, producerSourced⟩ := Lineage.exists_getElem?_sourcedQueries producerLocated
          have isRead := Lineage.isRead_of_not_isStatementLevel sourced (Bool.eq_false_iff.mpr notOwn)
          have isTable := (Lineage.isCollected_of_mem_queries (List.mem_of_getElem? located)).joins.mem_tables
            listed
          exact WithTop.coe_lt_coe.mpr
            (lt_of_referent_mem_targets untangled apart sourced isTable isRead producerSourced produced inner)

/-- Of two edges in a row the first one leads up in rank. -/
theorem ranks_climb {first second third : String}
    (isEdge : (first, second) ∈
      ((FlowLayout.ofOptions classification options).draft (parseWith read escapes script)).edges)
    (isNext : (second, third) ∈
      ((FlowLayout.ofOptions classification options).draft (parseWith read escapes script)).edges) :
    ∃ rank, Ranks (FlowLayout.ofOptions classification options) (parseWith read escapes script) second rank ∧
      ∀ lower, Ranks (FlowLayout.ofOptions classification options) (parseWith read escapes script) first lower →
        lower < rank := by
  -- A result that something leads on from is that of a query inside a statement.
  have inner : ∀ {index query}, (parseWith read escapes script).queries[index]? = some query →
      (FlowLayout.ofOptions classification options).Produces (parseWith read escapes script) index second →
        query.isStatementLevel = false ∧ second ∈
          (FlowLayout.ofOptions classification options).targets (parseWith read escapes script) index query := by
    rintro index query located ⟨producer, producerLocated, produced⟩
    obtain rfl := Option.some.inj (located.symm.trans producerLocated)
    refine ⟨Bool.eq_false_iff.mpr fun level => ?_, produced⟩
    obtain ⟨name, rfl⟩ := FlowLayout.exists_output level produced
    exact not_leads_of_output untangled isNext
  rcases queryEdge_or_writtenToRead isEdge with ofQuery | written
  · cases ofQuery with
    | side located listed =>
        exact ⟨_, .join located, fun lower isRank =>
          lt_of_rank_referent untangled apart located listed isRank _⟩
    | @chain index position query _ located _ =>
        refine ⟨_, .join located, fun lower isRank => ?_⟩
        rw [rank_of_joinId untangled located isRank, Prod.Lex.toLex_lt_toLex]
        exact .inr ⟨rfl, WithTop.coe_lt_coe.mpr (Nat.lt_succ_self position)⟩
    | @result index position query _ located produces =>
        obtain ⟨isInner, produced⟩ := inner located produces
        refine ⟨_, .result located isInner produced, fun lower isRank => ?_⟩
        rw [rank_of_joinId untangled located isRank, Prod.Lex.toLex_lt_toLex, stageOf, isInner,
          if_neg Bool.false_ne_true]
        exact .inr ⟨rfl, WithTop.coe_lt_top position⟩
    | @table index query _ _ located listed produces =>
        obtain ⟨isInner, produced⟩ := inner located produces
        refine ⟨_, .result located isInner produced, fun lower isRank => ?_⟩
        have below := lt_of_rank_referent untangled apart located listed isRank ⊤
        rwa [stageOf, isInner, if_neg Bool.false_ne_true] at below
  · obtain ⟨writer, isWriter, output, isOutput, _, reader, located, table, listed, plain, sameKey, _, _⟩ :=
      written
    exact absurd sameKey
      (untangled.unread writer isWriter output isOutput reader (List.mem_of_getElem? located) table listed plain)

end Ranks

/-! ### Graphs without back edges -/

/-- Whether each edge of a graph leads from one of its nodes to one in a later layer, and none is marked as
one that leads back. -/
structure FlowGraph.Ascends (graph : FlowGraph) : Prop where
  forward : ∀ edge ∈ graph.edges, edge.isBackEdge = false
  increasing : ∀ edge ∈ graph.edges, ∃ source ∈ graph.nodes, ∃ target ∈ graph.nodes,
    source.id = edge.source ∧ target.id = edge.target ∧ source.layer < target.layer

/-- However statements are read and quotes are escaped, the graph of a script in which nothing leads back to
where it comes from has no back edge, unless a name that is written is, in some letter case, one that is made
up. -/
theorem FlowLayout.exists_ascends {read : String → Option Sql.Query} {escapes : Script.QuoteEscapes}
    {text : String} (classification : ClassificationOptions) (options : LayoutOptions)
    (untangled : IsUntangled read escapes text)
    (apart : ∀ name ∈ inscribedNames read escapes text, ¬ IsMadeUp (Text.lowercase name)) :
    ∃ graph, (ofOptions classification options).layout (parseWith read escapes text) = .ok graph ∧
      graph.Ascends := by
  have wellFormed := (ofOptions classification options).wellFormed_draft (parseWith read escapes text)
  obtain ⟨graph, layers, placed, placing⟩ :=
    exists_placing (ofOptions classification options).options wellFormed
  have layered := placing.layered wellFormed
  have acyclic : ∀ id, ¬ TransGen graph.Leads id id := by
    apply not_transGen_of_climbs
      (Ranks (ofOptions classification options) (parseWith read escapes text))
    intro first second third leads next
    exact ranks_climb untangled apart (placing.leads_iff.mp leads) (placing.leads_iff.mp next)
  have forward := layered.noBackEdge acyclic
  refine ⟨graph, placed, forward, fun edge isEdge => ?_⟩
  obtain ⟨present, presentToo⟩ := wellFormed.closed _ (placing.leads_iff.mp ⟨edge, isEdge, rfl, rfl⟩)
  obtain ⟨source, sourceListed, isSource⟩ := placing.exists_mem_of_hasNode present
  obtain ⟨target, targetListed, isTarget⟩ := placing.exists_mem_of_hasNode presentToo
  refine ⟨source, sourceListed, target, targetListed, isSource, isTarget, ?_⟩
  exact layered.increasing source sourceListed target targetListed
    ⟨edge, isEdge, isSource.symm, isTarget.symm, forward edge isEdge⟩

/-- The graph of a script in which nothing leads back to where it comes from has no back edge, unless a name
that is written is, in some letter case, one that is made up. -/
theorem FlowLayout.layout_ascends (dialect : Sql.Dialect) (text : String)
    (classification : ClassificationOptions) (options : LayoutOptions)
    (untangled : IsUntangled (Sql.sourceQuery? dialect) (Lineage.escapesOf dialect) text)
    (apart : ∀ name ∈ inscribedNames (Sql.sourceQuery? dialect) (Lineage.escapesOf dialect) text,
      ¬ IsMadeUp (Text.lowercase name)) :
    ∃ graph, (ofOptions classification options).layout (Lineage.parseScript dialect text) = .ok graph ∧
      graph.Ascends :=
  exists_ascends classification options untangled apart

/-- A script whose second query reads a common table expression twice, once through a nested query. -/
def forkScript : String := "WITH a AS(SELECT 1 FROM t)SELECT 1 FROM a JOIN(SELECT 1 FROM a)x USING(i)"

theorem FlowLayout.layout_ascends_fork :
    IsUntangled (Sql.sourceQuery? .generic) (Lineage.escapesOf .generic) forkScript ∧
      inscribedNames (Sql.sourceQuery? .generic) (Lineage.escapesOf .generic) forkScript =
        ["t", "a", "a", "a"] ∧
      ∃ graph, (ofOptions {} {}).layout (Lineage.parseScript .generic forkScript) = .ok graph ∧
        graph.Ascends := by
  obtain ⟨unrecursive, declaredOnce, unread, names⟩ :
      (∀ mentions ∈ scriptMentions (Sql.sourceQuery? .generic) (Lineage.escapesOf .generic) forkScript,
        ∀ mention ∈ mentions, ∀ frame ∈ mention.around, frame.isRecursive = false) ∧
      (declarations (Sql.sourceQuery? .generic) (Lineage.escapesOf .generic) forkScript).Nodup ∧
      (∀ writer ∈ (parseWith (Sql.sourceQuery? .generic) (Lineage.escapesOf .generic) forkScript).queries,
        ∀ output ∈ writer.outputs,
          ∀ reader ∈ (parseWith (Sql.sourceQuery? .generic) (Lineage.escapesOf .generic) forkScript).queries,
            ∀ table ∈ reader.tables, table.isCte = false → table.key ≠ Text.lowercase output) ∧
      inscribedNames (Sql.sourceQuery? .generic) (Lineage.escapesOf .generic) forkScript =
        ["t", "a", "a", "a"] := by
    decide +kernel
  have untangled : IsUntangled (Sql.sourceQuery? .generic) (Lineage.escapesOf .generic) forkScript :=
    ⟨unrecursive, declaredOnce, unread⟩
  refine ⟨untangled, names, layout_ascends .generic forkScript {} {} untangled ?_⟩
  rw [names]
  intro name listed isMadeUp
  have marked : ∀ name ∈ ["t", "a", "a", "a"], '_' ∉ (Text.lowercase name).toList := by
    decide +kernel
  exact marked name listed (Lineage.mem_of_isMadeUp isMadeUp)

/-! ### A made-up name in another letter case -/

/-- A script that reads, inside two nested queries, a relation by the made-up name of the outer one in capital
letters. -/
def circleScript : String := "SELECT 1 FROM(SELECT 1 FROM(SELECT 1 FROM SUB_0_0)y)x"

/-- It is not enough that no name is made up as it is written. -/
theorem capital_name_closes_circle :
    IsUntangled (Sql.sourceQuery? .generic) (Lineage.escapesOf .generic) circleScript ∧
      (∀ token ∈ Script.tokenize (Lineage.escapesOf .generic) circleScript, ¬ IsMadeUp token.text) ∧
      ∃ graph, (FlowLayout.ofOptions {} {}).layout (Lineage.parseScript .generic circleScript) = .ok graph ∧
        ∃ edge ∈ graph.edges, edge.isBackEdge = true := by
  obtain ⟨unrecursive, declaredOnce, unread, letters, inward, outward⟩ :
      (∀ mentions ∈ scriptMentions (Sql.sourceQuery? .generic) (Lineage.escapesOf .generic) circleScript,
        ∀ mention ∈ mentions, ∀ frame ∈ mention.around, frame.isRecursive = false) ∧
      (declarations (Sql.sourceQuery? .generic) (Lineage.escapesOf .generic) circleScript).Nodup ∧
      (∀ writer ∈ (parseWith (Sql.sourceQuery? .generic) (Lineage.escapesOf .generic) circleScript).queries,
        ∀ output ∈ writer.outputs,
          ∀ reader ∈ (parseWith (Sql.sourceQuery? .generic) (Lineage.escapesOf .generic) circleScript).queries,
            ∀ table ∈ reader.tables, table.isCte = false → table.key ≠ Text.lowercase output) ∧
      (∀ token ∈ Script.tokenize (Lineage.escapesOf .generic) circleScript,
        token.text.toList.head? ≠ some 'c' ∧ token.text.toList.head? ≠ some 's') ∧
      ("temp:sub_0_0", "temp:sub_0_1") ∈
        ((FlowLayout.ofOptions {} {}).draft (Lineage.parseScript .generic circleScript)).edges ∧
      ("temp:sub_0_1", "temp:sub_0_0") ∈
        ((FlowLayout.ofOptions {} {}).draft (Lineage.parseScript .generic circleScript)).edges := by
    decide +kernel
  refine ⟨⟨unrecursive, declaredOnce, unread⟩, ?_, ?_⟩
  · intro token listed isMadeUp
    rcases Lineage.head_of_isMadeUp isMadeUp with head | head
    · exact (letters token listed).1 head
    · exact (letters token listed).2 head
  · have wellFormed := (FlowLayout.ofOptions {} {}).wellFormed_draft
      (Lineage.parseScript .generic circleScript)
    obtain ⟨graph, layers, placed, placing⟩ :=
      exists_placing (FlowLayout.ofOptions {} {}).options wellFormed
    refine ⟨graph, placed, ?_⟩
    -- If both edges led forward, they would close a circle of such edges.
    by_contra none
    have forward : ∀ {source target}, graph.Leads source target → graph.Forward source target := by
      rintro source target ⟨edge, isEdge, isSource, isTarget⟩
      refine ⟨edge, isEdge, isSource, isTarget, Bool.eq_false_iff.mpr fun isBack => ?_⟩
      exact none ⟨edge, isEdge, isBack⟩
    exact (placing.layered wellFormed).acyclic _
      (.tail (.single (forward (placing.leads_iff.mpr inward))) (forward (placing.leads_iff.mpr outward)))

end SqlLineage.Flow

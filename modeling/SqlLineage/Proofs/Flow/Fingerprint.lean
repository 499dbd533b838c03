/-
Module: SqlLineage.Proofs.Flow.Fingerprint
Purpose: What the fingerprint of a graph and the ids of its edges tell of it. Both put names next to each other
  with marks between them, so names with a line break or an arrow in them can be mistaken for several, and no
  others can.
Main exports: Digest.hexText_inj, edgeId_eq_iff, FlowEdge.Crosses, FlowGraph.idLines, FlowGraph.Signed,
  FlowGraph.Discerns, FlowLayout.discerns, names_clash
-/
import Mathlib.Data.List.Forall2
import SqlLineage.Flow.Render
import SqlLineage.Proofs.Flow.WellFormed
import SqlLineage.Proofs.Text.Cut

namespace SqlLineage

/-! ### Digests -/

namespace Digest

theorem digitChar_inj {digit other : Nat} (bound : digit < 16) (otherBound : other < 16)
    (same : Nat.digitChar digit = Nat.digitChar other) : digit = other := by
  have decided : ∀ digit < 16, ∀ other < 16,
      Nat.digitChar digit = Nat.digitChar other → digit = other := by
    decide
  exact decided digit bound other otherBound same

/-- The hexadecimal digits of a number tell the number. -/
theorem eq_of_digits {count n m : Nat} (bound : n < Nat.pow 16 count) (otherBound : m < Nat.pow 16 count)
    (digits : ∀ i < count, n / Nat.pow 16 i % 16 = m / Nat.pow 16 i % 16) : n = m := by
  induction count generalizing n m with
  | zero =>
      have nothing : ∀ k, k < Nat.pow 16 0 → k = 0 := fun k small => Nat.lt_one_iff.mp small
      rw [nothing n bound, nothing m otherBound]
  | succ count ih =>
      have last : n % 16 = m % 16 := by
        have digit := digits 0 (Nat.succ_pos count)
        rwa [Nat.pow_eq, Nat.pow_zero, Nat.div_one, Nat.div_one] at digit
      have others : n / 16 = m / 16 := by
        apply ih (Nat.div_lt_of_lt_mul (Nat.mul_comm _ 16 ▸ bound))
          (Nat.div_lt_of_lt_mul (Nat.mul_comm _ 16 ▸ otherBound))
        intro i inside
        have shift : 16 * Nat.pow 16 i = Nat.pow 16 (i + 1) := Nat.mul_comm 16 (Nat.pow 16 i)
        rw [Nat.div_div_eq_div_mul, Nat.div_div_eq_div_mul, shift]
        exact digits (i + 1) (Nat.succ_lt_succ inside)
      omega

theorem hexWord_inj {word other : UInt32} (same : hexWord word = hexWord other) : word = other := by
  have bound : word.toNat < Nat.pow 16 8 := word.toNat_lt
  have otherBound : other.toNat < Nat.pow 16 8 := other.toNat_lt
  apply UInt32.toNat_inj.mp
  apply eq_of_digits bound otherBound
  intro i inside
  have position : 7 - i ∈ List.range 8 := List.mem_range.mpr (by omega)
  have digit := List.map_inj_left.mp same (7 - i) position
  have counted : 7 - (7 - i) = i := by omega
  rw [counted] at digit
  exact digitChar_inj (Nat.mod_lt _ (by decide)) (Nat.mod_lt _ (by decide)) digit

/-- The text of a digest tells the digest. -/
theorem hexText_inj {digest other : List UInt32} : hexText digest = hexText other ↔ digest = other := by
  have length : ∀ word, (hexWord word).length = 8 := fun _ => rfl
  constructor
  · intro same
    have texts : digest.flatMap hexWord = other.flatMap hexWord := String.ofList_injective same
    clear same
    induction digest generalizing other with
    | nil =>
        cases other with
        | nil => rfl
        | cons word rest => cases texts
    | cons word rest ih =>
        cases other with
        | nil => cases texts
        | cons otherWord otherRest =>
            rw [List.flatMap_cons, List.flatMap_cons] at texts
            obtain ⟨head, tail⟩ := List.append_inj texts (by rw [length, length])
            rw [hexWord_inj head, ih tail]
  · intro same
    rw [same]

end Digest

theorem toList_byteArray (bytes : ByteArray) : bytes.toList = bytes.data.toList := by
  have rest : ∀ i read, ByteArray.toList.loop bytes i read = read.reverse ++ bytes.data.toList.drop i := by
    intro i read
    induction i, read using ByteArray.toList.loop.induct bytes with
    | case1 i read inside ih =>
        have here : i < bytes.data.toList.length := inside
        have byte : bytes.get! i = bytes.data.toList[i] := getElem!_pos bytes.data i inside
        rw [ByteArray.toList.loop, if_pos inside, ih, List.drop_eq_getElem_cons here, List.reverse_cons,
          List.append_assoc, byte, List.singleton_append]
    | case2 i read outside =>
        have behind : bytes.data.toList.length ≤ i := Nat.le_of_not_lt outside
        rw [ByteArray.toList.loop, if_neg outside, List.drop_eq_nil_of_le behind, List.append_nil]
  rw [ByteArray.toList, rest]
  rfl

theorem toList_toUTF8_inj {text other : String} :
    text.toUTF8.toList = other.toUTF8.toList ↔ text = other := by
  rw [toList_byteArray, toList_byteArray, Array.toList_inj, ← String.toByteArray_inj]
  exact ⟨ByteArray.ext, congrArg ByteArray.data⟩

namespace Flow

open Lineage (ParsedScript Query)

/-! ### Ids of edges -/

/-- A part that one text has in front of an arrow and another one behind it holds an arrow, or nothing. -/
theorem arrow_append {part before rest : List Char}
    (same : '-' :: '>' :: before = part ++ '-' :: '>' :: rest) :
    (part = [] ∧ before = rest) ∨
      ∃ between, part = '-' :: '>' :: between ∧ before = between ++ '-' :: '>' :: rest := by
  match part with
  | [] => exact .inl ⟨rfl, by simpa using same⟩
  | [c] => simp at same
  | c :: d :: between =>
      simp only [List.cons_append, List.cons.injEq] at same
      obtain ⟨rfl, rfl, same⟩ := same
      exact .inr ⟨between, rfl, same⟩

namespace FlowEdge

variable {edge other : FlowEdge}

/-- The ids of the nodes that an edge joins. -/
def ends (edge : FlowEdge) : String × String := (edge.source, edge.target)

/-- Whether the source of the second edge is that of the first with an arrow and a text behind it, and the
target of the first edge is this text with an arrow and the target of the second behind it. -/
def Crosses (edge other : FlowEdge) : Prop :=
  ∃ between, other.source = edge.source ++ "->" ++ between ∧ edge.target = between ++ "->" ++ other.target

/-- Whether two edges have the same ends, or such that the arrow between them can be taken for another one. -/
def LooksLike (edge other : FlowEdge) : Prop :=
  edge.ends = other.ends ∨ edge.Crosses other ∨ other.Crosses edge

theorem LooksLike.symm (alike : edge.LooksLike other) : other.LooksLike edge := by
  rcases alike with same | crosses | crossed
  · exact .inl same.symm
  · exact .inr (.inr crosses)
  · exact .inr (.inl crossed)

theorem Crosses.edgeId_eq (crosses : edge.Crosses other) :
    edgeId edge.source edge.target = edgeId other.source other.target := by
  obtain ⟨between, source, target⟩ := crosses
  simp only [edgeId, source, target, String.append_assoc]

theorem looksLike_of_append {part : List Char} (longer : other.source.toList = edge.source.toList ++ part)
    (behind : '-' :: '>' :: edge.target.toList = part ++ '-' :: '>' :: other.target.toList) :
    edge.LooksLike other := by
  rcases arrow_append behind with ⟨rfl, targets⟩ | ⟨between, rfl, targets⟩
  · rw [List.append_nil] at longer
    exact .inl (Prod.ext (String.toList_inj.mp longer.symm) (String.toList_inj.mp targets))
  · refine .inr (.inl ⟨.ofList between, ?_, ?_⟩)
    · simpa [← String.toList_inj] using longer
    · simpa [← String.toList_inj] using targets

/-- Two edges get one id if they have the same ends or one crosses the other, and only then. -/
theorem edgeId_eq_iff :
    edgeId edge.source edge.target = edgeId other.source other.target ↔ edge.LooksLike other := by
  constructor
  · intro same
    have lists : edge.source.toList ++ '-' :: '>' :: edge.target.toList =
        other.source.toList ++ '-' :: '>' :: other.target.toList := by
      simpa [edgeId, ← String.toList_inj] using same
    rcases List.append_eq_append_iff.mp lists with ⟨part, longer, behind⟩ | ⟨part, longer, behind⟩
    · exact looksLike_of_append longer behind
    · exact (looksLike_of_append longer behind).symm
  · intro alike
    rcases alike with same | crosses | crossed
    · obtain ⟨sources, targets⟩ := Prod.mk.inj same
      rw [sources, targets]
    · exact crosses.edgeId_eq
    · exact crossed.edgeId_eq.symm

end FlowEdge

/-! ### Lines -/

theorem lines_cons (item : String) (rest : List String) :
    lines (item :: rest) = item ++ "\n" ++ lines rest := by
  rw [lines, List.map_cons, String.join_cons, lines]

/-- Texts without line breaks are told by their lines. -/
theorem lines_inj {items others : List String} (oneLine : ∀ item ∈ items, '\n' ∉ item.toList)
    (othersOneLine : ∀ item ∈ others, '\n' ∉ item.toList) (same : lines items = lines others) :
    items = others := by
  have ended : ∀ (item : String) (rest : List String), lines [] ≠ lines (item :: rest) := by
    intro item rest same
    have lengths : 0 = (lines (item :: rest)).length := congrArg String.length same
    have lineBreak : "\n".length = 1 := rfl
    rw [lines_cons, String.length_append, String.length_append, lineBreak] at lengths
    omega
  induction items generalizing others with
  | nil =>
      cases others with
      | nil => rfl
      | cons other rest => exact absurd same (ended other rest)
  | cons item rest ih =>
      cases others with
      | nil => exact absurd same.symm (ended item rest)
      | cons other others =>
          rw [List.forall_mem_cons] at oneLine othersOneLine
          have mark : "\n" = String.singleton '\n' := rfl
          rw [lines_cons, lines_cons, mark, Text.append_mark_inj oneLine.1 othersOneLine.1] at same
          rw [same.1, ih oneLine.2 othersOneLine.2 same.2]

/-! ### Graphs -/

namespace FlowGraph

/-- The lines that the fingerprint of a graph is made from. -/
def idLines (graph : FlowGraph) : List String :=
  graph.nodes.map FlowNode.id ++ "--" :: graph.edges.map FlowEdge.id

/-- The bytes that the fingerprint of a graph is the hash of. -/
def hashedBytes (graph : FlowGraph) : List UInt8 :=
  (fingerprintText graph.nodes graph.edges).toUTF8.toList

/-- Whether the hash keeps two graphs apart that give it different bytes. -/
def NoCollision (graph other : FlowGraph) : Prop :=
  Digest.sha256 graph.hashedBytes = Digest.sha256 other.hashedBytes →
    graph.hashedBytes = other.hashedBytes

/-- Whether no node has a line break in its id. -/
def IsOneLine (graph : FlowGraph) : Prop := ∀ node ∈ graph.nodes, '\n' ∉ node.id.toList

/-- Whether no node has an arrow in its id. -/
def IsArrowless (graph : FlowGraph) : Prop := ∀ node ∈ graph.nodes, ¬ "->".toList <:+: node.id.toList

theorem fingerprintText_eq (graph : FlowGraph) :
    fingerprintText graph.nodes graph.edges = lines graph.idLines := by
  have mark : "--\n" = "--" ++ "\n" := rfl
  rw [fingerprintText, lines, idLines, List.map_append, List.map_cons, String.join_append,
    String.join_cons, List.map_map, List.map_map, mark, String.append_assoc]
  rfl

/-- A well-formed graph whose edges and whose fingerprint are named after its nodes. -/
structure Signed (graph : FlowGraph) : Prop extends WellFormed graph where
  edgeIds : ∀ edge ∈ graph.edges, edge.id = edgeId edge.source edge.target
  fingerprint : graph.fingerprint = Flow.fingerprint graph.nodes graph.edges

end FlowGraph

theorem fingerprint_of_place {options : LayoutOptions} {draft : Draft} {graph : FlowGraph}
    (placed : place options draft = .ok graph) :
    graph.fingerprint = fingerprint graph.nodes graph.edges := by
  rw [place] at placed
  cases found : draft.digraph with
  | error problem =>
      rw [found] at placed
      cases placed
  | ok digraph =>
      rw [found] at placed
      cases layered : (digraph.without digraph.backEdges).layers? with
      | error node =>
          simp only [bind, Except.bind, layered] at placed
          cases placed
      | ok layers =>
          simp only [bind, Except.bind, layered] at placed
          cases placed
          rfl

theorem FlowLayout.signed_of_layout {layout : FlowLayout} {script : ParsedScript} {graph : FlowGraph}
    (laidOut : layout.layout script = .ok graph) : graph.Signed := by
  have wellFormed := layout.wellFormed_draft script
  obtain ⟨other, layers, placed, placing⟩ := exists_placing layout.options wellFormed
  obtain rfl : graph = other := Except.ok.inj (laidOut.symm.trans placed)
  refine ⟨placing.wellFormed wellFormed, ?_, fingerprint_of_place placed⟩
  intro edge listed
  rw [placing.edges] at listed
  obtain ⟨ends, _, rfl⟩ := List.mem_map.mp listed
  rfl

namespace FlowGraph

variable {graph other : FlowGraph}

namespace Signed

section Marks

variable (signed : graph.Signed)

include signed

theorem colon_mem_id {node : FlowNode} (member : node ∈ graph.nodes) : ':' ∈ node.id.toList := by
  obtain ⟨name, cut⟩ := signed.slugs node member
  exact Text.mem_of_cutFirst cut

theorem exists_ends {edge : FlowEdge} (listed : edge ∈ graph.edges) :
    ∃ source ∈ graph.nodes, ∃ target ∈ graph.nodes,
      edge.ends = (source.id, target.id) ∧ edge.id = edgeId source.id target.id := by
  obtain ⟨isSource, isTarget⟩ := signed.closed edge listed
  obtain ⟨source, sourceMember, sourceId⟩ := List.mem_map.mp isSource
  obtain ⟨target, targetMember, targetId⟩ := List.mem_map.mp isTarget
  refine ⟨source, sourceMember, target, targetMember, ?_, ?_⟩
  · rw [FlowEdge.ends, sourceId, targetId]
  · rw [signed.edgeIds edge listed, sourceId, targetId]

/-- The line of dashes is none of the ids: there is a colon in each of them. -/
theorem dashes_not_mem : "--" ∉ graph.nodes.map FlowNode.id ∧ "--" ∉ graph.edges.map FlowEdge.id := by
  have noColon : ':' ∉ "--".toList := by decide
  constructor
  · intro listed
    obtain ⟨node, member, id⟩ := List.mem_map.mp listed
    exact noColon (id ▸ signed.colon_mem_id member)
  · intro listed
    obtain ⟨edge, member, id⟩ := List.mem_map.mp listed
    obtain ⟨source, sourceMember, target, _, _, edgeId⟩ := signed.exists_ends member
    apply noColon
    rw [← id, edgeId, Flow.edgeId, String.append_assoc, String.toList_append]
    exact List.mem_append_left _ (signed.colon_mem_id sourceMember)

theorem oneLine_idLines (oneLine : graph.IsOneLine) : ∀ line ∈ graph.idLines, '\n' ∉ line.toList := by
  intro line listed
  rcases List.mem_append.mp listed with isNode | later
  · obtain ⟨node, member, rfl⟩ := List.mem_map.mp isNode
    exact oneLine node member
  · rcases List.mem_cons.mp later with rfl | isEdge
    · decide
    · obtain ⟨edge, member, rfl⟩ := List.mem_map.mp isEdge
      obtain ⟨source, sourceMember, target, targetMember, _, id⟩ := signed.exists_ends member
      have sourceFree := oneLine source sourceMember
      have targetFree := oneLine target targetMember
      have arrowFree : '\n' ∉ "->".toList := by decide
      rw [id, edgeId, String.toList_append, String.toList_append, List.mem_append, List.mem_append]
      exact fun inside => inside.elim (fun first => first.elim sourceFree arrowFree) targetFree

/-- The line of dashes tells where the ids of nodes end and those of edges begin. -/
theorem idLines_eq_iff : graph.idLines = other.idLines ↔
    graph.nodes.map FlowNode.id = other.nodes.map FlowNode.id ∧
      graph.edges.map FlowEdge.id = other.edges.map FlowEdge.id := by
  obtain ⟨noNode, noEdge⟩ := signed.dashes_not_mem
  rw [idLines, idLines, List.append_cons_inj_of_notMem noNode noEdge]
  simp only [true_and]

theorem id_eq_iff {edge mate : FlowEdge} (listed : edge ∈ graph.edges) (mateListed : mate ∈ graph.edges) :
    edge.id = mate.id ↔ edge.LooksLike mate := by
  rw [signed.edgeIds edge listed, signed.edgeIds mate mateListed, FlowEdge.edgeId_eq_iff]

/-- The ids of the edges are different if edges that look alike have the same ends. -/
theorem nodup_edgeIds (told : ∀ edge ∈ graph.edges, ∀ mate ∈ graph.edges, edge.LooksLike mate →
    edge.ends = mate.ends) : (graph.edges.map FlowEdge.id).Nodup := by
  apply (List.nodup_map_iff_inj_on (List.Nodup.of_map _ signed.single)).mpr
  intro edge listed mate mateListed same
  have alike := (signed.id_eq_iff listed mateListed).mp same
  exact List.inj_on_of_nodup_map signed.single listed mateListed (told edge listed mate mateListed alike)

/-- The ids of the edges are different if no two edges cross, and only then. -/
theorem nodup_edgeIds_iff : (graph.edges.map FlowEdge.id).Nodup ↔
    ∀ edge ∈ graph.edges, ∀ crossed ∈ graph.edges, ¬ edge.Crosses crossed := by
  constructor
  · intro different edge listed crossed crossedListed crosses
    have sameId := (signed.id_eq_iff listed crossedListed).mpr (.inr (.inl crosses))
    have same : edge = crossed := List.inj_on_of_nodup_map different listed crossedListed sameId
    obtain ⟨between, source, _⟩ := crosses
    have lengths := congrArg String.length source
    have arrow : "->".length = 2 := rfl
    rw [same, String.length_append, String.length_append, arrow] at lengths
    omega
  · intro none
    apply signed.nodup_edgeIds
    intro edge listed mate mateListed alike
    rcases alike with ends | crosses | crossed
    · exact ends
    · exact absurd crosses (none edge listed mate mateListed)
    · exact absurd crossed (none mate mateListed edge listed)

/-- Without arrows in names edges that look alike have the same ends. -/
theorem ends_eq_of_looksLike (arrowless : graph.IsArrowless) {edge mate : FlowEdge}
    (listed : edge ∈ graph.edges) (alike : edge.LooksLike mate) : edge.ends = mate.ends := by
  obtain ⟨source, sourceMember, target, targetMember, ends, _⟩ := signed.exists_ends listed
  obtain ⟨sourceId, targetId⟩ := Prod.mk.inj ends
  rcases alike with same | ⟨between, _, longer⟩ | ⟨between, longer, _⟩
  · exact same
  · apply absurd _ (arrowless target targetMember)
    rw [← targetId, longer, String.toList_append, String.toList_append]
    exact ⟨_, _, rfl⟩
  · apply absurd _ (arrowless source sourceMember)
    rw [← sourceId, longer, String.toList_append, String.toList_append]
    exact ⟨_, _, rfl⟩

/-- Without arrows in names edges look alike one by one if they have the same ends. -/
theorem forall₂_looksLike_iff (arrowless : graph.IsArrowless) :
    List.Forall₂ FlowEdge.LooksLike graph.edges other.edges ↔
      graph.edges.map FlowEdge.ends = other.edges.map FlowEdge.ends := by
  rw [← List.forall₂_eq_eq_eq, List.forall₂_map_left_iff, List.forall₂_map_right_iff]
  constructor
  · intro alike
    have listed : ∀ edge ∈ graph.edges, edge ∈ graph.edges := fun _ => id
    have both := (List.forall₂_and_left graph.edges other.edges).mpr ⟨listed, alike⟩
    exact both.imp fun edge mate known => signed.ends_eq_of_looksLike arrowless known.1 known.2
  · exact List.Forall₂.imp fun edge mate same => .inl same

theorem nodup_edgeIds_of_arrowless (arrowless : graph.IsArrowless) :
    (graph.edges.map FlowEdge.id).Nodup := by
  apply signed.nodup_edgeIds
  intro edge listed mate _ alike
  exact signed.ends_eq_of_looksLike arrowless listed alike

end Marks

section Fingerprints

variable (signed : graph.Signed) (otherSigned : other.Signed)

include signed otherSigned

/-- If the lines of ids read the same, so do the fingerprints. -/
theorem fingerprint_congr (same : lines graph.idLines = lines other.idLines) :
    graph.fingerprint = other.fingerprint := by
  rw [signed.fingerprint, otherSigned.fingerprint, Flow.fingerprint, Flow.fingerprint, fingerprintText_eq,
    fingerprintText_eq, same]

/-- If the hash keeps them apart, two fingerprints are the same only if their lines read the same. -/
theorem fingerprint_eq_iff (noCollision : graph.NoCollision other) :
    graph.fingerprint = other.fingerprint ↔ lines graph.idLines = lines other.idLines := by
  constructor
  · intro same
    rw [signed.fingerprint, otherSigned.fingerprint] at same
    have bytes := noCollision (Digest.hexText_inj.mp same)
    rwa [hashedBytes, hashedBytes, toList_toUTF8_inj, fingerprintText_eq, fingerprintText_eq] at bytes
  · exact signed.fingerprint_congr otherSigned

theorem map_edgeIds_eq_iff : graph.edges.map FlowEdge.id = other.edges.map FlowEdge.id ↔
    List.Forall₂ FlowEdge.LooksLike graph.edges other.edges := by
  have named : ∀ {graph : FlowGraph}, graph.Signed →
      graph.edges.map FlowEdge.id = graph.edges.map fun edge => edgeId edge.source edge.target :=
    fun signed => List.map_congr_left signed.edgeIds
  rw [named signed, named otherSigned, ← List.forall₂_eq_eq_eq, List.forall₂_map_left_iff,
    List.forall₂_map_right_iff]
  simp only [FlowEdge.edgeId_eq_iff]

/-- Without line breaks in names the fingerprint tells the ids of the nodes, and the edges but for arrows. -/
theorem fingerprint_eq_iff_of_oneLine (noCollision : graph.NoCollision other)
    (oneLine : graph.IsOneLine) (otherOneLine : other.IsOneLine) :
    graph.fingerprint = other.fingerprint ↔
      graph.nodes.map FlowNode.id = other.nodes.map FlowNode.id ∧
        List.Forall₂ FlowEdge.LooksLike graph.edges other.edges := by
  have told : lines graph.idLines = lines other.idLines ↔ graph.idLines = other.idLines :=
    ⟨lines_inj (signed.oneLine_idLines oneLine) (otherSigned.oneLine_idLines otherOneLine),
      congrArg lines⟩
  rw [signed.fingerprint_eq_iff otherSigned noCollision, told, signed.idLines_eq_iff,
    signed.map_edgeIds_eq_iff otherSigned]

end Fingerprints

end Signed

/-- What the ids of the edges and the fingerprint tell of a graph, next to another one. -/
structure Discerns (graph other : FlowGraph) : Prop where
  /-- Two edges have one id if and only if they cross. -/
  edgeIds : (graph.edges.map FlowEdge.id).Nodup ↔
    ∀ edge ∈ graph.edges, ∀ crossed ∈ graph.edges, ¬ edge.Crosses crossed
  /-- All that the fingerprint tells are the lines of ids, which a line break in a name may be one of. -/
  fingerprint : graph.fingerprint = other.fingerprint ↔ lines graph.idLines = lines other.idLines
  /-- Without line breaks in names it tells the nodes, and the edges up to arrows in names. -/
  oneLine : graph.IsOneLine → other.IsOneLine →
    (graph.fingerprint = other.fingerprint ↔
      graph.nodes.map FlowNode.id = other.nodes.map FlowNode.id ∧
        List.Forall₂ FlowEdge.LooksLike graph.edges other.edges)
  /-- Without arrows in names either, ids and fingerprint tell all. -/
  arrowless : graph.IsArrowless → (graph.edges.map FlowEdge.id).Nodup ∧
    (graph.IsOneLine → other.IsOneLine →
      (graph.fingerprint = other.fingerprint ↔
        graph.nodes.map FlowNode.id = other.nodes.map FlowNode.id ∧
          graph.edges.map FlowEdge.ends = other.edges.map FlowEdge.ends))

end FlowGraph

/-- The ids of the nodes and those of the edges. -/
def FlowGraph.ids (graph : FlowGraph) : List String × List String :=
  (graph.nodes.map FlowNode.id, graph.edges.map FlowEdge.id)

theorem FlowLayout.exists_graph_of_ids {layout : FlowLayout} {script : ParsedScript}
    {nodeIds edgeIds : List String}
    (found : (layout.layout script).map FlowGraph.ids = .ok (nodeIds, edgeIds)) :
    ∃ graph, layout.layout script = .ok graph ∧ graph.nodes.map FlowNode.id = nodeIds ∧
      graph.edges.map FlowEdge.id = edgeIds := by
  obtain ⟨graph, laidOut, _⟩ := layout.exists_graph script
  rw [laidOut] at found
  exact ⟨graph, laidOut, Prod.mk.inj (Except.ok.inj found)⟩

/-- A query that reads and writes relations of these names. -/
def readingQuery (names outputs : List String) : Query :=
  { outputs, tables := names.map fun name => .named name none false }

/-- Where the hash does not collide, two graphs have one fingerprint if and only if the lines of ids that it is
made from read the same, and two edges of a graph have one id if and only if they cross. A name with a line
break or an arrow in it is needed for either to be mistaken. -/
theorem FlowLayout.discerns {layout otherLayout : FlowLayout} {script otherScript : ParsedScript}
    {graph other : FlowGraph} (laidOut : layout.layout script = .ok graph)
    (otherLaidOut : otherLayout.layout otherScript = .ok other) (noCollision : graph.NoCollision other) :
    graph.Discerns other := by
  have signed := signed_of_layout laidOut
  have otherSigned := signed_of_layout otherLaidOut
  refine ⟨signed.nodup_edgeIds_iff, signed.fingerprint_eq_iff otherSigned noCollision,
    signed.fingerprint_eq_iff_of_oneLine otherSigned noCollision, ?_⟩
  intro arrowless
  refine ⟨signed.nodup_edgeIds_of_arrowless arrowless, ?_⟩
  intro oneLine otherOneLine
  rw [signed.fingerprint_eq_iff_of_oneLine otherSigned noCollision oneLine otherOneLine,
    signed.forall₂_looksLike_iff arrowless]

/-- What is written from one relation and from another one makes two graphs, each with an edge of its own. -/
theorem FlowLayout.discerns_twoWrites :
    ∃ graph other,
      (ofOptions {} {}).layout { queries := [readingQuery ["a"] ["c"]] } = .ok graph ∧
        (ofOptions {} {}).layout { queries := [readingQuery ["b"] ["c"]] } = .ok other ∧
          graph.edges.map FlowEdge.id = ["source:a->output:c"] ∧
            other.edges.map FlowEdge.id = ["source:b->output:c"] ∧
              graph.NoCollision other ∧ graph.Discerns other := by
  have ids : ((ofOptions {} {}).layout { queries := [readingQuery ["a"] ["c"]] }).map FlowGraph.ids =
      .ok (["source:a", "output:c"], ["source:a->output:c"]) := by
    decide +kernel
  have otherIds : ((ofOptions {} {}).layout { queries := [readingQuery ["b"] ["c"]] }).map FlowGraph.ids =
      .ok (["source:b", "output:c"], ["source:b->output:c"]) := by
    decide +kernel
  obtain ⟨graph, laidOut, nodes, edges⟩ := exists_graph_of_ids ids
  obtain ⟨other, otherLaidOut, otherNodes, otherEdges⟩ := exists_graph_of_ids otherIds
  have noCollision : graph.NoCollision other := by
    have hashes :
        Digest.sha256 (lines ["source:a", "output:c", "--", "source:a->output:c"]).toUTF8.data.toList ≠
          Digest.sha256 (lines ["source:b", "output:c", "--", "source:b->output:c"]).toUTF8.data.toList := by
      decide +kernel
    rw [FlowGraph.NoCollision, FlowGraph.hashedBytes, FlowGraph.hashedBytes, FlowGraph.fingerprintText_eq,
      FlowGraph.fingerprintText_eq, FlowGraph.idLines, FlowGraph.idLines, nodes, edges, otherNodes,
      otherEdges, toList_byteArray, toList_byteArray]
    exact fun same => absurd same hashes
  exact ⟨graph, other, laidOut, otherLaidOut, edges, otherEdges, noCollision,
    discerns laidOut otherLaidOut noCollision⟩

/-- Two relations with an arrow in their names, of which one is read and the other one written. -/
def arrowScript : ParsedScript :=
  { queries := [readingQuery ["a->output:b"] ["c"], readingQuery ["a"] ["b->output:c"]] }

/-- Names with arrows give two edges of a graph one id, and a name with a line break gives a graph of one node
the fingerprint of one with two. -/
theorem names_clash :
    (∃ graph, (FlowLayout.ofOptions {} {}).layout arrowScript = .ok graph ∧
      ¬ (graph.edges.map FlowEdge.id).Nodup) ∧
    ∃ graph other,
      (FlowLayout.ofOptions {} {}).layout { queries := [readingQuery ["a\nsource:b"] []] } = .ok graph ∧
        (FlowLayout.ofOptions {} {}).layout { queries := [readingQuery ["a", "b"] []] } = .ok other ∧
          graph.fingerprint = other.fingerprint ∧
            graph.nodes.map FlowNode.id ≠ other.nodes.map FlowNode.id := by
  constructor
  · have ids : ((FlowLayout.ofOptions {} {}).layout arrowScript).map FlowGraph.ids =
        .ok (["source:a->output:b", "source:a", "output:c", "output:b->output:c"],
          ["source:a->output:b->output:c", "source:a->output:b->output:c"]) := by
      decide +kernel
    obtain ⟨graph, laidOut, _, edges⟩ := FlowLayout.exists_graph_of_ids ids
    refine ⟨graph, laidOut, ?_⟩
    rw [edges]
    exact fun different => (List.nodup_cons.mp different).1 List.mem_cons_self
  · have ids : ((FlowLayout.ofOptions {} {}).layout { queries := [readingQuery ["a\nsource:b"] []] }).map
        FlowGraph.ids = .ok (["source:a\nsource:b"], []) := by
      decide +kernel
    have otherIds : ((FlowLayout.ofOptions {} {}).layout { queries := [readingQuery ["a", "b"] []] }).map
        FlowGraph.ids = .ok (["source:a", "source:b"], []) := by
      decide +kernel
    obtain ⟨graph, laidOut, nodes, edges⟩ := FlowLayout.exists_graph_of_ids ids
    obtain ⟨other, otherLaidOut, otherNodes, otherEdges⟩ := FlowLayout.exists_graph_of_ids otherIds
    refine ⟨graph, other, laidOut, otherLaidOut, ?_, ?_⟩
    · apply (FlowLayout.signed_of_layout laidOut).fingerprint_congr (FlowLayout.signed_of_layout otherLaidOut)
      rw [FlowGraph.idLines, FlowGraph.idLines, nodes, edges, otherNodes, otherEdges]
      decide
    · rw [nodes, otherNodes]
      decide

end Flow

end SqlLineage

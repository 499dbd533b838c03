/-
Module: SqlLineage.Proofs.Flow.BackEdges
Purpose: What a depth-first search finds. Every edge that it marks leads back to a node from which the
  unmarked edges return, and the unmarked edges have no cycle: the order in which the search leaves the
  nodes ranks them.
Main exports: Digraph.Leads, Digraph.Closed, Digraph.Settled, Digraph.Search.Sound,
  Digraph.explore_sound, Digraph.returns_of_mem_backEdges, Digraph.exists_rank
-/
import Mathlib.Data.List.Chain
import Mathlib.Data.List.Nodup
import Mathlib.Data.List.Perm.Subperm
import Mathlib.Data.Set.Insert
import Mathlib.Logic.Relation
import SqlLineage.Flow.Digraph

namespace SqlLineage.Flow

namespace Digraph

open Relation (ReflTransGen)

variable {α : Type} {graph : Digraph α}

/-- An edge of the graph leads from the one node to the other. -/
def Leads (graph : Digraph α) (source target : α) : Prop := (source, target) ∈ graph.edges

/-- Every edge joins two nodes of the graph. -/
def Closed (graph : Digraph α) : Prop :=
  ∀ source target, graph.Leads source target → source ∈ graph.nodes ∧ target ∈ graph.nodes

theorem mem_successors [DecidableEq α] {node next : α} : next ∈ graph.successors node ↔ graph.Leads node next := by
  simp [successors, Leads]

theorem leads_without_iff [DecidableEq α] {removed : List (α × α)} {source target : α} :
    (graph.without removed).Leads source target ↔
      graph.Leads source target ∧ (source, target) ∉ removed := by
  simp [Leads, without]

/-- The edges from the listed nodes that are not marked lead to nodes further on in the list. A search
leaves its nodes in such an order, the last one first. -/
def Settled (graph : Digraph α) (marked : List (α × α)) : List α → Prop
  | [] => True
  | node :: rest =>
    (∀ next, graph.Leads node next → (node, next) ∈ marked ∨ next ∈ rest) ∧
      Settled graph marked rest

/-- Marking more edges leaves a list settled. -/
theorem Settled.mono {marked more : List (α × α)} (larger : ∀ edge ∈ marked, edge ∈ more)
    {nodes : List α} (settled : Settled graph marked nodes) : Settled graph more nodes := by
  induction nodes with
  | nil => trivial
  | cons node rest ih =>
      refine ⟨?_, ih settled.2⟩
      intro next leads
      rcases settled.1 next leads with isMarked | later
      · exact Or.inl (larger _ isMarked)
      · exact Or.inr later

/-- An unmarked edge from a settled node stays among the settled nodes. -/
theorem Settled.mem {marked : List (α × α)} {nodes : List α} (settled : Settled graph marked nodes)
    {node next : α} (listed : node ∈ nodes) (leads : graph.Leads node next)
    (unmarked : (node, next) ∉ marked) : next ∈ nodes := by
  induction nodes with
  | nil => cases listed
  | cons first rest ih =>
      rcases List.mem_cons.mp listed with rfl | later
      · exact List.mem_cons_of_mem _ ((settled.1 next leads).resolve_left unmarked)
      · exact List.mem_cons_of_mem _ (ih settled.2 later)

/-- In a settled list without repetitions every unmarked edge leads to a later position. -/
theorem Settled.idxOf_lt [DecidableEq α] {marked : List (α × α)} {nodes : List α}
    (settled : Settled graph marked nodes) (nodup : nodes.Nodup) {node next : α}
    (listed : node ∈ nodes) (leads : graph.Leads node next) (unmarked : (node, next) ∉ marked) :
    nodes.idxOf node < nodes.idxOf next := by
  induction nodes with
  | nil => cases listed
  | cons first rest ih =>
      have isNew : first ∉ rest := (List.nodup_cons.mp nodup).1
      have nextLater : next ∈ rest := by
        rcases List.mem_cons.mp listed with rfl | later
        · exact (settled.1 next leads).resolve_left unmarked
        · exact settled.2.mem later leads unmarked
      have nextNe : first ≠ next := fun same => isNew (same ▸ nextLater)
      by_cases same : first = node
      · subst same
        simp [List.idxOf_cons_ne rest nextNe]
      · have later : node ∈ rest := (List.mem_cons.mp listed).resolve_left (Ne.symm same)
        rw [List.idxOf_cons_ne rest same, List.idxOf_cons_ne rest nextNe]
        exact Nat.succ_lt_succ (ih settled.2 (List.nodup_cons.mp nodup).2 later)

/-! ### The state of a search -/

namespace Search

/-- What holds whenever the search stands at the end of a path, nearest node first. The nodes that it has
left are listed, the latest first, and `tree` holds the edges by which it entered nodes. -/
structure Sound (graph : Digraph α) (path : List α) (search : Search α) (left : List α)
    (tree : Set (α × α)) : Prop where
  mem_seen : ∀ node, node ∈ search.seen ↔ node ∈ path ∨ node ∈ left
  nodup : (path ++ left).Nodup
  inside : ∀ node ∈ path, node ∈ graph.nodes
  settled : Settled graph search.back left
  /-- The path was walked along edges of the tree. -/
  walked : path.IsChain fun child parent => (parent, child) ∈ tree
  treeLeads : ∀ source target, (source, target) ∈ tree → graph.Leads source target
  treeKept : ∀ edge ∈ tree, edge ∉ search.back
  /-- From the target of a marked edge the tree leads to its source. -/
  returns : ∀ source target, (source, target) ∈ search.back →
    ReflTransGen (fun parent child => (parent, child) ∈ tree) target source
  entered : ∀ edge, edge ∈ tree ∨ edge ∈ search.back → edge.1 ∈ search.seen

/-- What a part of the search leaves alone: the nodes that were entered before stay entered, and no edge
from one of them is marked or added to the tree. -/
structure Grows (old new : Search α) (oldTree newTree : Set (α × α)) : Prop where
  seen : ∀ node ∈ old.seen, node ∈ new.seen
  back : ∀ edge, edge.1 ∈ old.seen → (edge ∈ new.back ↔ edge ∈ old.back)
  tree : ∀ edge, edge.1 ∈ old.seen → (edge ∈ newTree ↔ edge ∈ oldTree)

theorem Grows.trans {first second third : Search α} {tree₁ tree₂ tree₃ : Set (α × α)}
    (early : Grows first second tree₁ tree₂) (late : Grows second third tree₂ tree₃) :
    Grows first third tree₁ tree₃ where
  seen node seen := late.seen node (early.seen node seen)
  back edge seen := (late.back edge (early.seen _ seen)).trans (early.back edge seen)
  tree edge seen := (late.tree edge (early.seen _ seen)).trans (early.tree edge seen)

namespace Sound

variable {path left : List α} {search : Search α} {tree : Set (α × α)}

/-- A node on the path has not been left yet. -/
theorem not_mem_left (sound : Sound graph path search left tree) {node : α} (onPath : node ∈ path) :
    node ∉ left :=
  fun isLeft => List.disjoint_of_nodup_append sound.nodup onPath isLeft

/-- The tree leads from every node on the path to its end. -/
theorem returns_of_mem_path {node : α}
    (sound : Sound graph (node :: path) search left tree) {ancestor : α}
    (onPath : ancestor ∈ node :: path) :
    ReflTransGen (fun parent child => (parent, child) ∈ tree) ancestor node := by
  have walked := sound.walked
  clear sound
  induction path generalizing node with
  | nil =>
      rw [List.mem_singleton.mp onPath]
  | cons parent path ih =>
      rw [List.isChain_cons_cons] at walked
      rcases List.mem_cons.mp onPath with rfl | further
      · exact ReflTransGen.refl
      · exact (ih further walked.2).tail walked.1

/-- A path is shorter than the list of all nodes as long as there is a node off it. -/
theorem length_path_lt (sound : Sound graph path search left tree) {node : α}
    (fresh : node ∉ search.seen) (member : node ∈ graph.nodes) :
    path.length < graph.nodes.length := by
  have offPath : node ∉ path := fun onPath => fresh ((sound.mem_seen node).mpr (Or.inl onPath))
  have nodup : (node :: path).Nodup :=
    List.nodup_cons.mpr ⟨offPath, (List.nodup_append.mp sound.nodup).1⟩
  have subset : node :: path ⊆ graph.nodes := by
    intro other listed
    rcases List.mem_cons.mp listed with rfl | onPath
    · exact member
    · exact sound.inside other onPath
  exact (List.subperm_of_subset nodup subset).length_le

/-! ### What keeps a search sound -/

/-- Entering a node puts it at the end of the path. -/
theorem enter (sound : Sound graph path search left tree) {node : α} (fresh : node ∉ search.seen)
    (member : node ∈ graph.nodes) (walked : ∀ parent ∈ path.head?, (parent, node) ∈ tree) :
    Sound graph (node :: path) { search with seen := node :: search.seen } left tree where
  mem_seen other := by simp [sound.mem_seen other, or_assoc]
  nodup := by
    have isNew : node ∉ path ++ left := by
      rwa [List.mem_append, ← sound.mem_seen node]
    exact List.nodup_cons.mpr ⟨isNew, sound.nodup⟩
  inside other listed := by
    rcases List.mem_cons.mp listed with rfl | onPath
    · exact member
    · exact sound.inside other onPath
  settled := sound.settled
  walked := List.isChain_cons.mpr ⟨walked, sound.walked⟩
  treeLeads := sound.treeLeads
  treeKept := sound.treeKept
  returns := sound.returns
  entered edge known := List.mem_cons_of_mem _ (sound.entered edge known)

/-- Marking an edge back to the path. -/
theorem mark {node next : α} (sound : Sound graph (node :: path) search left tree)
    (onPath : next ∈ node :: path) (treeAway : (node, next) ∉ tree) :
    Sound graph (node :: path) { search with back := search.back ++ [(node, next)] } left tree where
  mem_seen := sound.mem_seen
  nodup := sound.nodup
  inside := sound.inside
  settled := sound.settled.mono fun _ marked => List.mem_append_left _ marked
  walked := sound.walked
  treeLeads := sound.treeLeads
  treeKept edge inTree := by
    intro marked
    rcases List.mem_append.mp marked with old | new
    · exact sound.treeKept edge inTree old
    · rw [List.mem_singleton.mp new] at inTree
      exact treeAway inTree
  returns source target marked := by
    rcases List.mem_append.mp marked with old | new
    · exact sound.returns source target old
    · cases List.mem_singleton.mp new
      exact sound.returns_of_mem_path onPath
  entered edge known := by
    rcases known with inTree | marked
    · exact sound.entered edge (Or.inl inTree)
    · rcases List.mem_append.mp marked with old | new
      · exact sound.entered edge (Or.inr old)
      · rw [List.mem_singleton.mp new]
        exact (sound.mem_seen node).mpr (Or.inl List.mem_cons_self)

/-- Taking an edge to a node that was not entered before into the tree. -/
theorem descend {node next : α} (sound : Sound graph (node :: path) search left tree)
    (leads : graph.Leads node next) (unmarked : (node, next) ∉ search.back) :
    Sound graph (node :: path) search left (insert (node, next) tree) where
  mem_seen := sound.mem_seen
  nodup := sound.nodup
  inside := sound.inside
  settled := sound.settled
  walked := sound.walked.imp fun _ _ inTree => Set.mem_insert_of_mem _ inTree
  treeLeads source target inTree := by
    rcases Set.mem_insert_iff.mp inTree with new | old
    · cases new
      exact leads
    · exact sound.treeLeads source target old
  treeKept edge inTree := by
    rcases Set.mem_insert_iff.mp inTree with rfl | old
    · exact unmarked
    · exact sound.treeKept edge old
  returns source target marked :=
    ReflTransGen.mono (fun _ _ inTree => Set.mem_insert_of_mem _ inTree) _ _
      (sound.returns source target marked)
  entered edge known := by
    rcases known with inTree | marked
    · rcases Set.mem_insert_iff.mp inTree with rfl | old
      · exact (sound.mem_seen node).mpr (Or.inl List.mem_cons_self)
      · exact sound.entered edge (Or.inl old)
    · exact sound.entered edge (Or.inr marked)

/-- Leaving the node at the end of the path once all edges from it are dealt with. -/
theorem leave {node : α} (sound : Sound graph (node :: path) search left tree)
    (handled : ∀ next, graph.Leads node next → (node, next) ∈ search.back ∨ next ∈ left) :
    Sound graph path search (node :: left) tree where
  mem_seen other := by
    rw [sound.mem_seen other, List.mem_cons, List.mem_cons]
    tauto
  nodup := (List.perm_middle.nodup_iff).mpr sound.nodup
  inside other onPath := sound.inside other (List.mem_cons_of_mem _ onPath)
  settled := ⟨handled, sound.settled⟩
  walked := (List.isChain_cons.mp sound.walked).2
  treeLeads := sound.treeLeads
  treeKept := sound.treeKept
  returns := sound.returns
  entered := sound.entered

end Sound

end Search

/-! ### The successors of a node -/

/-- The search stands at a node and has dealt with some of its successors. Edges from the node lead back
to the path if they are marked, and away from it if they belong to the tree. -/
structure Visiting (graph : Digraph α) (path : List α) (node : α) (start search : Search α)
    (left : List α) (startTree tree : Set (α × α)) (done : List α) : Prop where
  sound : Search.Sound graph (node :: path) search left tree
  grows : Search.Grows start search startTree tree
  treeAway : ∀ next, (node, next) ∈ tree → next ∉ node :: path
  backHome : ∀ next, (node, next) ∈ search.back → next ∈ node :: path
  handled : ∀ next ∈ done, (node, next) ∈ search.back ∨ next ∈ left

section Visiting

variable {path left done : List α} {node next : α} {start search : Search α}
  {startTree tree : Set (α × α)}

/-- A successor on the path: the edge to it is marked. -/
theorem Visiting.mark
    (visiting : Visiting graph path node start search left startTree tree done)
    (fresh : node ∉ start.seen) (onPath : next ∈ node :: path) :
    Visiting graph path node start { search with back := search.back ++ [(node, next)] } left
      startTree tree (next :: done) where
  sound := visiting.sound.mark onPath fun inTree => visiting.treeAway next inTree onPath
  grows := by
    refine ⟨visiting.grows.seen, ?_, visiting.grows.tree⟩
    intro edge seen
    have other : edge ≠ (node, next) := by
      rintro rfl
      exact fresh seen
    simp [visiting.grows.back edge seen, other]
  treeAway := visiting.treeAway
  backHome other marked := by
    rcases List.mem_append.mp marked with old | new
    · exact visiting.backHome other old
    · cases List.mem_singleton.mp new
      exact onPath
  handled other listed := by
    rcases List.mem_cons.mp listed with rfl | before
    · exact Or.inl (List.mem_append_right _ (List.mem_singleton.mpr rfl))
    · rcases visiting.handled other before with marked | isLeft
      · exact Or.inl (List.mem_append_left _ marked)
      · exact Or.inr isLeft

/-- A successor that was left before: there is nothing to do. -/
theorem Visiting.skip
    (visiting : Visiting graph path node start search left startTree tree done)
    (offPath : next ∉ node :: path) (seen : next ∈ search.seen) :
    Visiting graph path node start search left startTree tree (next :: done) where
  sound := visiting.sound
  grows := visiting.grows
  treeAway := visiting.treeAway
  backHome := visiting.backHome
  handled other listed := by
    rcases List.mem_cons.mp listed with rfl | before
    · exact Or.inr (((visiting.sound.mem_seen other).mp seen).resolve_left offPath)
    · exact visiting.handled other before

variable [DecidableEq α]

/-- What the search does about one successor of the node at the end of its path. -/
def visit (graph : Digraph α) (bound : Nat) (path : List α) (node : α) (search : Search α)
    (next : α) : Search α :=
  if next ∈ node :: path then { search with back := search.back ++ [(node, next)] }
  else if next ∈ search.seen then search
  else graph.explore bound (node :: path) next search

theorem explore_succ (bound : Nat) (path : List α) (node : α) (search : Search α) :
    graph.explore (bound + 1) path node search =
      (graph.successors node).foldl (graph.visit bound path node)
        { search with seen := node :: search.seen } := by
  rw [explore]
  rfl

/-- What the search from any node off the path comes to if the bound allows for it. -/
def Explores (graph : Digraph α) (bound : Nat) : Prop :=
  ∀ (path : List α) (node : α) (search : Search α) (left : List α) (tree : Set (α × α)),
    Search.Sound graph path search left tree → node ∉ search.seen → node ∈ graph.nodes →
    graph.nodes.length < path.length + bound →
    (∀ parent ∈ path.head?, (parent, node) ∈ tree) →
    ∃ left' tree', Search.Sound graph path (graph.explore bound path node search) left' tree' ∧
      Search.Grows search (graph.explore bound path node search) tree tree' ∧
      node ∈ (graph.explore bound path node search).seen

/-- A successor that was not entered before: the edge to it joins the tree, and the search goes on from
there. What it marks or adds starts from nodes that it enters, so the edges from this node stay as they
are. -/
theorem Visiting.descend {bound : Nat} (explores : Explores graph bound)
    (visiting : Visiting graph path node start search left startTree tree done)
    (fresh : node ∉ start.seen) (closed : graph.Closed) (leads : graph.Leads node next)
    (enough : graph.nodes.length < path.length + (bound + 1))
    (offPath : next ∉ node :: path) (unseen : next ∉ search.seen) :
    ∃ left' tree',
      Visiting graph path node start (graph.explore bound (node :: path) next search) left'
        startTree tree' (next :: done) := by
  have unmarked : (node, next) ∉ search.back :=
    fun marked => offPath (visiting.backHome next marked)
  have nodeSeen : node ∈ search.seen :=
    (visiting.sound.mem_seen node).mpr (Or.inl List.mem_cons_self)
  have room : graph.nodes.length < (node :: path).length + bound := by
    rw [List.length_cons]
    omega
  have walked : ∀ parent ∈ (node :: path).head?, (parent, next) ∈ insert (node, next) tree := by
    intro parent isHead
    cases isHead
    exact Set.mem_insert _ _
  obtain ⟨left', tree', sound, grows, entered⟩ :=
    explores (node :: path) next search left (insert (node, next) tree)
      (visiting.sound.descend leads unmarked) unseen (closed node next leads).2 room walked
  refine ⟨left', tree', sound, ?_, ?_, ?_, ?_⟩
  · have added : Search.Grows start search startTree (insert (node, next) tree) := by
      refine ⟨visiting.grows.seen, visiting.grows.back, ?_⟩
      intro edge seen
      have other : edge ≠ (node, next) := by
        rintro rfl
        exact fresh seen
      simp [visiting.grows.tree edge seen, other]
    exact added.trans grows
  · intro target inTree
    rcases Set.mem_insert_iff.mp ((grows.tree (node, target) nodeSeen).mp inTree) with new | old
    · cases new
      exact offPath
    · exact visiting.treeAway target old
  · intro target marked
    exact visiting.backHome target ((grows.back (node, target) nodeSeen).mp marked)
  · -- What was entered before and is off the path has been left, and stays so.
    have isLeft : ∀ target ∉ node :: path,
        target ∈ (graph.explore bound (node :: path) next search).seen → target ∈ left' :=
      fun target away seen => ((sound.mem_seen target).mp seen).resolve_left away
    intro target listed
    rcases List.mem_cons.mp listed with rfl | before
    · exact Or.inr (isLeft target offPath entered)
    · rcases visiting.handled target before with marked | old
      · exact Or.inl ((grows.back (node, target) nodeSeen).mpr marked)
      · have seen := (visiting.sound.mem_seen target).mpr (Or.inr old)
        have away : target ∉ node :: path :=
          fun onPath => visiting.sound.not_mem_left onPath old
        exact Or.inr (isLeft target away (grows.seen target seen))

/-- All successors one after the other. -/
theorem Visiting.visitAll {bound : Nat} (explores : Explores graph bound) (fresh : node ∉ start.seen)
    (closed : graph.Closed) (enough : graph.nodes.length < path.length + (bound + 1))
    {pending : List α} (leads : ∀ next ∈ pending, graph.Leads node next)
    (visiting : Visiting graph path node start search left startTree tree done) :
    ∃ left' tree',
      Visiting graph path node start (pending.foldl (graph.visit bound path node) search) left'
        startTree tree' (pending.reverse ++ done) := by
  induction pending generalizing search left tree done with
  | nil => exact ⟨left, tree, visiting⟩
  | cons next rest ih =>
      have step : ∃ left' tree',
          Visiting graph path node start (graph.visit bound path node search next) left' startTree
            tree' (next :: done) := by
        unfold visit
        split
        · next onPath => exact ⟨left, tree, visiting.mark fresh onPath⟩
        · next offPath =>
            split
            · next seen => exact ⟨left, tree, visiting.skip offPath seen⟩
            · next unseen =>
                exact visiting.descend explores fresh closed (leads next List.mem_cons_self) enough
                  offPath unseen
      obtain ⟨left₁, tree₁, visited⟩ := step
      obtain ⟨left₂, tree₂, finished⟩ :=
        ih (fun other listed => leads other (List.mem_cons_of_mem _ listed)) visited
      refine ⟨left₂, tree₂, ?_⟩
      simpa using finished

end Visiting

variable [DecidableEq α]

/-- The search from any node off the path leaves that node, and whatever it enters on the way. -/
theorem explore_sound (closed : graph.Closed) (bound : Nat) : Explores graph bound := by
  induction bound with
  | zero =>
      -- Without room the path would hold all nodes, and this one is off it.
      intro path node search left tree sound fresh member enough walked
      have shorter := sound.length_path_lt fresh member
      omega
  | succ bound ih =>
      intro path node search left tree sound fresh member enough walked
      have entry : Visiting graph path node search { search with seen := node :: search.seen } left
          tree tree [] := by
        refine ⟨sound.enter fresh member walked, ?_, ?_, ?_, by simp⟩
        · exact ⟨fun _ seen => List.mem_cons_of_mem _ seen, fun _ _ => Iff.rfl, fun _ _ => Iff.rfl⟩
        · intro next inTree
          exact absurd (sound.entered _ (Or.inl inTree)) fresh
        · intro next marked
          exact absurd (sound.entered _ (Or.inr marked)) fresh
      obtain ⟨left', tree', visited⟩ :=
        entry.visitAll ih fresh closed enough fun next listed => mem_successors.mp listed
      rw [explore_succ]
      refine ⟨node :: left', tree', visited.sound.leave ?_, visited.grows, ?_⟩
      · intro next leads
        exact visited.handled next (by simpa using mem_successors.mpr leads)
      · exact (visited.sound.mem_seen node).mpr (Or.inl List.mem_cons_self)

/-! ### The whole search -/

/-- The next node in turn: the search goes on from it, unless it was entered before. -/
def turn (graph : Digraph α) (search : Search α) (node : α) : Search α :=
  if node ∈ search.seen then search
  else graph.explore (graph.nodes.length + 1) [] node search

theorem search_eq_foldl (graph : Digraph α) : graph.search = graph.nodes.foldl graph.turn {} := rfl

/-- One turn leaves its node. -/
theorem turn_sound (closed : graph.Closed) {search : Search α} {left : List α}
    {tree : Set (α × α)} (sound : Search.Sound graph [] search left tree) {node : α}
    (member : node ∈ graph.nodes) :
    ∃ left' tree', Search.Sound graph [] (graph.turn search node) left' tree' ∧
      (∀ other ∈ search.seen, other ∈ (graph.turn search node).seen) ∧
      node ∈ (graph.turn search node).seen := by
  unfold turn
  split
  · next seen => exact ⟨left, tree, sound, fun _ seen => seen, seen⟩
  · next unseen =>
      have room : graph.nodes.length < ([] : List α).length + (graph.nodes.length + 1) := by
        rw [List.length_nil]
        omega
      obtain ⟨left', tree', sound', grows, entered⟩ :=
        explore_sound closed (graph.nodes.length + 1) [] node search left tree sound unseen member
          room (by simp)
      exact ⟨left', tree', sound', grows.seen, entered⟩

/-- The turns of several nodes leave all of them. -/
theorem turns_sound (closed : graph.Closed) {pending : List α}
    (members : ∀ node ∈ pending, node ∈ graph.nodes) {search : Search α} {left : List α}
    {tree : Set (α × α)} (sound : Search.Sound graph [] search left tree) :
    ∃ left' tree', Search.Sound graph [] (pending.foldl graph.turn search) left' tree' ∧
      ∀ node, node ∈ search.seen ∨ node ∈ pending → node ∈ left' := by
  induction pending generalizing search left tree with
  | nil =>
      refine ⟨left, tree, sound, ?_⟩
      intro node known
      simpa [sound.mem_seen node] using known
  | cons next rest ih =>
      obtain ⟨left₁, tree₁, sound₁, kept, entered⟩ :=
        turn_sound closed sound (members next List.mem_cons_self)
      obtain ⟨left₂, tree₂, sound₂, all⟩ :=
        ih (fun node listed => members node (List.mem_cons_of_mem _ listed)) sound₁
      refine ⟨left₂, tree₂, sound₂, ?_⟩
      intro node known
      rcases known with seen | listed
      · exact all node (Or.inl (kept node seen))
      · rcases List.mem_cons.mp listed with rfl | later
        · exact all node (Or.inl entered)
        · exact all node (Or.inr later)

/-- A search from each node in turn leaves every node. -/
theorem search_sound (closed : graph.Closed) :
    ∃ left tree, Search.Sound graph [] graph.search left tree ∧ ∀ node ∈ graph.nodes, node ∈ left := by
  have start : Search.Sound graph [] {} [] (∅ : Set (α × α)) := by
    constructor <;> simp [Settled]
  obtain ⟨left, tree, sound, all⟩ := turns_sound closed (fun _ member => member) start
  rw [← search_eq_foldl] at sound
  exact ⟨left, tree, sound, fun node member => all node (Or.inr member)⟩

/-- A marked edge closes a cycle: the unmarked edges lead from its target to its source. -/
theorem returns_of_mem_backEdges (closed : graph.Closed) {source target : α}
    (marked : (source, target) ∈ graph.backEdges) :
    ReflTransGen (graph.without graph.backEdges).Leads target source := by
  obtain ⟨left, tree, sound, _⟩ := search_sound closed
  refine ReflTransGen.mono ?_ _ _ (sound.returns source target marked)
  intro parent child inTree
  exact leads_without_iff.mpr ⟨sound.treeLeads parent child inTree, sound.treeKept _ inTree⟩

/-- The unmarked edges have no cycle: some rank of the nodes grows along each of them. -/
theorem exists_rank (closed : graph.Closed) :
    ∃ rank : α → Nat, ∀ source target,
      (graph.without graph.backEdges).Leads source target → rank source < rank target := by
  obtain ⟨left, tree, sound, all⟩ := search_sound closed
  refine ⟨left.idxOf, ?_⟩
  intro source target leads
  obtain ⟨leads, unmarked⟩ := leads_without_iff.mp leads
  have nodup : left.Nodup := sound.nodup
  exact sound.settled.idxOf_lt nodup (all source (closed source target leads).1) leads unmarked

end Digraph

end SqlLineage.Flow

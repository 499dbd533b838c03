/-
Module: SqlLineage.Proofs.Text.Cut
Purpose: Where a text is cut at a character, and that its two parts are all there is to know of it. A
  change of characters that neither makes nor removes a mark leaves where a text is cut at it.
Main exports: cutFirst_append, append_mark_inj, Spares, cutLast_map, stripEnd?_map, pieces_map
-/
import SqlLineage.Text.Cut

namespace SqlLineage.Text

/-- A text is cut behind the part that is free of the mark. -/
theorem cutFirst_append {mark : Char} {before : List Char} (free : mark ∉ before)
    (after : List Char) : cutFirst mark (before ++ mark :: after) = some (before, after) := by
  induction before with
  | nil => simp [cutFirst]
  | cons c rest ih =>
      have other : c ≠ mark := fun same => free (same ▸ List.mem_cons_self)
      have restFree : mark ∉ rest := fun listed => free (List.mem_cons_of_mem c listed)
      simp [cutFirst, other, ih restFree]

/-- A text that is cut has the mark in it. -/
theorem mem_of_cutFirst {mark : Char} {cs : List Char} {parts : List Char × List Char}
    (cut : cutFirst mark cs = some parts) : mark ∈ cs := by
  induction cs generalizing parts with
  | nil => cases cut
  | cons c rest ih =>
      by_cases here : c = mark
      · exact here ▸ List.mem_cons_self
      · rw [cutFirst, if_neg here] at cut
        obtain ⟨later, cutLater, _⟩ := Option.map_eq_some_iff.mp cut
        exact List.mem_cons_of_mem c (ih cutLater)

/-- Two texts with a mark in them agree only if they do before the first mark and behind it. -/
theorem append_mark_inj {mark : Char} {before other after rest : String}
    (free : mark ∉ before.toList) (otherFree : mark ∉ other.toList) :
    before ++ String.singleton mark ++ after = other ++ String.singleton mark ++ rest ↔
      before = other ∧ after = rest := by
  constructor
  · intro same
    have lists : before.toList ++ mark :: after.toList = other.toList ++ mark :: rest.toList := by
      simpa [← String.toList_inj] using same
    have cut := cutFirst_append free after.toList
    rw [lists, cutFirst_append otherFree, Option.some.injEq, Prod.mk.injEq] at cut
    exact ⟨String.toList_inj.mp cut.1.symm, String.toList_inj.mp cut.2.symm⟩
  · intro known
    rcases known with ⟨rfl, rfl⟩
    rfl

/-! ### Pieces -/

section Pieces

variable {word before rest : List Char}

/-- At a word a piece ends. -/
theorem piecesAfter_of_some {cs : List Char} (nonempty : word ≠ [])
    (found : stripStart? word cs = some rest) :
    piecesAfter word before cs = before.reverse :: piecesAfter word [] rest := by
  cases cs with
  | nil =>
      cases word with
      | nil => exact absurd rfl nonempty
      | cons => cases found
  | cons c cs =>
      rw [piecesAfter, dif_pos nonempty]
      split
      · next other => rw [found] at other; cases other; rfl
      · next other => rw [found] at other; cases other

/-- Where no word starts a piece goes on. -/
theorem piecesAfter_of_none {c : Char} {cs : List Char}
    (found : word ≠ [] → stripStart? word (c :: cs) = none) :
    piecesAfter word before (c :: cs) = piecesAfter word (c :: before) cs := by
  rw [piecesAfter]
  split
  · next nonempty =>
      split
      · next other => rw [found nonempty] at other; cases other
      · rfl
  · rfl

/-- Every text has a piece. -/
theorem piecesAfter_ne_nil (word before cs : List Char) : piecesAfter word before cs ≠ [] := by
  fun_induction piecesAfter word before cs with
  | case1 before => simp
  | case2 before c cs nonempty rest found shorter ih => simp
  | case3 before c cs nonempty found ih => exact ih
  | case4 before c cs empty ih => exact ih

end Pieces

/-! ### Changes of characters -/

/-- Whether a change makes no character a mark and changes no mark. -/
def Spares (f : Char → Char) (mark : Char) : Prop := ∀ c, f c = mark ↔ c = mark

section Changes

variable {f : Char → Char} {mark : Char} {word : List Char}

theorem cutFirst_map (spares : Spares f mark) (cs : List Char) :
    cutFirst mark (cs.map f) = (cutFirst mark cs).map (Prod.map (List.map f) (List.map f)) := by
  induction cs with
  | nil => rfl
  | cons c rest ih =>
      rw [List.map_cons, cutFirst, cutFirst]
      by_cases isMark : c = mark
      · rw [if_pos isMark, if_pos ((spares c).mpr isMark)]
        rfl
      · rw [if_neg isMark, if_neg fun same => isMark ((spares c).mp same), ih, Option.map_map,
          Option.map_map]
        rfl

theorem cutLast_map (spares : Spares f mark) (cs : List Char) :
    cutLast mark (cs.map f) = (cutLast mark cs).map (Prod.map (List.map f) (List.map f)) := by
  rw [cutLast, cutLast, ← List.map_reverse, cutFirst_map spares, Option.map_map, Option.map_map]
  congr 1
  funext parts
  simp

theorem stripStart?_map (spares : ∀ mark ∈ word, Spares f mark) (cs : List Char) :
    stripStart? word (cs.map f) = (stripStart? word cs).map (List.map f) := by
  induction word generalizing cs with
  | nil => rfl
  | cons mark word ih =>
      obtain ⟨first, behind⟩ := List.forall_mem_cons.mp spares
      cases cs with
      | nil => rfl
      | cons c rest =>
          rw [List.map_cons, stripStart?, stripStart?, ih behind]
          by_cases isMark : mark = c
          · rw [if_pos isMark, if_pos ((first c).mpr isMark.symm).symm]
          · rw [if_neg isMark, if_neg fun same => isMark ((first c).mp same.symm).symm]
            rfl

theorem stripEnd?_map (spares : ∀ mark ∈ word, Spares f mark) (cs : List Char) :
    stripEnd? word (cs.map f) = (stripEnd? word cs).map (List.map f) := by
  have sparesReverse : ∀ mark ∈ word.reverse, Spares f mark :=
    fun mark listed => spares mark (List.mem_reverse.mp listed)
  rw [stripEnd?, stripEnd?, ← List.map_reverse, stripStart?_map sparesReverse, Option.map_map,
    Option.map_map]
  congr 1
  funext rest
  exact List.map_reverse.symm

theorem piecesAfter_map (spares : ∀ mark ∈ word, Spares f mark) (before cs : List Char) :
    piecesAfter word (before.map f) (cs.map f) = (piecesAfter word before cs).map (List.map f) := by
  fun_induction piecesAfter word before cs with
  | case1 before => simp [piecesAfter]
  | case2 before c cs nonempty rest found shorter ih =>
      have foundToo : stripStart? word ((c :: cs).map f) = some (rest.map f) := by
        rw [stripStart?_map spares, found]
        rfl
      rw [piecesAfter_of_some nonempty foundToo, List.map_cons, ← List.map_reverse]
      exact congrArg _ ih
  | case3 before c cs nonempty found ih =>
      have foundToo : stripStart? word ((c :: cs).map f) = none := by
        rw [stripStart?_map spares, found]
        rfl
      rw [List.map_cons, piecesAfter_of_none fun _ => foundToo]
      exact ih
  | case4 before c cs empty ih =>
      rw [List.map_cons, piecesAfter_of_none fun nonempty => absurd nonempty empty]
      exact ih

/-- A text is cut into the same pieces. -/
theorem pieces_map (spares : ∀ mark ∈ word, Spares f mark) (cs : List Char) :
    pieces word (cs.map f) = (pieces word cs).map (List.map f) :=
  piecesAfter_map spares [] cs

end Changes

end SqlLineage.Text

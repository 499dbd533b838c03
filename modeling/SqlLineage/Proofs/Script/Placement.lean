/-
Module: SqlLineage.Proofs.Script.Placement
Purpose: What is read off the tokens of a statement does not depend on where they stand, as long as those
  that touch still touch: neither the kind of the statement nor the relations that its scan finds.
Main exports: Token.moved, keepsReading_moved, KeepsGaps, render_moved, scanRelations_moved
-/
import Mathlib.Data.List.Chain
import SqlLineage.Proofs.Script.Readers

namespace SqlLineage.Script

/-- The token at another place. -/
def Token.moved (place : Nat → Nat) (token : Token) : Token :=
  { token with offset := place token.offset }

variable {place : Nat → Nat}

/-- A token is read in the same way wherever it stands. -/
theorem keepsReading_moved (place : Nat → Nat) : KeepsReading (Token.moved place) :=
  ⟨fun _ => rfl, fun _ _ => rfl, fun _ _ => rfl⟩

/-- Whether two tokens that touch, and no others, still touch at their new places. -/
def KeepsGaps (place : Nat → Nat) (tokens : List Token) : Prop :=
  tokens.IsChain fun left right =>
    left.stop < right.offset ↔ (left.moved place).stop < (right.moved place).offset

/-- Tokens are written out as they were if the same ones touch. -/
theorem render_moved {tokens : List Token} (keeps : KeepsGaps place tokens) :
    render (tokens.map (Token.moved place)) = render tokens := by
  cases tokens with
  | nil => rfl
  | cons token rest =>
      show token.text ++ _ = token.text ++ _
      congr 1
      induction rest generalizing token with
      | nil => rfl
      | cons next rest ih =>
          obtain ⟨gap, keepsRest⟩ := List.isChain_cons_cons.mp keeps
          have same : (next.moved place).offset > (token.moved place).stop ↔
              next.offset > token.stop := gap.symm
          rw [List.map_cons, renderAfter, renderAfter, ih next keepsRest]
          simp only [same]
          rfl

/-- A join condition has the same text wherever its tokens stand, if the same ones touch. -/
theorem keepsConditions_moved {tokens : List Token} (keeps : KeepsGaps place tokens) :
    KeepsConditions id (Token.moved place) tokens := by
  intro stretch inside
  have touching : KeepsGaps place stretch := List.IsChain.infix keeps inside
  rw [id, id, conditionText, conditionText, render_moved touching]

theorem seenJoin_id_injective : Function.Injective (seenJoin id) := by
  intro join other same
  cases join
  cases other
  simpa [seenJoin] using same

/-- Scans whose joins are seen whole found the same. -/
theorem RelationScan.SeenAlike.eq {scan other : RelationScan} (alike : scan.SeenAlike id other) :
    other = scan := by
  have joins := seenJoin_id_injective.list_map alike.joins
  calc
    other = ⟨other.cteNames, other.tables, other.joins⟩ := rfl
    _ = ⟨scan.cteNames, scan.tables, scan.joins⟩ := by rw [alike.cteNames, alike.tables, joins]

/-- The relations that a scan finds do not depend on where the tokens stand, if the same ones touch. -/
theorem scanRelations_moved {tokens : List Token} (keeps : KeepsGaps place tokens) :
    scanRelations (tokens.map (Token.moved place)) = scanRelations tokens :=
  ((keepsReading_moved place).scanRelations_map (keepsConditions_moved keeps)).eq

end SqlLineage.Script

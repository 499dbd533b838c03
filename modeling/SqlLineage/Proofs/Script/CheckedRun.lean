/-
Module: SqlLineage.Proofs.Script.CheckedRun
Purpose: Runs of readers that go by positions. Such a run fails where an element or a stretch is asked for
  that is not there, or where a counter would go below zero, and a loop in it need not come to an end.
Main exports: Fault, Run, Turn, Run.returns, Run.loop, Run.loop_next, Run.loop_done, Run.elementAt, Run.slice
-/
import Mathlib.Data.List.Basic

namespace SqlLineage.Script

/-- Why a run fails. -/
inductive Fault where
  | indexOutOfBounds
  | sliceOutOfBounds
  | countBelowZero
deriving Repr, DecidableEq

/-- A run that may fail, or may never come to an end, which is `none`. -/
abbrev Run (α : Type) : Type := ExceptT Fault Option α

/-- How one turn of a loop ends: with the next state, or with the result of the loop. -/
inductive Turn (σ α : Type) where
  | goOn (next : σ)
  | done (result : α)

namespace Run

variable {α β σ : Type}

/-- The run that ends with this result. -/
def returns (result : α) : Run α := some (.ok result)

/-- The run that fails for this reason. -/
def fails (fault : Fault) : Run α := some (.error fault)

@[simp] theorem returns_bind (result : α) (next : α → Run β) : returns result >>= next = next result := rfl

/-! ### Loops -/

/-- A loop goes on with the next state until its body gives a result. -/
def loop (body : σ → Run (Turn σ α)) (state : σ) : Run α := do
  match ← body state with
  -- This is `loop body next`: as a term it would carry its place in the file into the definition.
  | .goOn next => by apply loop; exacts [body, next]
  | .done result => returns result
partial_fixpoint

section Loops

variable {body : σ → Run (Turn σ α)} {state next : σ} {result : α}

theorem loop_next (step : body state = returns (.goOn next)) : loop body state = loop body next := by
  rw [loop, step, returns_bind]

theorem loop_done (step : body state = returns (.done result)) : loop body state = returns result := by
  rw [loop, step, returns_bind]

/-- The states that a loop comes to from a state. -/
inductive Reaches (body : σ → Run (Turn σ α)) (start : σ) : σ → Prop where
  | start : Reaches body start start
  | next {state next : σ} (reached : Reaches body start state) (step : body state = returns (.goOn next)) :
      Reaches body start next

end Loops

/-! ### Elements, stretches and counters -/

def elementAt (items : List α) (index : Nat) : Run α :=
  match items[index]? with
  | some item => returns item
  | none => fails .indexOutOfBounds

/-- The list with another element at this place. -/
def replaceAt (items : List α) (index : Nat) (item : α) : Run (List α) :=
  if index < items.length then returns (items.set index item) else fails .indexOutOfBounds

/-- The elements from one position up to another. -/
def slice (items : List α) (start stop : Nat) : Run (List α) :=
  if start ≤ stop ∧ stop ≤ items.length then returns ((items.take stop).drop start)
  else fails .sliceOutOfBounds

def decrement : Nat → Run Nat
  | 0 => fails .countBelowZero
  | count + 1 => returns count

theorem elementAt_append (front : List α) (item : α) (behind : List α) :
    elementAt (front ++ item :: behind) front.length = returns item := by
  simp [elementAt]

theorem replaceAt_append (front : List α) (item other : α) (behind : List α) :
    replaceAt (front ++ item :: behind) front.length other = returns (front ++ other :: behind) := by
  simp [replaceAt]

theorem slice_append (front middle behind : List α) :
    slice (front ++ (middle ++ behind)) front.length (front.length + middle.length) = returns middle := by
  rw [slice, if_pos ⟨Nat.le_add_right _ _, by simp⟩]
  simp [List.take_append]

end Run

end SqlLineage.Script

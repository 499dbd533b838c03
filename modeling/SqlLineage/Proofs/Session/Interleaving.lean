/-
Module: SqlLineage.Proofs.Session.Interleaving
Purpose: Submissions to one session that run at the same time. Each takes four steps, which may fall
  between those of any others: it starts, gets its answer, takes the lock to see whether it is still the
  newest, and then keeps its graph and gives the lock back.
Main exports: Phase, Event, Traffic, step, run, run_submit, Steps, run_keeps, run_keeps_phase
-/
import Mathlib.Logic.Function.Basic
import SqlLineage.Session.Basic

namespace SqlLineage.Session

open Remote (Exchange)

/-! ### The steps of submissions -/

/-- How far a submission has come. It keeps its ticket. -/
inductive Phase where
  /-- It waits for its answer. -/
  | started (ticket : Nat) (sql : String)
  /-- It has its outcome and waits for the lock. -/
  | resolved (ticket : Nat) (outcome : FlowOutcome)
  /-- It holds the lock, and no other had started after it when it took it. -/
  | accepted (ticket : Nat) (outcome : FlowOutcome)
  /-- It has ended; without an outcome it was discarded. -/
  | returned (ticket : Nat) (result : Option FlowOutcome)

namespace Phase

def ticket : Phase → Nat
  | started ticket _ | resolved ticket _ | accepted ticket _ | returned ticket _ => ticket

/-- Whether the submission was found to be the newest when it took the lock. -/
def isAccepted : Phase → Bool
  | accepted _ _ | returned _ (some _) => true
  | _ => false

/-- Whether one phase of a submission may follow another. -/
inductive Onward : Phase → Phase → Prop where
  | resolve {ticket : Nat} {sql : String} {outcome : FlowOutcome} :
      Onward (.started ticket sql) (.resolved ticket outcome)
  | accept {ticket : Nat} {outcome : FlowOutcome} :
      Onward (.resolved ticket outcome) (.accepted ticket outcome)
  | discard {ticket : Nat} {outcome : FlowOutcome} :
      Onward (.resolved ticket outcome) (.returned ticket none)
  | publish {ticket : Nat} {outcome : FlowOutcome} :
      Onward (.accepted ticket outcome) (.returned ticket (some outcome))

theorem Onward.ticket_eq {old new : Phase} (onward : old.Onward new) : new.ticket = old.ticket := by
  cases onward <;> rfl

theorem Onward.isAccepted {old new : Phase} (onward : old.Onward new)
    (accepted : old.isAccepted = true) : new.isAccepted = true := by
  cases onward with
  | resolve | accept | discard => cases accepted
  | publish => rfl

end Phase

/-- One step of the submission with this number. -/
inductive Event where
  | start (id : Nat) (sql : String)
  /-- The answer comes, whatever became of the request to the remote service. -/
  | resolve (id : Nat) (exchange : Exchange)
  | check (id : Nat)
  | publish (id : Nat)

def Event.isStart : Event → Bool
  | start _ _ => true
  | _ => false

/-- A session and the submissions to it. -/
structure Traffic where
  session : FlowSession
  /-- How far the submission with a number has come, if there is one. -/
  phase : Nat → Option Phase := fun _ => none
  /-- The submission that holds the lock. -/
  holder : Option Nat := none

namespace Traffic

/-- A submission comes to its next phase. -/
def advance (traffic : Traffic) (id : Nat) (phase : Phase) : Traffic :=
  { traffic with phase := Function.update traffic.phase id (some phase) }

/-- Takes a step if it can be taken now. The lock is free for a check; one that finds the submission stale
gives it back at once. -/
def step (traffic : Traffic) : Event → Option Traffic
  | .start id sql =>
    match traffic.phase id with
    | none =>
      let (ticket, session) := traffic.session.start
      some ({ traffic with session }.advance id (.started ticket sql))
    | some _ => none
  | .resolve id exchange =>
    match traffic.phase id with
    | some (.started ticket sql) =>
      some (traffic.advance id (.resolved ticket (traffic.session.outcome exchange sql)))
    | _ => none
  | .check id =>
    match traffic.holder, traffic.phase id with
    | none, some (.resolved ticket outcome) =>
      if traffic.session.isCurrent ticket then
        some ({ traffic with holder := some id }.advance id (.accepted ticket outcome))
      else some (traffic.advance id (.returned ticket none))
    | _, _ => none
  | .publish id =>
    match traffic.phase id with
    | some (.accepted ticket outcome) =>
      some ({ traffic with session := traffic.session.publish outcome, holder := none }.advance id
        (.returned ticket (some outcome)))
    | _ => none

/-- Takes steps one after another, if each can be taken when its turn comes. -/
def run (traffic : Traffic) : List Event → Option Traffic
  | [] => some traffic
  | event :: rest => (traffic.step event).bind fun next => next.run rest

/-- A submission that no other comes between does what the session does with it. -/
theorem run_submit {traffic : Traffic} {id : Nat} (free : traffic.holder = none)
    (fresh : traffic.phase id = none) (sql : String) (exchange : Exchange) :
    ∃ last, traffic.run [.start id sql, .resolve id exchange, .check id, .publish id] = some last ∧
      last.session = (traffic.session.submit exchange sql).2 ∧ last.holder = none ∧
      last.phase id = some (.returned traffic.session.start.1 (traffic.session.submit exchange sql).1) := by
  simp [run, step, advance, free, fresh, FlowSession.submit, FlowSession.start, FlowSession.finish,
    FlowSession.isCurrent, FlowSession.publish, FlowSession.outcome]

/-! ### What a step does -/

/-- The steps that can be taken, and what each of them leads to. -/
inductive Steps (traffic : Traffic) : Event → Traffic → Prop where
  | start {id : Nat} {sql : String} (fresh : traffic.phase id = none) :
      Steps traffic (.start id sql)
        ({ traffic with session := traffic.session.start.2 }.advance id
          (.started (traffic.session.generation + 1) sql))
  | resolve {id : Nat} {exchange : Exchange} {ticket : Nat} {sql : String}
      (waits : traffic.phase id = some (.started ticket sql)) :
      Steps traffic (.resolve id exchange)
        (traffic.advance id (.resolved ticket (traffic.session.outcome exchange sql)))
  | accept {id ticket : Nat} {outcome : FlowOutcome} (free : traffic.holder = none)
      (waits : traffic.phase id = some (.resolved ticket outcome))
      (current : traffic.session.generation = ticket) :
      Steps traffic (.check id)
        ({ traffic with holder := some id }.advance id (.accepted ticket outcome))
  | discard {id ticket : Nat} {outcome : FlowOutcome} (free : traffic.holder = none)
      (waits : traffic.phase id = some (.resolved ticket outcome))
      (stale : traffic.session.generation ≠ ticket) :
      Steps traffic (.check id) (traffic.advance id (.returned ticket none))
  | publish {id ticket : Nat} {outcome : FlowOutcome}
      (holds : traffic.phase id = some (.accepted ticket outcome)) :
      Steps traffic (.publish id)
        ({ traffic with session := traffic.session.publish outcome, holder := none }.advance id
          (.returned ticket (some outcome)))

theorem steps_of_step {traffic next : Traffic} {event : Event} (taken : traffic.step event = some next) :
    traffic.Steps event next := by
  cases event with
  | start id sql =>
      cases phase : traffic.phase id with
      | none =>
          simp only [step, phase, Option.some.injEq] at taken
          exact taken ▸ .start phase
      | some _ => simp [step, phase] at taken
  | resolve id exchange =>
      simp only [step] at taken
      split at taken
      · next ticket sql phase =>
          cases taken
          exact .resolve phase
      · cases taken
  | check id =>
      simp only [step] at taken
      split at taken
      · next ticket outcome free phase =>
          split at taken
          · next current =>
              cases taken
              exact .accept free phase (by simpa [FlowSession.isCurrent] using current)
          · next stale =>
              cases taken
              exact .discard free phase (by simpa [FlowSession.isCurrent] using stale)
      · cases taken
  | publish id =>
      simp only [step] at taken
      split at taken
      · next ticket outcome phase =>
          cases taken
          exact .publish phase
      · cases taken

@[simp] theorem session_advance (traffic : Traffic) (id : Nat) (phase : Phase) :
    (traffic.advance id phase).session = traffic.session := rfl

@[simp] theorem phase_advance_self (traffic : Traffic) (id : Nat) (phase : Phase) :
    (traffic.advance id phase).phase id = some phase := Function.update_self ..

theorem phase_advance_of_ne (traffic : Traffic) {id other : Nat} (apart : other ≠ id) (phase : Phase) :
    (traffic.advance id phase).phase other = traffic.phase other := Function.update_of_ne apart ..

/-- A submission is in the phase that it has come to now, or it is another one and where it was. -/
theorem phase_advance {traffic : Traffic} {id other : Nat} {new phase : Phase}
    (found : (traffic.advance id new).phase other = some phase) :
    other = id ∧ phase = new ∨ other ≠ id ∧ traffic.phase other = some phase := by
  by_cases same : other = id
  · subst same
    rw [phase_advance_self] at found
    exact .inl ⟨rfl, (Option.some.inj found).symm⟩
  · rw [phase_advance_of_ne traffic same] at found
    exact .inr ⟨same, found⟩

/-- A phase that is not the new one was reached before. -/
theorem phase_before {traffic : Traffic} {id other : Nat} {new phase : Phase}
    (found : (traffic.advance id new).phase other = some phase) (unlike : phase ≠ new) :
    traffic.phase other = some phase := by
  rcases phase_advance found with ⟨_, isNew⟩ | ⟨_, before⟩
  · exact absurd isNew unlike
  · exact before

/-! ### Runs -/

variable {traffic next last : Traffic} {event : Event} {events before after : List Event}

theorem exists_of_run_cons (ran : traffic.run (event :: events) = some last) :
    ∃ next, traffic.Steps event next ∧ next.run events = some last := by
  obtain ⟨next, taken, rest⟩ := Option.bind_eq_some_iff.mp ran
  exact ⟨next, steps_of_step taken, rest⟩

theorem exists_of_run_append (ran : traffic.run (before ++ after) = some last) :
    ∃ next, traffic.run before = some next ∧ next.run after = some last := by
  induction before generalizing traffic with
  | nil => exact ⟨traffic, rfl, ran⟩
  | cons event before ih =>
      obtain ⟨second, taken, rest⟩ := Option.bind_eq_some_iff.mp ran
      obtain ⟨next, first, behind⟩ := ih rest
      exact ⟨next, Option.bind_eq_some_iff.mpr ⟨second, taken, first⟩, behind⟩

/-- What each step keeps, a run keeps. -/
theorem run_keeps (Kept : Traffic → Prop)
    (kept : ∀ {traffic event next}, Traffic.Steps traffic event next → Kept traffic → Kept next)
    (ran : traffic.run events = some last) (holds : Kept traffic) : Kept last := by
  induction events generalizing traffic with
  | nil =>
      cases ran
      exact holds
  | cons event events ih =>
      obtain ⟨next, taken, rest⟩ := exists_of_run_cons ran
      exact ih rest (kept taken holds)

/-- The counter of the session counts the submissions that start. -/
theorem generation_of_run (ran : traffic.run events = some last) :
    last.session.generation = traffic.session.generation + events.countP Event.isStart := by
  induction events generalizing traffic with
  | nil =>
      cases ran
      rfl
  | cons event events ih =>
      obtain ⟨next, taken, rest⟩ := exists_of_run_cons ran
      rw [ih rest]
      cases taken with
      | start fresh =>
          rw [List.countP_cons_of_pos rfl]
          show traffic.session.generation + 1 + _ = _
          omega
      | resolve waits => rw [List.countP_cons_of_neg Bool.false_ne_true, session_advance]
      | accept free waits current => rw [List.countP_cons_of_neg Bool.false_ne_true, session_advance]
      | discard free waits stale => rw [List.countP_cons_of_neg Bool.false_ne_true, session_advance]
      | publish holds =>
          rw [List.countP_cons_of_neg Bool.false_ne_true, session_advance, FlowSession.publish]

/-! ### What a submission keeps -/

/-- A submission stays where it is or goes on. -/
theorem phase_of_step {id : Nat} {old : Phase} (taken : traffic.Steps event next)
    (found : traffic.phase id = some old) :
    next.phase id = some old ∨ ∃ new, old.Onward new ∧ next.phase id = some new := by
  -- Only the submission that takes the step leaves its phase.
  have others : ∀ {changed : Traffic} {other : Nat} {new : Phase}, changed.phase = traffic.phase →
      other ≠ id → (changed.advance other new).phase id = some old := by
    intro changed other new same apart
    rw [phase_advance_of_ne changed apart.symm, same, found]
  cases taken with
  | @start other sql fresh =>
      by_cases same : other = id
      · rw [same, found] at fresh
        cases fresh
      · exact .inl (others rfl same)
  | @resolve other exchange ticket sql waits =>
      by_cases same : other = id
      · subst same
        cases waits.symm.trans found
        exact .inr ⟨_, .resolve, phase_advance_self ..⟩
      · exact .inl (others rfl same)
  | @accept other ticket outcome free waits current =>
      by_cases same : other = id
      · subst same
        cases waits.symm.trans found
        exact .inr ⟨_, .accept, phase_advance_self ..⟩
      · exact .inl (others rfl same)
  | @discard other ticket outcome free waits stale =>
      by_cases same : other = id
      · subst same
        cases waits.symm.trans found
        exact .inr ⟨_, .discard, phase_advance_self ..⟩
      · exact .inl (others rfl same)
  | @publish other ticket outcome holds =>
      by_cases same : other = id
      · subst same
        cases holds.symm.trans found
        exact .inr ⟨_, .publish, phase_advance_self ..⟩
      · exact .inl (others rfl same)

/-- What a submission keeps wherever it goes on, a run keeps. -/
theorem run_keeps_phase (Kept : Phase → Prop) {id : Nat}
    (kept : ∀ {old new : Phase}, old.Onward new → Kept old → Kept new)
    (ran : traffic.run events = some last)
    (holds : ∃ phase, traffic.phase id = some phase ∧ Kept phase) :
    ∃ phase, last.phase id = some phase ∧ Kept phase := by
  refine run_keeps (fun traffic => ∃ phase, traffic.phase id = some phase ∧ Kept phase) ?_ ran holds
  rintro traffic event next taken ⟨old, found, keptOld⟩
  rcases phase_of_step taken found with stays | ⟨new, onward, moved⟩
  · exact ⟨old, stays, keptOld⟩
  · exact ⟨new, moved, kept onward keptOld⟩

/-- A submission that has ended stays as it is. -/
theorem returned_of_run {id ticket : Nat} {result : Option FlowOutcome}
    (ran : traffic.run events = some last) (ended : traffic.phase id = some (.returned ticket result)) :
    last.phase id = some (.returned ticket result) := by
  obtain ⟨phase, found, rfl⟩ := run_keeps_phase (· = .returned ticket result)
    (fun onward same => by subst same; cases onward) ran ⟨_, ended, rfl⟩
  exact found

/-- No submission starts twice. -/
theorem not_mem_start_of_run {id : Nat} {phase : Phase} (ran : traffic.run events = some last)
    (found : traffic.phase id = some phase) (sql : String) : Event.start id sql ∉ events := by
  intro again
  obtain ⟨before, after, rfl⟩ := List.append_of_mem again
  obtain ⟨between, first, behind⟩ := exists_of_run_append ran
  obtain ⟨other, known, _⟩ :=
    run_keeps_phase (fun _ => True) (fun _ _ => trivial) first ⟨phase, found, trivial⟩
  obtain ⟨next, taken, _⟩ := exists_of_run_cons behind
  cases taken with
  | start fresh =>
      rw [known] at fresh
      cases fresh

end Traffic

end SqlLineage.Session

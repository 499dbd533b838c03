/-
Module: SqlLineage.Proofs.Session.LastRequest
Purpose: The last request wins. Whatever submissions to a session come between one another, a submission is
  discarded exactly if another one started before it could be checked, and the session shows the graph of
  the newest one that has a graph.
Main exports: Coherent, coherent_of_run, LastRequestWins, lastRequestWins
-/
import SqlLineage.Proofs.Session.Interleaving

namespace SqlLineage.Session

open Remote (Resolver)
open SqlLineage.Flow (FlowGraph FlowLayout)

namespace Traffic

variable {traffic next last : Traffic} {event : Event} {events : List Event}

/-! ### What holds at every moment -/

/-- Whether tickets tell the submissions apart, and none was given that the counter has not come to. -/
structure Ticketed (traffic : Traffic) : Prop where
  bounded : ∀ {id phase}, traffic.phase id = some phase → phase.ticket ≤ traffic.session.generation
  apart : ∀ {id other first second}, traffic.phase id = some first → traffic.phase other = some second →
    first.ticket = second.ticket → id = other

theorem Ticketed.advance {changed : Traffic} {id : Nat} {old new : Phase} (ticketed : changed.Ticketed)
    (found : changed.phase id = some old) (onward : old.Onward new) :
    (changed.advance id new).Ticketed where
  bounded := by
    intro other phase reached
    rcases phase_advance reached with ⟨rfl, rfl⟩ | ⟨_, before⟩
    · rw [onward.ticket_eq]
      exact ticketed.bounded found
    · exact ticketed.bounded before
  apart := by
    intro first second phase other reachedFirst reachedSecond same
    rcases phase_advance reachedFirst with ⟨rfl, rfl⟩ | ⟨_, beforeFirst⟩ <;>
      rcases phase_advance reachedSecond with ⟨rfl, rfl⟩ | ⟨_, beforeSecond⟩
    · rfl
    · exact ticketed.apart found beforeSecond (onward.ticket_eq ▸ same)
    · exact ticketed.apart beforeFirst found (onward.ticket_eq ▸ same)
    · exact ticketed.apart beforeFirst beforeSecond same

theorem Ticketed.of_steps (taken : traffic.Steps event next) (ticketed : traffic.Ticketed) :
    next.Ticketed := by
  cases taken with
  | @start id sql fresh =>
      -- The new ticket is larger than all before it.
      have new : ∀ {other phase}, traffic.phase other = some phase →
          phase.ticket ≠ traffic.session.generation + 1 := by
        intro other phase before
        have := ticketed.bounded before
        omega
      refine ⟨?_, ?_⟩
      · intro other phase reached
        rcases phase_advance reached with ⟨rfl, rfl⟩ | ⟨_, before⟩
        · exact Nat.le_refl _
        · exact Nat.le_succ_of_le (ticketed.bounded before)
      · intro first second phase other reachedFirst reachedSecond same
        rcases phase_advance reachedFirst with ⟨rfl, rfl⟩ | ⟨_, beforeFirst⟩ <;>
          rcases phase_advance reachedSecond with ⟨rfl, rfl⟩ | ⟨_, beforeSecond⟩
        · rfl
        · exact absurd same.symm (new beforeSecond)
        · exact absurd same (new beforeFirst)
        · exact ticketed.apart beforeFirst beforeSecond same
  | resolve waits => exact ticketed.advance waits .resolve
  | @accept id _ _ free waits current =>
      have locked : Ticketed { traffic with holder := some id } := ⟨ticketed.bounded, ticketed.apart⟩
      exact locked.advance waits .accept
  | discard free waits stale => exact ticketed.advance waits .discard
  | @publish id _ outcome holds =>
      have kept : Ticketed { traffic with session := traffic.session.publish outcome, holder := none } :=
        ⟨ticketed.bounded, ticketed.apart⟩
      exact kept.advance holds .publish

/-- Whether a submission has returned with this graph, and its ticket. -/
def Gave (traffic : Traffic) (id ticket : Nat) (graph : FlowGraph) : Prop :=
  ∃ outcome, traffic.phase id = some (.returned ticket (some outcome)) ∧ outcome.graph = some graph

/-- Whether the session shows the graph of the submission with the largest ticket among those that have
returned with one, and none if there are none. -/
structure ShowsNewest (traffic : Traffic) : Prop where
  newest : ∀ {graph}, traffic.session.latest = some graph →
    ∃ id ticket, traffic.Gave id ticket graph ∧
      ∀ {other earlier drawn}, traffic.Gave other earlier drawn → earlier ≤ ticket
  nothing : traffic.session.latest = none → ∀ {id ticket graph}, ¬ traffic.Gave id ticket graph

/-- What holds of a session and its submissions whatever steps have been taken. -/
structure Coherent (traffic : Traffic) : Prop where
  ticketed : traffic.Ticketed
  /-- An accepted submission holds the lock. -/
  held : ∀ {id ticket outcome}, traffic.phase id = some (.accepted ticket outcome) →
    traffic.holder = some id
  /-- A discarded submission is not the newest. -/
  stale : ∀ {id ticket}, traffic.phase id = some (.returned ticket none) →
    ticket < traffic.session.generation
  /-- An accepted submission started after all that were published. -/
  later : ∀ {id ticket outcome other earlier result},
    traffic.phase id = some (.accepted ticket outcome) →
      traffic.phase other = some (.returned earlier (some result)) → earlier < ticket
  shows : traffic.ShowsNewest

theorem coherent_initial (resolver : Resolver) (layout : FlowLayout) :
    Coherent { session := { resolver, layout } } where
  ticketed := ⟨nofun, nofun⟩
  held := nofun
  stale := nofun
  later := nofun
  shows := ⟨nofun, fun _ _ _ _ ⟨_, found, _⟩ => nomatch found⟩

variable {id : Nat} {new : Phase}

/-- A step that publishes nothing leaves what was published. -/
theorem ShowsNewest.advance {changed : Traffic} (shows : changed.ShowsNewest)
    (unpublished : ∀ {ticket outcome}, changed.phase id ≠ some (.returned ticket (some outcome)))
    (silent : ∀ {ticket outcome}, new = .returned ticket (some outcome) → outcome.graph = none) :
    (changed.advance id new).ShowsNewest := by
  have same : ∀ {other ticket graph},
      (changed.advance id new).Gave other ticket graph ↔ changed.Gave other ticket graph := by
    intro other ticket graph
    constructor
    · rintro ⟨outcome, reached, drawn⟩
      rcases phase_advance reached with ⟨_, isNew⟩ | ⟨_, before⟩
      · cases (silent isNew.symm).symm.trans drawn
      · exact ⟨outcome, before, drawn⟩
    · rintro ⟨outcome, before, drawn⟩
      have apart : other ≠ id := by
        rintro rfl
        exact unpublished before
      exact ⟨outcome, (phase_advance_of_ne changed apart new).trans before, drawn⟩
  refine ⟨fun latest => ?_, fun latest => ?_⟩
  · obtain ⟨newest, ticket, gave, largest⟩ := shows.newest latest
    exact ⟨newest, ticket, same.mpr gave, fun gaveOther => largest (same.mp gaveOther)⟩
  · intro other ticket graph gave
    exact shows.nothing latest (same.mp gave)

theorem Coherent.held_of_steps (coherent : traffic.Coherent) (taken : traffic.Steps event next)
    {other ticket : Nat} {outcome : FlowOutcome}
    (reached : next.phase other = some (.accepted ticket outcome)) : next.holder = some other := by
  cases taken with
  | start cause | resolve cause => exact coherent.held (phase_before reached nofun)
  | accept free waits current =>
      rcases phase_advance reached with ⟨rfl, _⟩ | ⟨_, before⟩
      · rfl
      · cases free.symm.trans (coherent.held before)
  | discard free waits stale => exact coherent.held (phase_before reached nofun)
  | publish holds =>
      -- No other submission can have been accepted.
      have before := phase_before reached nofun
      cases (coherent.held holds).symm.trans (coherent.held before)
      rw [phase_advance_self] at reached
      cases reached

theorem Coherent.stale_of_steps (coherent : traffic.Coherent) (taken : traffic.Steps event next)
    {other ticket : Nat} (reached : next.phase other = some (.returned ticket none)) :
    ticket < next.session.generation := by
  cases taken with
  | start fresh => exact Nat.lt_succ_of_lt (coherent.stale (phase_before reached nofun))
  | resolve waits => exact coherent.stale (phase_before reached nofun)
  | accept free waits current => exact coherent.stale (phase_before reached nofun)
  | discard free waits overtaken =>
      rcases phase_advance reached with ⟨_, isNew⟩ | ⟨_, before⟩
      · cases isNew
        exact Nat.lt_of_le_of_ne (coherent.ticketed.bounded waits) overtaken.symm
      · exact coherent.stale before
  | publish holds => exact coherent.stale (phase_before reached nofun)

theorem Coherent.later_of_steps (coherent : traffic.Coherent) (taken : traffic.Steps event next)
    {first second ticket earlier : Nat} {outcome result : FlowOutcome}
    (accepted : next.phase first = some (.accepted ticket outcome))
    (published : next.phase second = some (.returned earlier (some result))) : earlier < ticket := by
  cases taken with
  | start cause | resolve cause =>
      exact coherent.later (phase_before accepted nofun) (phase_before published nofun)
  | accept free waits current =>
      have ended := phase_before published nofun
      rcases phase_advance accepted with ⟨_, isNew⟩ | ⟨_, before⟩
      · -- The counter stands at the ticket that is accepted, and no other submission has that ticket.
        cases isNew
        refine Nat.lt_of_le_of_ne (current ▸ coherent.ticketed.bounded ended) fun same => ?_
        cases coherent.ticketed.apart ended waits same
        cases waits.symm.trans ended
      · cases free.symm.trans (coherent.held before)
  | discard free waits stale =>
      exact coherent.later (phase_before accepted nofun) (phase_before published nofun)
  | publish holds =>
      have before := phase_before accepted nofun
      cases (coherent.held holds).symm.trans (coherent.held before)
      rw [phase_advance_self] at accepted
      cases accepted

theorem Coherent.shows_of_steps (coherent : traffic.Coherent) (taken : traffic.Steps event next) :
    next.ShowsNewest := by
  cases taken with
  | @start id sql fresh =>
      have counted : ShowsNewest { traffic with session := traffic.session.start.2 } :=
        ⟨coherent.shows.newest, coherent.shows.nothing⟩
      refine counted.advance ?_ nofun
      intro ticket outcome ended
      cases fresh.symm.trans ended
  | resolve waits =>
      refine coherent.shows.advance ?_ nofun
      intro ticket outcome ended
      cases waits.symm.trans ended
  | @accept id ticket outcome free waits current =>
      have locked : ShowsNewest { traffic with holder := some id } :=
        ⟨coherent.shows.newest, coherent.shows.nothing⟩
      refine locked.advance ?_ nofun
      intro ticket outcome ended
      cases waits.symm.trans ended
  | discard free waits stale =>
      refine coherent.shows.advance ?_ nofun
      intro ticket outcome ended
      cases waits.symm.trans ended
  | @publish id ticket outcome holds =>
      cases drawn : outcome.graph with
      | none =>
          have kept : ShowsNewest
              { traffic with session := traffic.session.publish outcome, holder := none } := by
            have same : (traffic.session.publish outcome).latest = traffic.session.latest := by
              simp [FlowSession.publish, drawn]
            exact ⟨fun latest => coherent.shows.newest (same ▸ latest),
              fun latest => coherent.shows.nothing (same ▸ latest)⟩
          refine kept.advance ?_ ?_
          · intro ticket outcome ended
            cases holds.symm.trans ended
          · intro ticket result isNew
            cases isNew
            exact drawn
      | some graph =>
          have latest : (traffic.session.publish outcome).latest = some graph := by
            simp [FlowSession.publish, drawn]
          refine ⟨fun shown => ?_, fun shown => ?_⟩
          · cases latest.symm.trans shown
            refine ⟨id, ticket, ⟨outcome, phase_advance_self .., drawn⟩, ?_⟩
            rintro other earlier _ ⟨result, reached, _⟩
            rcases phase_advance reached with ⟨_, isNew⟩ | ⟨_, before⟩
            · cases isNew
              exact Nat.le_refl _
            · exact Nat.le_of_lt (coherent.later holds before)
          · cases latest.symm.trans shown

/-- Each step keeps the order of things. -/
theorem Coherent.of_steps (taken : traffic.Steps event next) (coherent : traffic.Coherent) :
    next.Coherent where
  ticketed := coherent.ticketed.of_steps taken
  held := coherent.held_of_steps taken
  stale := coherent.stale_of_steps taken
  later := coherent.later_of_steps taken
  shows := coherent.shows_of_steps taken

theorem coherent_of_run {resolver : Resolver} {layout : FlowLayout}
    (ran : run { session := { resolver, layout } } events = some last) : last.Coherent :=
  run_keeps Coherent (fun taken coherent => coherent.of_steps taken) ran
    (coherent_initial resolver layout)

/-! ### The last request wins -/

/-- Whether a submission was discarded. -/
def IsDiscarded (traffic : Traffic) (id : Nat) : Prop :=
  ∃ ticket, traffic.phase id = some (.returned ticket none)

/-- A submission that has started keeps its ticket, which is what the counter came to. -/
theorem ticket_of_run_start {sql : String} (ran : traffic.run (.start id sql :: events) = some last) :
    ∃ phase, last.phase id = some phase ∧
      last.session.generation = phase.ticket + events.countP Event.isStart := by
  obtain ⟨started, taken, rest⟩ := exists_of_run_cons ran
  cases taken with
  | start fresh =>
      obtain ⟨phase, found, ticket⟩ := run_keeps_phase
        (·.ticket = traffic.session.generation + 1) (fun onward same => onward.ticket_eq.trans same) rest
        ⟨_, phase_advance_self .., rfl⟩
      refine ⟨phase, found, ?_⟩
      rw [generation_of_run rest, ticket]
      rfl

/-- A submission that has been checked was discarded exactly if the counter had gone on. -/
theorem isDiscarded_of_run_check {phase : Phase} (found : traffic.phase id = some phase)
    (ran : traffic.run (.check id :: events) = some last) :
    last.IsDiscarded id ↔ traffic.session.generation ≠ phase.ticket := by
  obtain ⟨checked, taken, rest⟩ := exists_of_run_cons ran
  cases taken with
  | accept free waits current =>
      cases waits.symm.trans found
      obtain ⟨phase, reached, accepted⟩ := run_keeps_phase (·.isAccepted = true) Phase.Onward.isAccepted
        rest ⟨_, phase_advance_self .., rfl⟩
      refine iff_of_false ?_ (absurd current)
      rintro ⟨ticket, discarded⟩
      cases reached.symm.trans discarded
      cases accepted
  | discard free waits stale =>
      cases waits.symm.trans found
      exact ⟨fun _ => stale, fun _ => ⟨_, returned_of_run rest (phase_advance_self ..)⟩⟩

theorem countP_isStart_eq_zero_iff :
    events.countP Event.isStart = 0 ↔ ∀ other sql, Event.start other sql ∉ events := by
  rw [List.countP_eq_zero]
  constructor
  · intro none other sql member
    exact none _ member rfl
  · intro none event member isStart
    cases event with
    | start other sql => exact none other sql member
    | resolve | check | publish => cases isStart

/-- Between its start and its check the counter goes on exactly if another submission starts. -/
theorem isDiscarded_iff_of_run {sql : String} {between after : List Event}
    (ran : traffic.run (.start id sql :: (between ++ .check id :: after)) = some last) :
    last.IsDiscarded id ↔ ∃ other later, other ≠ id ∧ .start other later ∈ between := by
  rw [← List.cons_append] at ran
  obtain ⟨checked, toCheck, fromCheck⟩ := exists_of_run_append ran
  obtain ⟨phase, found, counter⟩ := ticket_of_run_start toCheck
  have onward : last.IsDiscarded id ↔ between.countP Event.isStart ≠ 0 := by
    rw [isDiscarded_of_run_check found fromCheck, counter]
    omega
  rw [onward, Ne, countP_isStart_eq_zero_iff]
  simp only [Classical.not_forall, Classical.not_not]
  constructor
  · rintro ⟨other, later, member⟩
    refine ⟨other, later, ?_, member⟩
    rintro rfl
    obtain ⟨started, taken, rest⟩ := exists_of_run_cons toCheck
    cases taken with
    | start fresh => exact not_mem_start_of_run rest (phase_advance_self ..) later member
  · rintro ⟨other, later, _, member⟩
    exact ⟨other, later, member⟩

/-- A submission that none starts after keeps the ticket that the counter stands at. -/
theorem Coherent.not_isDiscarded_of_run {sql : String} (coherent : last.Coherent)
    (ran : traffic.run (.start id sql :: events) = some last)
    (unfollowed : ∀ other later, Event.start other later ∉ events) : ¬ last.IsDiscarded id := by
  rintro ⟨ticket, discarded⟩
  obtain ⟨phase, found, counter⟩ := ticket_of_run_start ran
  have stale := coherent.stale discarded
  cases found.symm.trans discarded
  rw [counter, countP_isStart_eq_zero_iff.mpr unfollowed] at stale
  exact Nat.lt_irrefl _ stale

/-- What is published later has the larger ticket. -/
theorem Coherent.ticket_lt_of_run {first second : Nat} {between after : List Event}
    (coherent : traffic.Coherent)
    (ran : traffic.run (.publish first :: (between ++ .publish second :: after)) = some last) :
    ∃ ticket outcome later result, last.phase first = some (.returned ticket (some outcome)) ∧
      last.phase second = some (.returned later (some result)) ∧ ticket < later := by
  obtain ⟨published, takenFirst, rest⟩ := exists_of_run_cons ran
  obtain ⟨held, toSecond, fromSecond⟩ := exists_of_run_append rest
  obtain ⟨publishedAgain, takenSecond, toEnd⟩ := exists_of_run_cons fromSecond
  have coherentHeld : held.Coherent :=
    run_keeps Coherent (fun taken coherent => coherent.of_steps taken) toSecond
      (coherent.of_steps takenFirst)
  cases takenFirst with
  | publish holdsFirst =>
      cases takenSecond with
      | publish holdsSecond =>
          -- The first one has ended when the second one is accepted.
          have ended := returned_of_run toSecond (phase_advance_self ..)
          exact ⟨_, _, _, _, returned_of_run rest (phase_advance_self ..),
            returned_of_run toEnd (phase_advance_self ..), coherentHeld.later holdsSecond ended⟩

/-- Only the publication of an outcome with a graph changes what a session shows. -/
theorem latest_of_steps (taken : traffic.Steps event next)
    (changed : next.session.latest ≠ traffic.session.latest) :
    ∃ id ticket outcome graph, event = .publish id ∧
      traffic.phase id = some (.accepted ticket outcome) ∧ outcome.graph = some graph ∧
        next.session.latest = some graph := by
  cases taken with
  | start cause | resolve cause => exact absurd rfl changed
  | accept free waits current => exact absurd rfl changed
  | discard free waits stale => exact absurd rfl changed
  | @publish id ticket outcome holds =>
      cases drawn : outcome.graph with
      | none => simp [FlowSession.publish, drawn] at changed
      | some graph =>
          exact ⟨id, ticket, outcome, graph, rfl, holds, drawn, by simp [FlowSession.publish, drawn]⟩

/-- What holds of any steps of submissions to a new session and of where they lead: the last request wins,
whichever submissions fail and in whatever order the answers come. -/
structure LastRequestWins (events : List Event) (traffic : Traffic) : Prop where
  /-- The counter is the number of submissions: with fewer than `2 ^ 64` of them, one of 64 bits does. -/
  counted : traffic.session.generation = events.countP Event.isStart
  /-- A submission is discarded exactly if another started between its start and its check. -/
  discarded : ∀ before id sql between after,
    events = before ++ .start id sql :: (between ++ .check id :: after) →
      (traffic.IsDiscarded id ↔ ∃ other later, other ≠ id ∧ .start other later ∈ between)
  /-- The submission that started last is not discarded. -/
  last : ∀ before id sql after, events = before ++ .start id sql :: after →
    (∀ other later, Event.start other later ∉ after) → ¬ traffic.IsDiscarded id
  /-- Of two submissions that are published, and keep their graphs if they have any, the one published
  later has the larger ticket. -/
  stored : ∀ before first between second after,
    events = before ++ .publish first :: (between ++ .publish second :: after) →
      ∃ ticket outcome later result, traffic.phase first = some (.returned ticket (some outcome)) ∧
        traffic.phase second = some (.returned later (some result)) ∧ ticket < later
  /-- The session shows the newest graph, whether the lock is free or not. -/
  shows : traffic.ShowsNewest
  /-- Nothing but the publication of an outcome with a graph changes what the session shows. -/
  kept : ∀ event next, traffic.step event = some next → next.session.latest ≠ traffic.session.latest →
    ∃ id ticket outcome graph, event = .publish id ∧
      traffic.phase id = some (.accepted ticket outcome) ∧ outcome.graph = some graph ∧
        next.session.latest = some graph

theorem lastRequestWins {resolver : Resolver} {layout : FlowLayout}
    (ran : run { session := { resolver, layout } } events = some traffic) :
    LastRequestWins events traffic where
  counted := by
    rw [generation_of_run ran]
    exact Nat.zero_add _
  discarded := by
    rintro before id sql between after rfl
    obtain ⟨first, _, fromStart⟩ := exists_of_run_append ran
    exact isDiscarded_iff_of_run fromStart
  last := by
    rintro before id sql after rfl unfollowed
    obtain ⟨first, _, fromStart⟩ := exists_of_run_append ran
    exact (coherent_of_run ran).not_isDiscarded_of_run fromStart unfollowed
  stored := by
    rintro before first between second after rfl
    obtain ⟨held, toFirst, fromFirst⟩ := exists_of_run_append ran
    exact (coherent_of_run toFirst).ticket_lt_of_run fromFirst
  shows := (coherent_of_run ran).shows
  kept event next taken changed := latest_of_steps (steps_of_step taken) changed

/-- Of two submissions that overlap the first is discarded, though its answer comes before the other. -/
theorem lastRequestWins_overlapping :
    ∃ traffic, run { session := { resolver := { dialect := .generic }, layout := {} } }
        [.start 0 "SELECT * FROM a", .start 1 "SELECT * FROM b", .resolve 0 .unanswered, .check 0,
          .resolve 1 .unanswered, .check 1, .publish 1] = some traffic ∧
      LastRequestWins
        [.start 0 "SELECT * FROM a", .start 1 "SELECT * FROM b", .resolve 0 .unanswered, .check 0,
          .resolve 1 .unanswered, .check 1, .publish 1] traffic ∧
      traffic.IsDiscarded 0 :=
  ⟨_, rfl, lastRequestWins rfl, _, rfl⟩

end Traffic

end SqlLineage.Session

import Mathlib.Algebra.Ring.Nat
import OutboxRelay.Proofs.Site
import OutboxRelay.UnitOfWork

/-!
# The steps of a unit of work

What a commit does between opening its session and closing it, as one list of steps: the writes of
the tracked entities in the order of tracking, then the handlers of their events in the order of
dispatch. The nested loops of persistence and dispatch perform exactly this list, front to back.

A step that stages adds rows and messages to its session and leaves the committed state alone. A run
of such steps records what each of them contributed. Performing a list of staging steps either runs
all of it, or runs a front part and stops at a step that fails.
-/

namespace OutboxRelay

open Outbox (InSession Message Session StagedRow)
open Rehearsal (Site)

namespace UnitOfWork

variable {ε κ σ S : Type} [EventFamily κ]

/-- The sum of counts of rows, as a machine word: where it does not fit a word it wraps around. -/
def sumOfCounts (counts : List UInt64) : UInt64 :=
  .ofNat (counts.map (·.toNat)).sum

@[simp] theorem sumOfCounts_nil : sumOfCounts [] = 0 := rfl

/-- Counting on from a sum is summing up everything, also where the sum wraps around. -/
theorem sumOfCounts_append (first second : List UInt64) :
    sumOfCounts (first ++ second) = sumOfCounts first + sumOfCounts second := by
  rw [sumOfCounts, List.map_append, List.sum_append, UInt64.ofNat_add]
  rfl

@[simp] theorem sumOfCounts_cons (count : UInt64) (counts : List UInt64) :
    sumOfCounts (count :: counts) = count + sumOfCounts counts := by
  rw [sumOfCounts, List.map_cons, List.sum_cons, UInt64.ofNat_add, UInt64.ofNat_toNat]
  rfl

/-- A sum that fits a word is the sum of the plain numbers, so that nothing wraps around for any
number of rows that a database could hold. -/
theorem toNat_sumOfCounts {counts : List UInt64}
    (fits : (counts.map (·.toNat)).sum < UInt64.size) :
    (sumOfCounts counts).toNat = (counts.map (·.toNat)).sum :=
  UInt64.toNat_ofNat_of_lt' fits

/-- The greatest word and one more row: the sum does not fit and wraps around to nothing. -/
example : sumOfCounts [18446744073709551615, 1] = 0 := by decide

/-- Perform steps in order and add up what they report. A step that fails ends it, and the steps
behind it are never performed. -/
def total : List (InSession σ S UInt64) → InSession σ S UInt64
  | [] => return 0
  | step :: rest => do
    let rows ← step
    let others ← total rest
    return rows + others

/-- The writes of entities, in the order of tracking. They are listed before any of them is
performed, since none depends on what another one does. -/
def writes (work : UnitOfWork ε κ σ S) (entities : List (Tracked ε)) :
    List (InSession σ S UInt64) :=
  entities.map fun tracked => work.model.persist tracked.change tracked.entity

/-- The events that tracked entities have pending: root behind root in the order of tracking, and
the events of one root in the order in which they were raised. An entity that is no root has
none. -/
def pendingEvents (model : EntityModel ε κ σ S) (tracked : List (Tracked ε)) :
    List (DomainEvent κ) :=
  (tracked.filterMap fun one => model.pending? one.entity).flatten

/-- What is taken off tracked entities, one after the other, is what they have pending. So what a
commit hands on can be said without naming the function that takes events off. -/
theorem flatMap_harvested (work : UnitOfWork ε κ σ S) (tracked : List (Tracked ε)) :
    tracked.flatMap work.harvested = pendingEvents work.model tracked := by
  induction tracked with
  | nil => rfl
  | cons one rest inductionHypothesis =>
    rw [List.flatMap_cons, inductionHypothesis, harvested, pendingEvents, pendingEvents,
      List.filterMap_cons]
    cases work.model.pending? one.entity <;> rfl

/-- The calls of handlers that events lead to, in the order of dispatch. A call reports no rows, so
that the sum of all steps is that of the writes. -/
def invocations (dispatcher : Dispatcher κ σ S) (events : List (DomainEvent κ)) :
    List (InSession σ S UInt64) :=
  events.flatMap fun event =>
    (dispatcher.handlers event.kind).map fun handle => do
      handle event.fact
      return 0

/-- Steps that have two parts are the first part and then, if it succeeds, the second. -/
theorem total_append (first second : List (InSession σ S UInt64)) :
    total (first ++ second) = do
      let rows ← total first
      let others ← total second
      return rows + others := by
  induction first with
  | nil => simp only [List.nil_append, total, pure_bind, UInt64.zero_add, bind_pure]
  | cons step rest inductionHypothesis =>
    simp only [List.cons_append, total, inductionHypothesis, bind_assoc, pure_bind,
      UInt64.add_assoc]

/-- Writing entities one after the other is performing their writes as steps. The loop of the unit
of work carries a sum along, and words can be added up in any grouping. -/
theorem persistAll_eq_total (work : UnitOfWork ε κ σ S) (entities : List (Tracked ε)) :
    work.persistAll entities = total (work.writes entities) := by
  induction entities with
  | nil => rfl
  | cons tracked rest inductionHypothesis =>
    simp only [persistAll, inductionHypothesis, writes, List.map_cons, total]

/-- The handlers of one event, called in the order of registration. -/
theorem total_handlers {kind : κ} (handlers : List (Handler σ S kind))
    (fact : EventFamily.Fact kind) :
    total (handlers.map fun handle => do
        handle fact
        return 0) = do
      handlers.forM fun handle => handle fact
      return 0 := by
  induction handlers with
  | nil => simp only [List.map_nil, total, List.forM_eq_forM, List.forM_nil, pure_bind]
  | cons handle rest inductionHypothesis =>
    simp only [List.map_cons, total, inductionHypothesis, bind_assoc, pure_bind, UInt64.add_zero,
      List.forM_eq_forM, List.forM_cons]

/-- Dispatch is the calls of handlers as steps: the two nested loops go through one list. -/
theorem total_invocations (dispatcher : Dispatcher κ σ S) (events : List (DomainEvent κ)) :
    total (invocations dispatcher events) = do
      dispatcher.dispatch events
      return 0 := by
  induction events with
  | nil => simp [invocations, total, Dispatcher.dispatch]
  | cons event rest inductionHypothesis =>
    have headed : invocations dispatcher (event :: rest) =
        ((dispatcher.handlers event.kind).map fun handle => do
          handle event.fact
          return 0) ++ invocations dispatcher rest := rfl
    rw [headed, total_append, total_handlers, inductionHypothesis]
    simp only [bind_assoc, pure_bind, UInt64.add_zero, Dispatcher.dispatch, Dispatcher.dispatchOne,
      List.forM_eq_forM, List.forM_cons]

/-- Staging is the writes and then the calls of handlers. From here on a commit is one list of
steps, and what is proved of such lists is proved of commits. -/
theorem stage_eq_total (work : UnitOfWork ε κ σ S) (entities : List (Tracked ε))
    (events : List (DomainEvent κ)) :
    work.stage entities events =
      total (work.writes entities ++ invocations work.dispatcher events) := by
  rw [total_append, total_invocations, ← persistAll_eq_total]
  simp only [stage, bind_assoc, pure_bind, UInt64.add_zero]

/-! ### A session of its own

A computation in a session of its own is not begun, or fails and leaves the committed state as the
computation left it, or is closed by a commit, whose outcome is then its own. -/

section InSession

variable {α : Type}

/-- A session that is not begun is not worked in, and the failure to begin it is the answer. -/
theorem perform_inSession_refused {store : Outbox.Store σ S} {body : InSession σ S α}
    {world begun : World σ} {error : Outbox.Error}
    (refused : store.begin.perform world = (.error error, begun)) :
    (inSession store body).perform world = (.error error, begun) :=
  Effect.perform_bind_error refused _

/-- A session in which the work succeeds is committed, and how the commit ends is how the whole
ends. -/
theorem perform_inSession_ok {store : Outbox.Store σ S} {body : InSession σ S α}
    {world begun reached : World σ} {session left : S} {value : α}
    (opened : store.begin.perform world = (.ok session, begun))
    (succeeded : body.perform (begun, session) = (.ok value, reached, left)) :
    (inSession store body).perform world =
      (((store.commit left).perform reached).1.map fun _ => value,
        ((store.commit left).perform reached).2) := by
  have resumed : (inSession store body).perform world =
      (store.commit left >>= fun _ => pure value).perform reached := by
    rw [inSession, Effect.perform_bind_ok opened, Effect.perform_bind, Effect.perform_ofState]
    simp only [StateT.run, succeeded]
  rw [resumed, Effect.perform_bind_pure]

/-- A session in which the work fails is abandoned. The failure of the work is the answer unless the
store fails to abandon the session. -/
theorem perform_inSession_error {store : Outbox.Store σ S} {body : InSession σ S α}
    {world begun reached : World σ} {session left : S} {error : Outbox.Error}
    (opened : store.begin.perform world = (.ok session, begun))
    (failed : body.perform (begun, session) = (.error error, reached, left)) :
    (inSession store body).perform world =
      (store.abandon left >>= fun _ => throw error).perform reached := by
  rw [inSession, Effect.perform_bind_ok opened, Effect.perform_bind, Effect.perform_ofState]
  simp only [StateT.run, failed]

variable {body : InSession Site Session α} {world : World Site}

/-- A planned fault keeps a session from being opened. -/
theorem perform_inSession_unopened (planned : world.state.faults .begin ≠ 0) :
    (inSession Site.store body).perform world =
      (.error (Site.injected .begin), Site.struck .begin world) := by
  apply perform_inSession_refused
  rw [Site.perform_begin, if_neg planned]

/-- What a computation that fails staged is discarded. -/
theorem perform_inSession_failed {reached : World Site} {session : Session} {error : Outbox.Error}
    (ready : world.state.faults .begin = 0)
    (failed : body.perform (world, {}) = (.error error, reached, session)) :
    (inSession Site.store body).perform world = (.error error, reached) :=
  perform_inSession_error (Site.perform_begin_ready ready) failed

/-- What a computation that succeeds staged is committed. -/
theorem perform_inSession_closed {reached : World Site} {session : Session} {value : α}
    (ready : world.state.faults .begin = 0)
    (succeeded : body.perform (world, {}) = (.ok value, reached, session)) :
    (inSession Site.store body).perform world =
      ((reached.state.memory.commit session).1.map fun _ => value,
        Site.withMemory (reached.state.memory.commit session).2 reached) := by
  rw [perform_inSession_ok (Site.perform_begin_ready ready) succeeded, Site.perform_commit]

end InSession

/-! ### Runs of staging steps -/

/-- What one step adds to a unit of work: the rows that it reports, and what it stages. The number
of rows is what the step says, and need not be the number of rows that it stages. -/
structure Contribution where
  count : UInt64
  rows : List StagedRow
  messages : List Message

/-- A session with a contribution behind what it held. -/
def staged (contribution : Contribution) (session : Session) : Session :=
  ⟨session.rows ++ contribution.rows, session.outbox ++ contribution.messages⟩

/-- A computation that reaches the store through its session alone: whatever its outcome, it leaves
the committed state as it is and only puts rows and added messages behind what the session held. It
may draw identifiers, read the clock, write to the log, use up planned faults and look at all of
these. -/
def StagesOnly {α : Type} (body : InSession Site Session α) : Prop :=
  ∀ world session,
    (body.perform (world, session)).2.1.state.memory = world.state.memory ∧
      ∃ (rows : List StagedRow) (messages : List Message), (body.perform (world, session)).2.2 =
        ⟨session.rows ++ rows, session.outbox ++ messages.map (·.asAdded)⟩

/-- A computation that leaves everything as it is stages nothing. -/
theorem stagesOnly_of_still {α : Type} {body : InSession Site Session α}
    (still : Effect.Respects Eq body) : StagesOnly body := by
  intro world session
  rw [← still (world, session)]
  exact ⟨rfl, [], [], by simp⟩

theorem stagesOnly_pure {α : Type} (value : α) : StagesOnly (pure value) :=
  stagesOnly_of_still fun _ => rfl

theorem stagesOnly_throw {α : Type} (error : Outbox.Error) :
    StagesOnly (throw error : InSession Site Session α) :=
  stagesOnly_of_still fun _ => rfl

/-- A sequence stages what its parts stage, one behind the other. If the first part fails, then
nothing of the second is staged. -/
theorem StagesOnly.bind {α β : Type} {first : InSession Site Session α}
    {next : α → InSession Site Session β} (begun : StagesOnly first)
    (continued : ∀ value, StagesOnly (next value)) : StagesOnly (first >>= next) := by
  intro world session
  obtain ⟨untouched, rows, messages, extended⟩ := begun world session
  rcases performed : first.perform (world, session) with ⟨error | value, reached, left⟩
  · rw [performed] at untouched extended
    rw [Effect.perform_bind_error performed]
    exact ⟨untouched, rows, messages, extended⟩
  · rw [performed] at untouched extended
    subst extended
    obtain ⟨later, moreRows, moreMessages, further⟩ := continued value reached
      ⟨session.rows ++ rows, session.outbox ++ messages.map (·.asAdded)⟩
    rw [Effect.perform_bind_ok performed]
    refine ⟨later.trans untouched, rows ++ moreRows, messages ++ moreMessages, ?_⟩
    rw [further]
    simp only [List.append_assoc, List.map_append]

/-- What happens outside the session stages nothing, as long as it leaves the committed state. -/
theorem stagesOnly_outside {α : Type} {effect : Effect (World Site) Outbox.Error α}
    (untouched : ∀ world, (effect.perform world).2.state.memory = world.state.memory) :
    StagesOnly (World.outside effect : InSession Site Session α) := by
  intro world session
  exact ⟨untouched world, [], [], by simp⟩

/-- Adding a message stages it, unless a planned fault strikes. -/
theorem stagesOnly_add (message : Message) : StagesOnly (Site.store.add message) := by
  intro world session
  rw [Site.perform_add]
  by_cases ready : world.state.faults .add = 0
  · rw [if_pos ready]
    exact ⟨rfl, [], [message], by simp [Session.add]⟩
  · rw [if_neg ready]
    exact ⟨rfl, [], [], by simp⟩

/-- Steps that succeed one after the other, each from where its predecessor ended, together with
what each of them contributes. The contributions stand in the order of the steps. -/
inductive Runs : List (InSession Site Session UInt64) → World Site × Session →
    List Contribution → World Site × Session → Prop where
  | done (state : World Site × Session) : Runs [] state [] state
  | step {step : InSession Site Session UInt64} {rest : List (InSession Site Session UInt64)}
      {world reached : World Site} {session : Session} {contribution : Contribution}
      {contributions : List Contribution} {after : World Site × Session}
      (performed : step.perform (world, session) =
        (.ok contribution.count, reached, staged contribution session))
      (untouched : reached.state.memory = world.state.memory)
      (continued : Runs rest (reached, staged contribution session) contributions after) :
      Runs (step :: rest) (world, session) (contribution :: contributions) after

/-- Steps that stop with an error: a front part of them runs, and the step behind it fails. What is
behind that step was not performed. -/
def StopsWith (steps : List (InSession Site Session UInt64)) (state : World Site × Session)
    (error : Outbox.Error) : Prop :=
  ∃ front failing rest contributions reached left,
    steps = front ++ failing :: rest ∧ Runs front state contributions reached ∧
      failing.perform reached = (.error error, left)

/-- A run leaves the committed state as it is, since every step of it does. -/
theorem Runs.memory_eq {steps : List (InSession Site Session UInt64)}
    {before after : World Site × Session} {contributions : List Contribution}
    (run : Runs steps before contributions after) :
    after.1.state.memory = before.1.state.memory := by
  induction run with
  | done state => rfl
  | step performed untouched continued inductionHypothesis =>
    exact inductionHypothesis.trans untouched

/-- A run puts its contributions into the session, in the order of its steps, behind what the
session held before. -/
theorem Runs.session_eq {steps : List (InSession Site Session UInt64)}
    {before after : World Site × Session} {contributions : List Contribution}
    (run : Runs steps before contributions after) :
    after.2 = ⟨before.2.rows ++ contributions.flatMap (·.rows),
      before.2.outbox ++ contributions.flatMap (·.messages)⟩ := by
  induction run with
  | done state => simp
  | step performed untouched continued inductionHypothesis =>
    simp only [inductionHypothesis, staged, List.flatMap_cons, List.append_assoc]

/-- A run of a list that has two parts is a run of the first part, then one of the second. In this
way the contributions of writes and of handlers are told apart. -/
theorem Runs.split {first second : List (InSession Site Session UInt64)}
    {before after : World Site × Session} {contributions : List Contribution}
    (run : Runs (first ++ second) before contributions after) :
    ∃ early late middle, contributions = early ++ late ∧ Runs first before early middle ∧
      Runs second middle late after := by
  induction first generalizing before contributions with
  | nil => exact ⟨[], contributions, before, rfl, .done before, run⟩
  | cons step rest inductionHypothesis =>
    rw [List.cons_append] at run
    cases run with
    | step performed untouched continued =>
      obtain ⟨early, late, middle, rfl, earlier, later⟩ := inductionHypothesis continued
      exact ⟨_ :: early, late, middle, rfl, .step performed untouched earlier, later⟩

/-- Calls of handlers report no rows. -/
theorem Runs.sum_count_invocations {dispatcher : Dispatcher κ Site Session}
    {events : List (DomainEvent κ)} {before after : World Site × Session}
    {contributions : List Contribution}
    (run : Runs (invocations dispatcher events) before contributions after) :
    sumOfCounts (contributions.map (·.count)) = 0 := by
  have silent : ∀ step ∈ invocations dispatcher events,
      ∃ body : InSession Site Session Unit, step = do body; return 0 := by
    intro step member
    obtain ⟨event, -, called⟩ := List.mem_flatMap.mp member
    obtain ⟨handle, -, rfl⟩ := List.mem_map.mp called
    exact ⟨handle event.fact, rfl⟩
  generalize invocations dispatcher events = steps at run silent
  induction run with
  | done state => rfl
  | @step step rest world reached session contribution contributions after performed untouched
      continued inductionHypothesis =>
    obtain ⟨body, rfl⟩ := silent step List.mem_cons_self
    have none : contribution.count = 0 := by
      rcases called : body.perform (world, session) with ⟨error | _, left⟩
      · rw [Effect.perform_bind_error called] at performed
        cases performed
      · rw [Effect.perform_bind_ok called] at performed
        injection performed with reported
        injection reported with count
        exact count.symm
    rw [List.map_cons, sumOfCounts_cons, none, UInt64.zero_add]
    exact inductionHypothesis fun later member => silent later (List.mem_cons_of_mem _ member)

/-- A step that stages and succeeds has a contribution: what it reports, and what it put into its
session. -/
theorem StagesOnly.contribution {step : InSession Site Session UInt64} (stages : StagesOnly step)
    {world reached : World Site} {session left : Session} {count : UInt64}
    (performed : step.perform (world, session) = (.ok count, reached, left)) :
    reached.state.memory = world.state.memory ∧
      ∃ contribution : Contribution, contribution.count = count ∧
        left = staged contribution session := by
  obtain ⟨untouched, rows, messages, extended⟩ := stages world session
  rw [performed] at untouched extended
  exact ⟨untouched, ⟨count, rows, messages.map Message.asAdded⟩, rfl, extended⟩

/-- Performing staging steps either runs all of them and adds up what they report, or stops at the
first one that fails, with its error. Either way the committed state stays as it is.

The induction is on the list of steps: the first step either fails, and the run in front of it is
empty, or contributes, and what the hypothesis says of the rest is put behind it. -/
theorem total_cases (steps : List (InSession Site Session UInt64))
    (staging : ∀ step ∈ steps, StagesOnly step) (state : World Site × Session) :
    (∃ contributions reached, Runs steps state contributions reached ∧
      (total steps).perform state = (.ok (sumOfCounts (contributions.map (·.count))), reached)) ∨
    (∃ error left, StopsWith steps state error ∧
      left.1.state.memory = state.1.state.memory ∧
      (total steps).perform state = (.error error, left)) := by
  induction steps generalizing state with
  | nil => exact Or.inl ⟨[], state, .done state, rfl⟩
  | cons step rest inductionHypothesis =>
    obtain ⟨world, session⟩ := state
    have stages : StagesOnly step := staging step List.mem_cons_self
    rcases performed : step.perform (world, session) with ⟨error | count, reached, left⟩
    · have untouched := (stages world session).1
      rw [performed] at untouched
      refine Or.inr ⟨error, (reached, left), ?_, untouched, Effect.perform_bind_error performed _⟩
      exact ⟨[], step, rest, [], (world, session), (reached, left), rfl, .done _, performed⟩
    · obtain ⟨untouched, contribution, rfl, rfl⟩ := stages.contribution performed
      have resumed : (total (step :: rest)).perform (world, session) =
          (do
            let others ← total rest
            return contribution.count + others).perform (reached, staged contribution session) :=
        Effect.perform_bind_ok performed _
      rcases inductionHypothesis (fun later member => staging later (List.mem_cons_of_mem _ member))
          (reached, staged contribution session) with
        ⟨contributions, final, run, totalled⟩ | ⟨error, final, stops, kept, totalled⟩
      · refine Or.inl ⟨contribution :: contributions, final, .step performed untouched run, ?_⟩
        rw [resumed, Effect.perform_bind_ok totalled]
        simp
      · obtain ⟨front, failing, others, contributions, before, after, rfl, run, failed⟩ := stops
        refine Or.inr ⟨error, final, ?_, kept.trans untouched, ?_⟩
        · exact ⟨step :: front, failing, others, contribution :: contributions, before, after, rfl,
            .step performed untouched run, failed⟩
        · rw [resumed, Effect.perform_bind_error totalled]

end UnitOfWork

end OutboxRelay

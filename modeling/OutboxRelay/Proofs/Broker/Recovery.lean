import OutboxRelay.Proofs.Broker.Progress
import OutboxRelay.Proofs.Broker.Retirement
import OutboxRelay.Proofs.Broker.Truthfulness

/-!
# Recovery from failures

Whatever failed before, a shared connection stays of use. A channel that failed a publish call is
never given to anybody who calls later, the two locks never block all callers at once, and a caller
that finds nobody else under way is through after a bounded number of moves: it returns without a
failure, after one message was sent for it, unless one of its own calls to the broker fails.
-/

namespace OutboxRelay.Broker

variable {ρ : Type}

/-- A caller that wants an event published and returns returns without a failure, after exactly one
message was sent for it, unless one of its calls to the broker failed. There is no other source of
failures. -/
theorem Course.unfailed {caller : CallerId} {eventType : String} {payload : ρ}
    {said : List (Signal ρ)} {result : Except Error ChannelId}
    (course : Course caller (.publish eventType payload) (.finished result) said)
    (unfailing : ∀ error, .ended caller (some error) ∉ said) :
    ∃ channel, result = .ok channel ∧ (said.filterMap (·.call?)).filter (!·.reconnects) =
      [.publish channel (.forEvent eventType) payload] := by
  cases course with
  | silent silent => cases silent
  | served asked => cases asked
  | @accepted channel front _ _ asked approach =>
    cases asked
    refine ⟨channel, rfl, ?_⟩
    cases approach <;> simp [Signal.call?, Call.reconnects]
  | @unconnected error | @undeclared channel error | @refused channel front _ _ error =>
    exact absurd (by simp) (unfailing error)

/-- The end of a call passes when the broker ends it. -/
theorem Step.ended_mem_signals {step : Step ρ} {caller : CallerId} {failure : Option Error}
    (ended : .ended caller failure ∈ step.signals) :
    ∃ bornOpen, step.move = .reply caller failure bornOpen := by
  unfold signals at ended
  split at ended
  · simp at ended
  · simp at ended
  · next moves =>
    simp only [List.mem_cons, List.mem_map, reduceCtorEq, and_false, exists_false, or_false,
      Signal.ended.injEq] at ended
    obtain ⟨rfl, rfl⟩ := ended
    exact ⟨_, moves⟩
  · cases ended

namespace Guarded

/-- No caller is between its call and its return. Earlier callers may have failed in any way. -/
def AtRest (guarded : Guarded ρ) : Prop :=
  ∀ caller, (guarded.connection.stages caller).underway = false

/-- What becomes of a caller that wants an event published, by the moves since its call, none of
which ends a call of its own with a failure. -/
structure Recovers (caller : CallerId) (eventType : String) (payload : ρ) (start : Guarded ρ)
    (moves : List (Move ρ)) (final : Guarded ρ) : Prop where
  /-- It returns without a failure, after exactly one message was sent for it. -/
  succeeds : ∀ result, final.connection.result? caller = some result →
    ∃ channel, result = .ok channel ∧
      ((conversation caller (traffic (Connection.steps start.connection (acts moves)))).filterMap
        (·.call?)).filter (!·.reconnects) = [.publish channel (.forEvent eventType) payload]
  /-- It makes a bounded number of moves. -/
  bounded : moves.countP (·.caller? = some caller) ≤ 35
  /-- If no other caller moves, it is never stuck on the way there. -/
  returns : (∀ move ∈ moves, move.caller? = some caller ∨ move.caller? = none) →
    ∃ rest ended, (∀ move ∈ rest, move.caller? = some caller ∧ move.failsFor caller = false) ∧
      run? final rest = some ended ∧ ∃ channel, ended.connection.result? caller = some (.ok channel)

variable {start final : Guarded ρ} {moves : List (Move ρ)} {caller : CallerId}
  {done : List (Step ρ)}

/-- A caller that has not called can, and is then about to look at the cached channel. -/
theorem calls_of_idle (idle : start.connection.stages caller = .idle)
    (request : Request ρ) :
    ∃ after, start.next? (.act (.call caller request)) = some after ∧
      after.connection.stages caller = .looking ∧ after.connection.requests caller = request := by
  have accesses : start.access? caller = none := by
    rw [Guarded.access?, idle]
    rfl
  simp [next?, bars, Broker.Move.caller?, accesses, Connection.next?, idle]

/-- A caller that is about to look at the cached channel and wants an event published returns
without a failure, after exactly one message was sent for it, unless one of its calls to the broker
fails. Its conversation before the run is empty, so that what it says in the run is all it said. -/
theorem unfailed_of_run? (conversed : Connection.Conversed done start.connection)
    (looking : start.connection.stages caller = .looking) {eventType : String} {payload : ρ}
    (wants : start.connection.requests caller = .publish eventType payload)
    (unfailing : ∀ move ∈ moves, move.failsFor caller = false)
    (run : run? start moves = some final) {result : Except Error ChannelId}
    (returned : final.connection.stages caller = .finished result) :
    ∃ channel, result = .ok channel ∧
      ((conversation caller (traffic (Connection.steps start.connection (acts moves)))).filterMap
        (·.call?)).filter (!·.reconnects) = [.publish channel (.forEvent eventType) payload] := by
  generalize passed : Connection.steps start.connection (acts moves) = steps
  have leads := Connection.leads_of_run? (run?_acts run)
  have made := Connection.map_move_steps (run?_acts run)
  rw [passed] at leads made
  have silent : conversation caller (traffic done) = [] :=
    (conversed.course caller).eq_nil (by rw [looking]; rfl)
  have ended : Connection.Conversed (done ++ steps) final.connection :=
    leads.accumulate (fun transition conversed => conversed.step transition) conversed
  have course := ended.course caller
  rw [traffic_append, conversation_append, silent, List.nil_append, returned] at course
  have asked : final.connection.requests caller = .publish eventType payload := by
    have before := (conversed.asked.request caller (.publish eventType payload)).mpr
      ⟨by simp [looking], wants⟩
    refine ((ended.asked.request caller _).mp ?_).2
    rw [List.map_append, requested, List.filterMap_append]
    exact List.mem_append_left _ before
  rw [asked] at course
  refine course.unfailed fun error among => ?_
  obtain ⟨step, within, signals⟩ := List.mem_flatMap.mp (List.mem_filter.mp among).1
  obtain ⟨bornOpen, moved⟩ := step.ended_mem_signals signals
  have failing : .act step.move ∈ moves := mem_acts.mp (made ▸ List.mem_map_of_mem within)
  have fails := unfailing _ failing
  rw [moved] at fails
  simp [Move.failsFor] at fails

/-- When everybody has returned, both locks are free. A holder or a caller in a queue would be at a
stage between call and return. -/
theorem Kept.free (kept : Kept final) (atRest : final.AtRest) :
    final.connection.holder = none ∧ final.connection.queue = [] ∧
      final.inside = [] ∧ final.waiting = [] := by
  have free : final.connection.holder = none := by
    cases held : final.connection.holder with
    | none => rfl
    | some holder =>
      have underway := Stage.underway_of_holds ((kept.orderly.holder holder).mpr held)
      rw [atRest holder] at underway
      cases underway
  have unused : final.inside ++ final.waiting = [] := by
    apply List.eq_nil_iff_forall_not_mem.mpr
    intro caller among
    have able := Stage.able_of_access? (kept.accessing caller among)
    have underway := Stage.underway_of_able able
    rw [atRest caller] at underway
    cases underway
  exact ⟨free, kept.orderly.busy free, List.append_eq_nil_iff.mp unused⟩

/-- A caller that begins when everybody else has returned recovers the connection, whatever the
channel in the cache has become. -/
theorem Solitary.recovers (solitary : start.Solitary caller)
    (conversed : Connection.Conversed done start.connection)
    (looking : start.connection.stages caller = .looking) {eventType : String} {payload : ρ}
    (wants : start.connection.requests caller = .publish eventType payload)
    (unfailing : ∀ move ∈ moves, move.failsFor caller = false)
    (run : run? start moves = some final) :
    Recovers caller eventType payload start moves final := by
  constructor
  · intro result returned
    exact unfailed_of_run? conversed looking wants unfailing run
      (Connection.result?_eq_some.mp returned)
  · have bound := countP_add_ahead_le solitary.kept run caller
    have first := start.ahead_le caller
    rw [looking, Stage.ahead] at first
    omega
  · intro own
    obtain ⟨rest, ended, owns, onward, result, returned⟩ := (solitary.run own run).returns
    have whole : run? start (moves ++ rest) = some ended := by
      rw [run?_append, run]
      exact onward
    have unfailingStill : ∀ move ∈ moves ++ rest, move.failsFor caller = false := by
      intro move among
      rcases List.mem_append.mp among with earlier | later
      · exact unfailing move earlier
      · exact (owns move later).2
    obtain ⟨channel, rfl, _⟩ :=
      unfailed_of_run? conversed looking wants unfailingStill whole returned
    exact ⟨rest, ended, owns, onward, channel, Connection.result?_eq_some.mpr returned⟩

/-- What is true of a connection after some moves, and after some more. The first moves may contain
any failures. -/
structure Serviceable (earlier : List (Move ρ)) (middle : Guarded ρ) (later : List (Move ρ))
    (final : Guarded ρ) : Prop where
  /-- Once a caller whose publish call on a channel failed has returned, nobody who calls later
  returns with that channel or publishes on it. -/
  retired : ∀ publisher channel,
    (∃ step ∈ Connection.steps {} (acts earlier), step.Fails publisher ∧
      step.before.stages publisher = .publishing channel) →
    (∃ result, middle.connection.result? publisher = some result) →
    ∀ caller, middle.connection.stages caller = .idle →
      final.connection.result? caller ≠ some (.ok channel) ∧
        ∀ properties body, .made caller (.publish channel properties body) ∉
          traffic (Connection.steps middle.connection (acts later))
  /-- A channel that left the cache never enters it again. -/
  left : ∀ channel,
    (∃ step ∈ Connection.steps {} (acts earlier), step.after.cached = some channel) →
    middle.connection.cached ≠ some channel → final.connection.cached ≠ some channel
  /-- Of the callers in the lock of the cached channel, a writer is alone. -/
  exclusive : ∀ caller ∈ final.inside, final.access? caller = some .write → final.inside = [caller]
  /-- If no call to the broker is in progress, somebody who has not returned can go on. -/
  progress : (∀ caller, (final.connection.stages caller).calling = false) →
    ∀ caller, (final.connection.stages caller).underway = true →
      ∃ other, (final.connection.stages other).underway = true ∧
        ∃ move after, move.caller? = some other ∧ final.next? move = some after
  /-- When everybody has returned, both locks are free. -/
  free : final.AtRest → final.connection.holder = none ∧ final.connection.queue = [] ∧
    final.inside = [] ∧ final.waiting = []
  /-- Then the next caller that wants an event published recovers the connection, unless one of its
  own calls to the broker fails. -/
  recovers : final.AtRest → ∀ caller eventType payload,
    final.connection.stages caller = .idle →
    ∃ start, final.next? (.act (.call caller (.publish eventType payload))) = some start ∧
      ∀ moves ended, (∀ move ∈ moves, move.failsFor caller = false) →
        run? start moves = some ended → Recovers caller eventType payload start moves ended

/-- A channel whose publish call failed is never served again, and the connection stays usable: no
lock deadlocks, and the next caller recovers from whatever failed before.

Proof: after the first moves, a channel that left the cache or whose refused publisher has returned
is retired (`Past`), and a retired channel is spared by all later steps (`Leads.spared`). Locks are
in order throughout (`Kept.step`), which gives exclusion, progress (`Kept.progress`) and, once
everybody has returned, that they are free. A caller that begins then is solitary; it returns within
the moves it has before it (`countP_add_ahead_le`, `Solitary.returns`), and its conversation tells
that it succeeds (`unfailed_of_run?`). -/
theorem stays_serviceable {earlier later : List (Move ρ)} {middle final : Guarded ρ}
    (past : run? {} earlier = some middle) (future : run? middle later = some final) :
    Serviceable earlier middle later final := by
  have keptMiddle : Kept middle := kept_fresh.run past
  have kept : Kept final := keptMiddle.run future
  have leadsPast := Connection.leads_of_run? (run?_acts past)
  have leadsFuture := Connection.leads_of_run? (run?_acts future)
  have known := leadsPast.past
  constructor
  · intro publisher channel refused returned caller idle
    obtain ⟨result, returned⟩ := returned
    have retired : middle.connection.Retired channel := by
      rcases known.refused publisher channel refused with ⟨error, discarding⟩ | ⟨_, retired⟩
      · rw [Connection.result?_eq_some, discarding] at returned
        cases returned
      · exact retired
    have free : (middle.connection.stages caller).offered? ≠ some channel := by
      rw [idle]
      nofun
    have ⟨freeStill, silent⟩ := (leadsFuture.spared retired).2 caller free
    refine ⟨fun gained => freeStill ?_, silent⟩
    rw [Connection.result?_eq_some.mp gained]
    rfl
  · intro channel cached gone
    have retired := (known.left channel cached).resolve_left gone
    exact (leadsFuture.spared retired).1.gone
  · exact kept.exclusive
  · intro quiet caller underway
    obtain ⟨other, itself, move, own, _, after, possible⟩ := kept.progress quiet underway
    exact ⟨other, itself, move, after, own, possible⟩
  · intro atRest
    exact kept.free atRest
  · intro atRest caller eventType payload idle
    obtain ⟨start, called, looking, wants⟩ := calls_of_idle idle (.publish eventType payload)
    refine ⟨start, called, fun moves ended unfailing run => ?_⟩
    have transition := transition_of_next? called
    have solitary : start.Solitary caller :=
      ⟨kept.step transition, transition.alone kept (Or.inl rfl) fun other _ => atRest other,
        by simp [looking]⟩
    have began : run? final [.act (.call caller (.publish eventType payload))] = some start := by
      rw [run?, called]
      rfl
    have leads := (leadsPast.append leadsFuture).append
      (Connection.leads_of_run? (run?_acts began))
    exact solitary.recovers leads.conversed looking wants unfailing run

/-- Two callers want to publish and find no channel. The first one connects, and its event is
refused while the second one, to whom it handed the reconnect lock, looks at the cached channel; so
the first one has to wait before it can drop the channel. -/
def refusedPublisher : List (Move String) :=
  [.act (.call 1 (.publish "placed" "first")), .act (.call 2 (.publish "placed" "second")),
    .ask 1, .ask 2, .act (.proceed 1), .act (.proceed 2), .act (.proceed 1), .act (.proceed 2),
    .ask 1, .act (.proceed 1), .ask 1, .act (.proceed 1), .act (.reply 1 none true),
    .act (.reply 1 none true), .ask 1, .act (.proceed 1), .act (.proceed 1), .ask 2,
    .act (.reply 1 (some (.publish "refused")) true), .ask 1, .act (.proceed 2), .enter 1,
    .act (.proceed 1), .act (.proceed 2), .act (.reply 2 none true)]

/-- A third caller connects again and publishes on a channel of its own. -/
def laterPublisher : List (Move String) :=
  [.act (.call 3 (.publish "placed" "third")), .ask 3, .act (.proceed 3), .act (.proceed 3), .ask 3,
    .act (.proceed 3), .ask 3, .act (.proceed 3), .act (.reply 3 none true),
    .act (.reply 3 none true), .ask 3, .act (.proceed 3), .act (.proceed 3),
    .act (.reply 3 none true)]

theorem stays_serviceable_refusedPublisher :
    ∃ middle final, run? {} refusedPublisher = some middle ∧
      middle.connection.isOpen 1 = true ∧
      run? middle laterPublisher = some final ∧
      final.connection.result? 3 = some (.ok 2) ∧
      Serviceable refusedPublisher middle laterPublisher final :=
  ⟨_, _, rfl, rfl, rfl, rfl, stays_serviceable rfl rfl⟩

end Guarded

end OutboxRelay.Broker

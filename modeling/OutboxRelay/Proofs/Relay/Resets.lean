import OutboxRelay.Proofs.Relay.System

/-!
# Resets during delivery

What is left of a reset that comes while a processor is at work. A processor counts from the copy of
a message that it fetched, and the store keeps the greater of two counts. A reset does not reach
such a copy, so a failure that is recorded from it brings the count of the copy back, and one more.
Where the processor holds no copy, a reset lasts: from then on the count is at most that of the
failures recorded since. A processor holds no copy of a message that is exhausted, and it is these
that a reset is for.

Both parts rest on what a move makes of an outbox and of the messages that a processor holds. A
count only ever comes from a row or from a copy, and is one greater at most. As long as a copy is
held, the row that it was taken from has the same count, or none if it was reset since.
-/

namespace OutboxRelay.Relay

open Delivery (Config nextRetryCount)
open Outbox (Memory Message Pending oldestFirst)
open Rehearsal (Site)

/-- The messages in the outbox. -/
def System.outbox (system : System) : List Message :=
  system.world.state.memory.outbox

/-- Moves that are made while one processor is at work: its own, resets and changes of switches.
Another processor could hold a copy of its own, and its failures would be counted from that one. -/
def Move.isOf (processor : Nat) : Move → Bool
  | .fetch p | .publish p | .record p => p == processor
  | .reset _ | .disturb .. => true
  | .place .. | .cancel .. => false

/-- Whether a move records a failed attempt of a message, and the record goes through. A record that
the store refuses changes no count, and so it is none of the failures that count. -/
def recordsFailure (configs : Nat → Config) (id : Identifier) (system : System) : Move → Bool
  | .record p =>
    match system.stages p with
    | .recording message (.error error) _ =>
      let effect := (Site.processor (configs p)).record message (.error error)
      message.id == id && (effect.perform system.world).1.isOk
    | _ => false
  | _ => false

/-- How many failed attempts of a message moves record, counted along the run from the system in
which it begins. -/
def recordedFailures (configs : Nat → Config) (id : Identifier) : System → List Move → Nat
  | _, [] => 0
  | system, move :: rest =>
    (if recordsFailure configs id system move then 1 else 0) +
      recordedFailures configs id (step configs system move) rest

/-- The retry count that a processor carries of a message: the greatest one among the copies that it
holds of it, and none if it holds no copy. -/
def carried (id : Identifier) (stage : Stage) : Int :=
  ((stage.held.filter (·.id == id)).map (·.retryCount)).foldr max 0

theorem foldr_max_le {counts : List Int} {bound : Int} :
    counts.foldr max 0 ≤ bound ↔ 0 ≤ bound ∧ ∀ count ∈ counts, count ≤ bound := by
  induction counts with
  | nil => simp
  | cons count rest inductionHypothesis =>
    rw [List.foldr_cons, Int.max_le, inductionHypothesis, List.forall_mem_cons]
    exact and_left_comm

/-- What a processor carries is bounded by what bounds its copies. -/
theorem carried_le {id : Identifier} {stage : Stage} {bound : Int} :
    carried id stage ≤ bound ↔
      0 ≤ bound ∧ ∀ copy ∈ stage.held, copy.id = id → copy.retryCount ≤ bound := by
  rw [carried, foldr_max_le, List.forall_mem_map, List.forall_mem_filter]
  simp only [beq_iff_eq]

/-! ### What a move does to messages and their copies -/

/-- What a move makes of an outbox and of the messages that the processor holds. This is all that
later arguments know of a move. The last argument of a record tells whether it is that of a
failure. -/
inductive Deals (config : Config) (failed : Identifier → Bool) :
    List Message → List Pending → List Message → List Pending → Prop where
  /-- Nothing changes. -/
  | rests (outbox : List Message) (held : List Pending) :
    Deals config failed outbox held outbox held
  /-- The processor fetches messages. -/
  | fetched (outbox : List Message) :
      Deals config failed outbox [] outbox
        ((oldestFirst (·.isRetryable config.maxRetries) config.batchSize outbox).map (·.toPending))
  /-- The processor records what became of its first message. -/
  | recorded {outbox after : List Message} (message : Pending) (queue : List Pending)
      (rows : ∀ row ∈ after, row ∈ outbox ∨ ∃ old ∈ outbox, old.id = message.id ∧
        row.id = message.id ∧ (row.retryCount = old.retryCount ∨ failed message.id = true ∧
          row.retryCount = max old.retryCount (nextRetryCount message.retryCount))) :
      Deals config failed outbox (message :: queue) after queue
  /-- A message is reset. -/
  | reset {outbox after : List Message} (held : List Pending)
      (rows : ∀ row ∈ after, row ∈ outbox ∨ ∃ old ∈ outbox, row = old.reset) :
      Deals config failed outbox held after held

section

variable {configs : Nat → Config} {system : System} {p : Nat}

/-- The record of an outcome changes rows of its message alone, and their counts only if it is that
of a failure and goes through. The new count is the greater one of that of the row and of one more
than that of the copy. -/
theorem deals_record (message : Pending) (answer : Except Broker.Error Unit) (queue : List Pending)
    (answered : system.stages p = .recording message answer queue) :
    Deals (configs p) (recordsFailure configs · system (.record p)) system.outbox (message :: queue)
      (step configs system (.record p)).outbox queue := by
  refine .recorded message queue fun row among => ?_
  rw [System.outbox, step_record answered] at among
  dsimp only [System.moveTo] at among
  cases answer with
  | ok =>
    rw [Delivery.perform_record_accepted, Site.perform_markAsProcessed] at among
    split at among
    · rcases Memory.mem_update among with kept | ⟨_, old, here, same, rfl⟩
      · exact Or.inl kept
      · exact Or.inr ⟨old, here, eq_of_beq same, eq_of_beq same, Or.inl rfl⟩
    · exact Or.inl among
  | error error =>
    obtain ⟨text, outcome, recorded⟩ :=
      Delivery.perform_record_rejected (configs p) message error system.world
    have failed : recordsFailure configs message.id system (.record p) =
        (message.id == message.id && (((Site.processor (configs p)).record message
          (.error error)).perform system.world).1.isOk) := by
      simp only [recordsFailure, answered]
    rw [recorded, Site.perform_markAsFailed] at among failed
    split at among
    · next ready =>
      rcases Memory.mem_update among with kept | ⟨accepted, old, here, same, rfl⟩
      · exact Or.inl kept
      · refine Or.inr ⟨old, here, eq_of_beq same, eq_of_beq same, Or.inr ⟨?_, rfl⟩⟩
        rw [failed, if_pos ready, Memory.markAsFailed, accepted, beq_self_eq_true]
        rfl
    · exact Or.inl among

/-- What a move of one processor, a reset or a change of switches does. The cases are the moves; a
move that is not due leaves everything as it is. -/
theorem deals_step (move : Move) (own : move.isOf p = true) :
    Deals (configs p) (recordsFailure configs · system move) system.outbox (system.stages p).held
      (step configs system move).outbox ((step configs system move).stages p).held := by
  cases move with
  | place => cases own
  | cancel => cases own
  | fetch q =>
    obtain rfl : q = p := eq_of_beq own
    rcases step_fetch_cases configs system q with idle | nothing
    · rw [step_fetch idle, System.stages_moveTo, if_pos rfl, idle, Site.perform_getRetryable,
        Memory.getRetryable]
      unfold Memory.poll
      split
      · exact .rests _ _
      · exact .fetched _
    · rw [nothing]
      exact .rests _ _
  | publish q =>
    obtain rfl : q = p := eq_of_beq own
    rcases step_publish_cases configs system q with ⟨message, queue, due⟩ | nothing
    · rw [step_publish due, System.stages_moveTo, if_pos rfl, due]
      exact .rests _ _
    · rw [nothing]
      exact .rests _ _
  | record q =>
    obtain rfl : q = p := eq_of_beq own
    rcases step_record_cases configs system q with ⟨message, answer, queue, answered⟩ | nothing
    · have behind : ((step configs system (.record q)).stages q).held = queue := by
        rw [step_record answered, System.stages_moveTo, if_pos rfl, Stage.held]
      rw [behind, answered]
      exact deals_record message answer queue answered
    · rw [nothing]
      exact .rests _ _
  | reset id =>
    refine .reset _ fun row among => ?_
    rcases Memory.mem_update among with kept | ⟨_, old, here, _, changed⟩
    · exact Or.inl kept
    · exact Or.inr ⟨old, here, changed⟩
  | disturb => exact .rests _ _

end

/-! ### What counts are bounded by -/

section

variable {config : Config} {failed : Identifier → Bool} {id : Identifier} {bound : Int}
  {outbox after : List Message} {held left : List Pending}

/-- A bound on the counts of a message, on that of its row and on those of its copies. Both have to
be bounded, because the next count is made from either of them. -/
structure Within (id : Identifier) (bound : Int) (outbox : List Message) (held : List Pending) :
    Prop where
  nonneg : 0 ≤ bound
  rows : ∀ row ∈ outbox, row.id = id → row.retryCount ≤ bound
  held : ∀ copy ∈ held, copy.id = id → copy.retryCount ≤ bound

/-- A greater number is a bound as well. -/
theorem Within.mono {greater : Int} (within : Within id bound outbox held)
    (less : bound ≤ greater) : Within id greater outbox held :=
  ⟨Int.le_trans within.nonneg less,
    fun row here same => Int.le_trans (within.rows row here same) less,
    fun copy among same => Int.le_trans (within.held copy among same) less⟩

theorem nextRetryCount_le (count : Int) : nextRetryCount count ≤ count + 1 :=
  Int.min_le_left _ _

/-- One more failure that is recorded raises the bound by one, and nothing else raises it: what is
fetched has the count of its row, and what is reset has none. -/
theorem Within.deals (within : Within id bound outbox held)
    (deals : Deals config failed outbox held after left) :
    Within id (bound + if failed id then 1 else 0) after left := by
  have most : bound ≤ bound + if failed id then 1 else 0 := by
    split <;> omega
  cases deals with
  | rests => exact within.mono most
  | fetched =>
    refine ⟨(within.mono most).nonneg, (within.mono most).rows, fun copy among same => ?_⟩
    obtain ⟨row, selected, rfl⟩ := List.mem_map.mp among
    exact (within.mono most).rows row (Outbox.eligible_of_mem_oldestFirst selected).1 same
  | recorded message queue rows =>
    refine ⟨(within.mono most).nonneg, fun row among same => ?_,
      fun copy waits => (within.mono most).held copy (List.mem_cons_of_mem _ waits)⟩
    rcases rows row among with kept | ⟨old, here, own, named, unchanged | ⟨failure, raised⟩⟩
    · exact (within.mono most).rows row kept same
    · rw [unchanged]
      exact (within.mono most).rows old here (own.trans (named.symm.trans same))
    · -- The count of the row is within the old bound, that of the copy with one more is not.
      have one : message.id = id := named.symm.trans same
      have standing := within.rows old here (own.trans one)
      have copied := within.held message List.mem_cons_self one
      have next := nextRetryCount_le message.retryCount
      rw [raised, ← one, if_pos failure]
      omega
  | reset _ rows =>
    refine ⟨(within.mono most).nonneg, fun row among same => ?_, (within.mono most).held⟩
    rcases rows row among with kept | ⟨old, _, rfl⟩
    · exact (within.mono most).rows row kept same
    · exact (within.mono most).nonneg

/-! ### What a processor holds -/

/-- What the copies that a processor holds have in common with the outbox: they are of distinct
messages and below the ceiling, and each has the count of its row, unless that was reset. -/
structure Holds (ceiling : Int) (outbox : List Message) (held : List Pending) : Prop where
  distinct : (held.map (·.id)).Nodup
  below : ∀ copy ∈ held, copy.retryCount < ceiling
  counts : ∀ copy ∈ held, ∀ row ∈ outbox, row.id = copy.id →
    row.retryCount = copy.retryCount ∨ row.retryCount = 0

theorem holds_nil (ceiling : Int) (outbox : List Message) : Holds ceiling outbox [] :=
  ⟨List.nodup_nil, nofun, nofun⟩

/-- Copies are taken from the rows as they stand. Afterwards rows change that no copy is held of any
more, and rows that are reset. So what copies and rows have in common survives every move, as long
as identifiers tell messages apart. -/
theorem Holds.deals (holds : Holds config.maxRetries outbox held)
    (ids : (outbox.map (·.id)).Nodup) (deals : Deals config failed outbox held after left) :
    Holds config.maxRetries after left := by
  cases deals with
  | rests => exact holds
  | fetched =>
    refine ⟨?_, fun copy among => ?_, fun copy among row here same => ?_⟩
    · have stored : ({ outbox } : Memory).ids.Nodup := ids
      rw [List.map_map]
      exact Memory.nodup_oldestFirst _ _ stored
    · obtain ⟨row, selected, rfl⟩ := List.mem_map.mp among
      have retryable := (Outbox.eligible_of_mem_oldestFirst selected).2
      exact of_decide_eq_true (Bool.and_eq_true_iff.mp retryable).2
    · -- A copy was taken from a row, and no other row has its identifier.
      obtain ⟨source, selected, rfl⟩ := List.mem_map.mp among
      have standing := (Outbox.eligible_of_mem_oldestFirst selected).1
      rw [List.inj_on_of_nodup_map ids here standing same]
      exact Or.inl rfl
  | recorded message queue rows =>
    -- Only rows of the recorded message change, and no other copy of that message is left.
    obtain ⟨fresh, distinct⟩ := List.nodup_cons.mp holds.distinct
    refine ⟨distinct, fun copy waits => holds.below copy (List.mem_cons_of_mem _ waits),
      fun copy waits row among same => ?_⟩
    rcases rows row among with kept | ⟨_, _, _, named, _⟩
    · exact holds.counts copy (List.mem_cons_of_mem _ waits) row kept same
    · exact absurd (List.mem_map.mpr ⟨copy, waits, same.symm.trans named⟩) fresh
  | reset _ rows =>
    refine ⟨holds.distinct, holds.below, fun copy among row here same => ?_⟩
    rcases rows row here with kept | ⟨_, _, rfl⟩
    · exact holds.counts copy among row kept same
    · exact Or.inr rfl

/-- A processor holds no copy of an exhausted message, or one without attempts behind it. A copy
below the ceiling has the count of its row, which is not below the ceiling, or the row was reset. -/
theorem Holds.carried_eq_zero {ceiling : Int} {stage : Stage} {row : Message}
    (holds : Holds ceiling outbox stage.held) (here : row ∈ outbox) (same : row.id = id)
    (exhausted : row.isExhausted ceiling = true) : carried id stage = 0 := by
  have reached : ceiling ≤ row.retryCount :=
    of_decide_eq_true (Bool.and_eq_true_iff.mp exhausted).2
  have nothing : carried id stage ≤ 0 := by
    refine carried_le.mpr ⟨Int.le_refl 0, fun copy among named => ?_⟩
    have below := holds.below copy among
    rcases holds.counts copy among row here (same.trans named.symm) with equal | reset <;> omega
  exact Int.le_antisymm nothing (carried_le.mp (Int.le_refl _)).1

end

/-! ### Runs of one processor -/

section

variable {configs : Nat → Config} {system : System} {p : Nat} {id : Identifier} {moves : List Move}

/-- Nothing that was added changes, since no order is placed or cancelled by such a move. -/
theorem added_step {move : Move} (own : move.isOf p = true) :
    (step configs system move).world.state.memory.added = system.world.state.memory.added := by
  cases move with
  | place => cases own
  | cancel => cases own
  | fetch q =>
    rcases step_fetch_cases configs system q with idle | nothing
    · rw [step_fetch idle]
      exact (Delivery.fetch_delivers _ _ system.world).1.memory.added
    · rw [nothing]
  | publish q =>
    rcases step_publish_cases configs system q with ⟨message, queue, due⟩ | nothing
    · rw [step_publish due]
      rfl
    · rw [nothing]
  | record q =>
    rcases step_record_cases configs system q with ⟨message, answer, queue, answered⟩ | nothing
    · rw [step_record answered]
      exact (Delivery.record_delivers (configs q) message answer system.world).1.memory.added
    · rw [nothing]
  | reset id =>
    exact (Delivery.reset_delivers id system.world).1.memory.added
  | disturb => rfl

/-- So identifiers stay as they are. -/
theorem ids_step {move : Move} (own : move.isOf p = true) :
    (step configs system move).outbox.map (·.id) = system.outbox.map (·.id) :=
  Memory.map_key_of_added (fun _ => rfl) (added_step own)

/-- They stay so through a run. -/
theorem ids_run (own : ∀ move ∈ moves, move.isOf p = true) :
    (run configs system moves).outbox.map (·.id) = system.outbox.map (·.id) := by
  induction moves generalizing system with
  | nil => rfl
  | cons move rest inductionHypothesis =>
    obtain ⟨first, others⟩ := List.forall_mem_cons.mp own
    exact (inductionHypothesis others).trans (ids_step first)

/-- The processor holds such copies throughout a run, by induction on the moves. -/
theorem holds_run (ids : (system.outbox.map (·.id)).Nodup)
    (own : ∀ move ∈ moves, move.isOf p = true)
    (holds : Holds (configs p).maxRetries system.outbox (system.stages p).held) :
    Holds (configs p).maxRetries (run configs system moves).outbox
      ((run configs system moves).stages p).held := by
  induction moves generalizing system with
  | nil => exact holds
  | cons move rest inductionHypothesis =>
    obtain ⟨first, others⟩ := List.forall_mem_cons.mp own
    refine inductionHypothesis ?_ others (holds.deals ids (deals_step move first))
    rwa [ids_step first]

/-- Through a run a bound is raised by the number of failures that are recorded. The induction is on
the moves, and the bound that one move leaves is the one that the rest of the run begins with. -/
theorem within_run {bound : Int} (own : ∀ move ∈ moves, move.isOf p = true)
    (within : Within id bound system.outbox (system.stages p).held) :
    Within id (bound + recordedFailures configs id system moves) (run configs system moves).outbox
      ((run configs system moves).stages p).held := by
  induction moves generalizing system bound with
  | nil => exact within.mono (by simp [recordedFailures])
  | cons move rest inductionHypothesis =>
    obtain ⟨first, others⟩ := List.forall_mem_cons.mp own
    refine (inductionHypothesis others (within.deals (deals_step move first))).mono ?_
    rw [recordedFailures, Int.natCast_add, Int.add_assoc]
    split <;> exact Int.le_refl _

/-- A reset that is accepted leaves a row without attempts, and copies as they are. So right after
it the count of the message is bounded by what the processor carries of it. -/
theorem within_reset (ids : (system.outbox.map (·.id)).Nodup)
    (accepted : ((Site.store.resetRetries id).perform system.world).1 = .ok ()) :
    (∃ row ∈ (step configs system (.reset id)).outbox, row.id = id) ∧
      Within id (carried id (system.stages p)) (step configs system (.reset id)).outbox
        ((step configs system (.reset id)).stages p).held := by
  obtain ⟨nonneg, held⟩ := carried_le.mp (Int.le_refl (carried id (system.stages p)))
  rcases Memory.resetRetries_cases ids id with ⟨refused, _⟩ | ⟨_, ⟨message, here, same, _⟩, outbox⟩
  · have contrary : (Except.ok () : Except Outbox.Error Unit) = .error (.notFound id) :=
      accepted.symm.trans refused
    cases contrary
  · have reset : (step configs system (.reset id)).outbox = _ := outbox
    rw [reset]
    refine ⟨⟨message.reset, List.mem_map.mpr ⟨message, here, if_pos same⟩, same⟩, nonneg, ?_, held⟩
    intro row among named
    obtain ⟨old, _, rfl⟩ := List.mem_map.mp among
    by_cases own : old.id = id
    · rw [if_pos own]
      exact nonneg
    · rw [if_neg own] at named
      exact absurd named own

/-- Once a reset was accepted while one processor was at work, the count of the message is at most
that of the failures recorded since, and what the processor carried of the message at the reset. It
is exhausted again only after so many more failures. Of a message that was exhausted the processor
carried nothing.

Proof: the reset establishes a bound on row and copies (`within_reset`), which the moves behind it
raise by one for each failure that is recorded (`within_run`). The last part rests on the moves in
front of the reset: the copies that they leave are below the ceiling and have the counts of their
rows (`holds_run`), so none is that of an exhausted message. -/
theorem retryCount_after_reset {world : World Site} {earlier later : List Move}
    (distinct : world.state.memory.ids.Nodup)
    (own : ∀ move ∈ earlier ++ later, move.isOf p = true)
    (accepted : ((Site.store.resetRetries id).perform (run configs { world } earlier).world).1 =
      .ok ()) :
    let before := run configs { world } earlier
    let reset := step configs before (.reset id)
    let bound := carried id (before.stages p) + recordedFailures configs id reset later
    (∃ row, (run configs reset later).world.state.memory.message? id = some row ∧
      row.retryCount ≤ bound ∧
      (row.isExhausted (configs p).maxRetries = true → (configs p).maxRetries ≤ bound)) ∧
    ∀ row, before.world.state.memory.message? id = some row →
      row.isExhausted (configs p).maxRetries = true → carried id (before.stages p) = 0 := by
  intro before reset bound
  obtain ⟨ownEarlier, ownLater⟩ := List.forall_mem_append.mp own
  have ids : (before.outbox.map (·.id)).Nodup := by
    rw [ids_run ownEarlier]
    exact distinct
  constructor
  · obtain ⟨⟨message, here, named⟩, start⟩ : (∃ row ∈ reset.outbox, row.id = id) ∧
        Within id (carried id (before.stages p)) reset.outbox (reset.stages p).held :=
      within_reset ids accepted
    have within : Within id bound (run configs reset later).outbox
        ((run configs reset later).stages p).held := within_run ownLater start
    have there : id ∈ (run configs reset later).outbox.map (·.id) := by
      rw [ids_run ownLater]
      exact List.mem_map.mpr ⟨message, here, named⟩
    obtain ⟨row, found⟩ :
        ∃ row, (run configs reset later).outbox.find? (·.id == id) = some row := by
      obtain ⟨row, among, same⟩ := List.mem_map.mp there
      exact Option.isSome_iff_exists.mp
        (List.find?_isSome.mpr ⟨row, among, beq_iff_eq.mpr same⟩)
    have same := List.find?_some found
    rw [beq_iff_eq] at same
    have below := within.rows row (List.mem_of_find?_eq_some found) same
    refine ⟨row, found, below, fun exhausted => ?_⟩
    have reached : (configs p).maxRetries ≤ row.retryCount :=
      of_decide_eq_true (Bool.and_eq_true_iff.mp exhausted).2
    exact Int.le_trans reached below
  · intro row found exhausted
    have holds : Holds (configs p).maxRetries before.outbox (before.stages p).held :=
      holds_run distinct ownEarlier (holds_nil _ _)
    have first : before.outbox.find? (·.id == id) = some row := found
    have same := List.find?_some first
    rw [beq_iff_eq] at same
    exact holds.carried_eq_zero (List.mem_of_find?_eq_some first) same exhausted

end

/-! ### A reset in the middle of a batch -/

/-- A bus that takes no message, and one message in the outbox. -/
def refusingWorld : World Site :=
  { Site.quietWorld with
    state := {
      bus := { subject := "events", unavailable := true }
      memory := { outbox := [.fresh ⟨1⟩ "orders.order_placed.v1" "{}" ⟨0, 0⟩] } } }

/-- Two failures and a message is given up, so that a small run reaches the ceiling. -/
def twoTries (_processor : Nat) : Config := { maxRetries := 2 }

/-- A cycle in which the message fails, and a second one up to the answer of the bus. -/
def midBatch : List Move :=
  [.fetch 0, .publish 0, .record 0, .fetch 0, .publish 0]

/-- The record of the second failure, which follows the reset. -/
def lateRecord : List Move :=
  [.record 0]

theorem retryCount_after_reset_midBatch :
    let before := run twoTries { world := refusingWorld } midBatch
    let reset := step twoTries before (.reset ⟨1⟩)
    let bound := carried ⟨1⟩ (before.stages 0) + recordedFailures twoTries ⟨1⟩ reset lateRecord
    refusingWorld.state.memory.ids.Nodup ∧
      (∀ move ∈ midBatch ++ lateRecord, move.isOf 0 = true) ∧
      ((Site.store.resetRetries ⟨1⟩).perform before.world).1 = .ok () ∧
      (∃ row, (run twoTries reset lateRecord).world.state.memory.message? ⟨1⟩ = some row ∧
        row.retryCount ≤ bound ∧ (row.isExhausted 2 = true → 2 ≤ bound)) ∧
      ∀ row, before.world.state.memory.message? ⟨1⟩ = some row →
        row.isExhausted 2 = true → carried ⟨1⟩ (before.stages 0) = 0 := by
  intro before reset bound
  have distinct : refusingWorld.state.memory.ids.Nodup := by decide
  have own : ∀ move ∈ midBatch ++ lateRecord, move.isOf 0 = true := by decide
  have accepted : ((Site.store.resetRetries ⟨1⟩).perform before.world).1 = .ok () := by
    decide +kernel
  exact ⟨distinct, own, accepted, retryCount_after_reset distinct own accepted⟩

/-- A reset that comes between an attempt and its record is undone. One failure is recorded after
it, and yet the message is exhausted after two, since the processor still carried the count of the
first one and the store kept the greater of two counts. -/
theorem reset_undone_midBatch :
    let before := run twoTries { world := refusingWorld } midBatch
    let reset := step twoTries before (.reset ⟨1⟩)
    refusingWorld.state.memory.ids.Nodup ∧
      (∀ move ∈ midBatch ++ lateRecord, move.isOf 0 = true) ∧
      ((Site.store.resetRetries ⟨1⟩).perform before.world).1 = .ok () ∧
      recordedFailures twoTries ⟨1⟩ reset lateRecord = 1 ∧
      ∃ row, (run twoTries reset lateRecord).world.state.memory.message? ⟨1⟩ = some row ∧
        row.retryCount = 2 ∧ row.isExhausted 2 = true := by
  intro before reset
  have distinct : refusingWorld.state.memory.ids.Nodup := by decide
  have own : ∀ move ∈ midBatch ++ lateRecord, move.isOf 0 = true := by decide
  have accepted : ((Site.store.resetRetries ⟨1⟩).perform before.world).1 = .ok () := by
    decide +kernel
  have one : recordedFailures twoTries ⟨1⟩ reset lateRecord = 1 := by decide +kernel
  have row : (((run twoTries reset lateRecord).world.state.memory.message? ⟨1⟩).map
      fun row => (row.retryCount, row.isExhausted 2)) = some (2, true) := by decide +kernel
  obtain ⟨row, found, same⟩ := Option.map_eq_some_iff.mp row
  obtain ⟨count, exhausted⟩ := Prod.mk.inj same
  exact ⟨distinct, own, accepted, one, row, found, count, exhausted⟩

end OutboxRelay.Relay

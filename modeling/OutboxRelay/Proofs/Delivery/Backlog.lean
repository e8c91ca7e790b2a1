import Mathlib.Algebra.GroupWithZero.Nat
import Mathlib.Algebra.Order.BigOperators.Group.List
import Mathlib.Algebra.Order.Group.Nat
import OutboxRelay.Proofs.Delivery.Calm

/-!
# The backlog of delivery

Why every message is done in the end. Each retryable message has some attempts left, and the backlog
is their sum over the whole store. A treatment takes at least one off it: a message that is accepted
loses all that it had left, one that is refused loses one. Whatever messages a batch is filled with,
and however often the same ones come back, a cycle that fetches anything lowers the backlog. It
fetches something as long as anything is retryable, and so after as many cycles as the backlog
counts nothing is.
-/

namespace OutboxRelay.Delivery

open Outbox (Memory Message Pending oldestFirst)

/-- The attempts that a message has left below the ceiling, if all of them should be refused. -/
def attemptsLeft (ceiling : Int) (row : Message) : Nat :=
  (ceiling - row.retryCount).toNat

/-- The attempts left to all retryable messages. It is the measure that cycles decrease; no single
message needs to make progress in a given cycle. -/
def backlog (ceiling : Int) (trial : Trial) : Nat :=
  ((retryable ceiling trial).map (attemptsLeft ceiling)).sum

/-- What a message of the store counts for, nothing if it is not retryable. So the backlog is a sum
over rows that keep their places. -/
def weight (ceiling : Int) (row : Message) : Nat :=
  if row.isRetryable ceiling then attemptsLeft ceiling row else 0

/-- The backlog as a sum over all messages, in which one treatment changes one term. -/
theorem backlog_eq (ceiling : Int) (trial : Trial) :
    backlog ceiling trial = (trial.memory.outbox.map (weight ceiling)).sum := by
  rw [backlog, retryable]
  induction trial.memory.outbox with
  | nil => rfl
  | cons row rest inductionHypothesis =>
    rw [List.map_cons, List.sum_cons, ← inductionHypothesis, List.filter_cons, weight]
    split <;> simp

section

variable {ceiling : Int} {row : Message}

/-- Every retryable message has an attempt left, as its count is below the ceiling. -/
theorem weight_pos (due : row.isRetryable ceiling = true) : 0 < weight ceiling row := by
  have under : row.retryCount < ceiling := of_decide_eq_true (Bool.and_eq_true_iff.mp due).2
  rw [weight, if_pos due, attemptsLeft]
  omega

/-- The answer to an attempt takes at least one attempt off its message: all of them if it was
accepted, and one if it was refused. -/
theorem weight_settle (few : ceiling ≤ greatestRetryCount) (due : row.isRetryable ceiling = true)
    (answer : Except Broker.Error Unit) (now : Instant) :
    weight ceiling (Trial.settle ceiling row.toPending answer now row) < weight ceiling row := by
  have under : row.retryCount < ceiling := of_decide_eq_true (Bool.and_eq_true_iff.mp due).2
  cases answer with
  | ok =>
    have done : (row.processedAt now).isRetryable ceiling = false := rfl
    have nothing : weight ceiling (row.processedAt now) = 0 := by
      rw [weight, done]
      rfl
    exact Nat.lt_of_le_of_lt (Nat.le_of_eq nothing) (weight_pos due)
  | error error =>
    let text := Trial.failureText ceiling (nextRetryCount row.retryCount) error
    let failed := row.failedWith text (nextRetryCount row.retryCount)
    have counted : failed.retryCount = row.retryCount + 1 := by
      have next := nextRetryCount_of_lt under few
      have raised : failed.retryCount = max row.retryCount (nextRetryCount row.retryCount) := rfl
      omega
    have left : attemptsLeft ceiling failed < attemptsLeft ceiling row := by
      rw [attemptsLeft, attemptsLeft, counted]
      omega
    have least : weight ceiling failed ≤ attemptsLeft ceiling failed := by
      rw [weight]
      split <;> omega
    have whole : weight ceiling row = attemptsLeft ceiling row := if_pos due
    rw [whole]
    exact Nat.lt_of_le_of_lt least left

end

section

variable (config : Config) {world : World Trial} {message : Pending} {queue : List Pending}

/-- A treatment lowers the backlog: the term of its message falls, and all others stay as they
are. -/
theorem backlog_treat (few : config.maxRetries ≤ greatestRetryCount) (calm : Calm world.state)
    (current : Current config.maxRetries (message :: queue) world.state.memory.outbox) :
    backlog config.maxRetries ((Trial.processor config).treat message world).2.state <
      backlog config.maxRetries world.state := by
  obtain ⟨now, reached⟩ := calm.state_treat config current.known
  let settling (row : Message) : Message :=
    if row.id == message.id then
      Trial.settle config.maxRetries message world.state.answer now row
    else row
  have lowered : ∀ row ∈ world.state.memory.outbox, row.id = message.id →
      weight config.maxRetries (settling row) < weight config.maxRetries row := by
    intro row here same
    obtain ⟨part, unprocessed, under⟩ := current.row calm.ids List.mem_cons_self here same
    have due : row.isRetryable config.maxRetries = true := by
      simp [Message.isRetryable, unprocessed, under]
    have settled : settling row =
        Trial.settle config.maxRetries row.toPending world.state.answer now row := by
      rw [part]
      exact if_pos (beq_iff_eq.mpr same)
    rw [settled]
    exact weight_settle few due world.state.answer now
  have outbox : ((Trial.processor config).treat message world).2.state.memory.outbox =
      world.state.memory.outbox.map settling := by
    rw [reached]
    rfl
  -- One weight falls, that of the message, and none rises.
  rw [backlog_eq, backlog_eq, outbox, List.map_map]
  apply List.sum_lt_sum
  · intro row here
    by_cases same : row.id = message.id
    · exact Nat.le_of_lt (lowered row here same)
    · have other : settling row = row := if_neg fun equal => same (eq_of_beq equal)
      rw [Function.comp_apply, other]
  · obtain ⟨row, here, same, _⟩ := current.rows message List.mem_cons_self
    exact ⟨row, here, lowered row here (congrArg (·.id) same)⟩

/-- A cycle lowers the backlog by at least one for every message that it fetches, by induction on
the queue of the cycle. -/
theorem backlog_batch (few : config.maxRetries ≤ greatestRetryCount) (calm : Calm world.state) :
    backlog config.maxRetries ((Trial.processor config).afterBatch world).state +
      (selection config world.state).length ≤ backlog config.maxRetries world.state := by
  rw [(calm.batch config).2]
  let bounded (queue : List Pending) (later : World Trial) : Prop :=
    backlog config.maxRetries later.state + (selection config world.state).length ≤
      backlog config.maxRetries world.state + queue.length
  have start : bounded ((selection config world.state).map (·.toPending)) world := by
    simp [bounded]
  refine (calm.treatAll config bounded ?_ (calm.current config) start).2
  intro message queue later calm current before
  have less := backlog_treat config few calm current
  simp only [bounded, List.length_cons] at before ⊢
  omega

/-- A cycle fetches something as long as anything is retryable, if a batch holds one message at
least. -/
theorem selection_pos (positive : 1 ≤ config.batchSize) {trial : Trial}
    (waiting : retryable config.maxRetries trial ≠ []) : 1 ≤ (selection config trial).length := by
  have some : 0 < (trial.memory.outbox.filter (·.isRetryable config.maxRetries)).length :=
    List.length_pos_of_ne_nil waiting
  rw [selection, Outbox.length_oldestFirst]
  omega

/-- Nothing is retryable once there is no backlog. -/
theorem retryable_eq_nil {ceiling : Int} {trial : Trial} (none : backlog ceiling trial = 0) :
    retryable ceiling trial = [] := by
  rw [backlog_eq, List.sum_eq_zero_iff] at none
  rw [retryable, List.filter_eq_nil_iff]
  intro row here due
  have nothing : weight ceiling row = 0 := none _ (List.mem_map.mpr ⟨row, here, rfl⟩)
  exact absurd nothing (Nat.ne_of_gt (weight_pos due))

/-- A cycle that has nothing to fetch changes nothing at all, and reports that it did nothing. -/
theorem Calm.idle (calm : Calm world.state) (done : retryable config.maxRetries world.state = []) :
    (Trial.processor config).processBatch.perform world = (.ok {}, world) := by
  have nothing : selection config world.state = [] := by
    rw [retryable] at done
    rw [selection, oldestFirst, done]
    simp
  have gave := calm.poll config
  rw [nothing] at gave
  exact Effect.perform_bind_ok gave _

/-- Each cycle takes one off the backlog, until there is none. The induction is on the number of
cycles. -/
theorem backlog_afterBatches (few : config.maxRetries ≤ greatestRetryCount)
    (positive : 1 ≤ config.batchSize) (calm : Calm world.state) (count : Nat) :
    backlog config.maxRetries ((Trial.processor config).afterBatches count world).state ≤
      backlog config.maxRetries world.state - count := by
  induction count with
  | zero => exact Nat.le_refl _
  | succ count inductionHypothesis =>
    obtain ⟨still, _⟩ := calm.afterBatches config count
    have less := backlog_batch config few still
    rw [Processor.afterBatches_succ]
    by_cases none : backlog config.maxRetries
        ((Trial.processor config).afterBatches count world).state = 0
    · omega
    · have waiting : retryable config.maxRetries
          ((Trial.processor config).afterBatches count world).state ≠ [] := by
        intro nothing
        rw [backlog, nothing] at none
        exact none rfl
      have fetched := selection_pos config positive waiting
      omega

/-- Nothing is left to be done: nothing is retryable, what was is processed or exhausted, and a
further cycle neither fetches nor changes anything. -/
structure Drained (config : Config) (start drained : World Trial) : Prop where
  polls : ∀ limit, (drained.state.memory.getRetryable limit config.maxRetries).1 = .ok []
  done : ∀ row ∈ retryable config.maxRetries start.state,
    ∃ later ∈ drained.state.memory.outbox, later.asAdded = row.asAdded ∧
      (later.isProcessed = true ∨ later.isExhausted config.maxRetries = true)
  idle : (Trial.processor config).processBatch.perform drained = (.ok {}, drained)

/-- A calm trial without a backlog is drained. A message that was retryable at first is still there,
and as it is no longer retryable, it is processed or exhausted. -/
theorem Calm.drained {start : World Trial} (calm : Calm world.state)
    (done : retryable config.maxRetries world.state = [])
    (added : world.state.memory.added = start.state.memory.added) :
    Drained config start world := by
  constructor
  case polls =>
    intro limit
    rw [Memory.getRetryable, Memory.poll, calm.polls]
    rw [retryable] at done
    simp [oldestFirst, done]
  case done =>
    intro row due
    have kept : row.asAdded ∈ world.state.memory.added := by
      rw [added]
      exact List.mem_map.mpr ⟨row, (List.mem_filter.mp due).1, rfl⟩
    obtain ⟨later, there, same⟩ := List.mem_map.mp kept
    refine ⟨later, there, same, ?_⟩
    have rests := List.filter_eq_nil_iff.mp done later there
    cases processed : later.isProcessed with
    | true => exact Or.inl rfl
    | false =>
      rw [Message.isRetryable_eq_not_isExhausted _ _ processed] at rests
      exact Or.inr (by simpa using rests)
  case idle => exact calm.idle config done

/-- Whatever the bus answers, a cycle that begins with a retryable message fetches one at least and
lowers the backlog, and after as many cycles as the first backlog counts everything is drained.

Proof: the backlog is the measure. A cycle takes off it at least one for every message that it
fetches (`backlog_batch`), and it fetches something as long as anything is retryable
(`selection_pos`). So it is gone after as many cycles as it counted (`backlog_afterBatches`), and
without a backlog there is nothing left to fetch. -/
theorem backlog_drains (few : config.maxRetries ≤ greatestRetryCount)
    (positive : 1 ≤ config.batchSize) (calm : Calm world.state) :
    let processor := Trial.processor config
    (∀ count,
      let before := processor.afterBatches count world
      retryable config.maxRetries before.state ≠ [] →
        (∃ report, (processor.processBatch.perform before).1 = .ok report ∧ 1 ≤ report.fetched) ∧
          backlog config.maxRetries (processor.afterBatch before).state <
            backlog config.maxRetries before.state) ∧
      ∀ count, backlog config.maxRetries world.state ≤ count →
        Drained config world (processor.afterBatches count world) := by
  intro processor
  constructor
  · intro count before waiting
    obtain ⟨still, _⟩ := calm.afterBatches config count
    have fetched := selection_pos config positive waiting
    obtain ⟨report, gave, counted⟩ := (still.batch config).1
    have less := backlog_batch config few still
    refine ⟨⟨report, gave, ?_⟩, ?_⟩
    · rw [counted]
      exact fetched
    · exact Nat.lt_of_lt_of_le (Nat.lt_add_of_pos_right fetched) less
  · intro count enough
    obtain ⟨still, added⟩ := calm.afterBatches config count
    have none := backlog_afterBatches config few positive calm count
    refine still.drained config (retryable_eq_nil ?_) added
    omega

end

/-- Three messages, of which two have to wait, and a bus that refuses every other attempt. -/
def crowdedWorld : World Trial where
  ids n := ⟨BitVec.ofNat 128 n⟩
  clock _ := ⟨0, 0⟩
  state := {
    memory := {
      outbox := [.fresh ⟨1⟩ "placed" "first" ⟨0, 0⟩, .fresh ⟨2⟩ "placed" "second" ⟨0, 0⟩,
        .fresh ⟨3⟩ "placed" "third" ⟨0, 1⟩] }
    answers := fun n => if n % 2 = 0 then .error (.publish "refused") else .ok ()
    faults := fun _ => none }

theorem calm_crowdedWorld : Calm crowdedWorld.state where
  ids := by decide
  polls := rfl
  records _ := rfl

theorem backlog_drains_crowdedWorld :
    let config : Config := { batchSize := 1, maxRetries := 2 }
    let processor := Trial.processor config
    config.maxRetries ≤ greatestRetryCount ∧ 1 ≤ config.batchSize ∧ Calm crowdedWorld.state ∧
      retryable config.maxRetries crowdedWorld.state ≠ [] ∧
      (∃ report, (processor.processBatch.perform crowdedWorld).1 = .ok report ∧
        1 ≤ report.fetched) ∧
      backlog config.maxRetries (processor.afterBatch crowdedWorld).state <
        backlog config.maxRetries crowdedWorld.state ∧
      backlog config.maxRetries crowdedWorld.state = 6 ∧
      Drained config crowdedWorld (processor.afterBatches 6 crowdedWorld) := by
  intro config processor
  have few : config.maxRetries ≤ greatestRetryCount := by decide
  have positive : 1 ≤ config.batchSize := by decide
  have waiting : retryable config.maxRetries crowdedWorld.state ≠ [] := by decide
  have six : backlog config.maxRetries crowdedWorld.state = 6 := by decide
  obtain ⟨progress, drained⟩ := backlog_drains config few positive calm_crowdedWorld
  obtain ⟨fetched, less⟩ := progress 0 waiting
  exact ⟨few, positive, calm_crowdedWorld, waiting, fetched, less, six,
    drained 6 (Nat.le_of_eq six)⟩

end OutboxRelay.Delivery

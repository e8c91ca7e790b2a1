import OutboxRelay.Outbox.Memory
import OutboxRelay.Proofs.Delivery.Trace
import OutboxRelay.Proofs.Outbox.Memory

/-!
# Delivery on trial

A store in memory whose marks may fail, and a bus that answers as it pleases. What the bus says to
each attempt and which of the calls that record an outcome fail is given in advance, by the number
of the attempt and of the call; a call that fails changes nothing. The bus keeps all it was offered,
accepted or not.

A treatment of a message changes at most the rows under the identifier of that message, and it
changes nothing if the record of the outcome fails.
-/

namespace OutboxRelay.Delivery

open Outbox (Memory Message Pending Session Store)

/-- A store, and what becomes of attempts and of their records. Everything that could go one way or
the other is given in advance, so that a run is determined by its moves. -/
structure Trial where
  memory : Memory := {}
  /-- The answers of the bus, in the order of attempts. -/
  answers : Nat → Except Broker.Error Unit
  /-- What the bus was offered. -/
  offered : List (String × String) := []
  /-- Why calls that record an outcome fail, if they do, in the order of these calls. -/
  faults : Nat → Option Outbox.Error
  /-- The number of these calls. -/
  marks : Nat := 0

/-- Counting does not stop below the ceiling, as the ceiling is a number that the count can
reach. -/
theorem nextRetryCount_of_lt {ceiling retryCount : Int} (under : retryCount < ceiling)
    (few : ceiling ≤ greatestRetryCount) : nextRetryCount retryCount = retryCount + 1 := by
  unfold nextRetryCount
  omega

namespace Trial

/-- Change the store in memory. -/
def setMemory (memory : Memory) (trial : Trial) : Trial := { trial with memory }

/-- The trial after one more call that records an outcome. -/
def marked (trial : Trial) : Trial := { trial with marks := trial.marks + 1 }

/-- The trial after one more attempt, which is kept whether the bus accepts it or not. -/
def offer (eventType content : String) (trial : Trial) : Trial :=
  { trial with offered := trial.offered ++ [(eventType, content)] }

/-- The answer of the bus to the next attempt. -/
def answer (trial : Trial) : Except Broker.Error Unit := trial.answers trial.offered.length

/-- Let the next call that records an outcome fail, if it is to. The call is counted either way. -/
def strike : Effect (World Trial) Outbox.Error Unit :=
  World.onState (.ofPair fun trial =>
    (match trial.faults trial.marks with
      | some error => .error error
      | none => .ok (),
    trial.marked))

/-- The store in memory, by itself in a trial. All calls but the two that record outcomes go to it
directly. -/
def calm : Store Trial Session := Memory.store.onPart (·.memory) setMemory

/-- The store of a trial. Before an outcome is recorded, a planned fault may strike; all else is the
store in memory. -/
def store : Store Trial Session :=
  { calm with
    markAsProcessed := fun id => do
      strike
      calm.markAsProcessed id
    markAsFailed := fun id error retryCount => do
      strike
      calm.markAsFailed id error retryCount }

/-- The bus of a trial. It keeps what it was offered, accepted or not, and answers by the number of
the attempt. -/
def bus : Broker.Bus (World Trial) where
  publish eventType content :=
    World.onState (.ofPair fun trial => (trial.answer, trial.offer eventType content))

/-- Delivery on trial: the processor itself, with store and bus replaced. -/
def processor (config : Config) : Processor Trial Session := { store, bus, config }

/-- The text that a failed attempt leaves with its message. -/
def failureText (ceiling retryCount : Int) (error : Broker.Error) : String :=
  if ceiling ≤ retryCount then exhaustedText ceiling error.message else error.message

/-- What the record of an answer makes of the row of its message: processed at a time, or failed
with one more attempt behind it. -/
def settle (ceiling : Int) (message : Pending) (answer : Except Broker.Error Unit) (now : Instant)
    (row : Message) : Message :=
  match answer with
  | .ok () => row.processedAt now
  | .error error =>
    let retryCount := nextRetryCount message.retryCount
    row.failedWith (failureText ceiling retryCount error) retryCount

/-- A memory after the record of an answer. Every row under the identifier is settled, and the
others stay. -/
def settled (ceiling : Int) (message : Pending) (answer : Except Broker.Error Unit) (now : Instant)
    (memory : Memory) : Memory :=
  { memory with
    outbox := memory.outbox.map fun row =>
      if row.id == message.id then settle ceiling message answer now row else row }

/-- What an attempt makes of a row in the end: something only if it was for this row and its answer
was recorded. -/
def afterwards (ceiling : Int) (attempt : Attempt) (now : Instant) (row : Message) : Message :=
  if attempt.recorded && row.id == attempt.message.id then
    settle ceiling attempt.message attempt.answer now row
  else row

/-- Nothing that was added changes, whatever became of the attempt. -/
theorem asAdded_afterwards (ceiling : Int) (attempt : Attempt) (now : Instant) (row : Message) :
    (afterwards ceiling attempt now row).asAdded = row.asAdded := by
  unfold afterwards settle
  split
  · split <;> rfl
  · rfl

/-- The rows of other messages stay as they are. -/
theorem afterwards_other {ceiling : Int} {attempt : Attempt} {now : Instant} {row : Message}
    (other : row.id ≠ attempt.message.id) : afterwards ceiling attempt now row = row := by
  simp [afterwards, other]

/-! ### Single calls -/

variable {config : Config} {world : World Trial} {message : Pending}

theorem run_attempt :
    ((processor config).attempt message).run world =
      (world.state.answer,
        world.withState (world.state.offer message.eventType message.content)) := rfl

theorem perform_poll :
    (processor config).poll.perform world =
      let polled := world.state.memory.getRetryable config.batchSize config.maxRetries
      (polled.1, world.withState (world.state.setMemory polled.2)) := rfl

theorem perform_commit (session : Session) :
    (store.commit session).perform world =
      ((world.state.memory.commit session).1,
        world.withState (world.state.setMemory (world.state.memory.commit session).2)) := rfl

theorem perform_resetRetries (id : Identifier) :
    (store.resetRetries id).perform world =
      ((world.state.memory.resetRetries id).1,
        world.withState (world.state.setMemory (world.state.memory.resetRetries id).2)) := rfl

/-- A mark that is to fail leaves everything as it was, and is counted. -/
theorem perform_strike_error {α : Type} {error : Outbox.Error}
    (fault : world.state.faults world.state.marks = some error)
    (mark : Effect (World Trial) Outbox.Error α) :
    (strike >>= fun _ => mark).perform world = (.error error, world.withState world.state.marked) :=
  Effect.perform_bind_error
    (by rw [strike, World.perform_onState, Effect.perform_ofPair, fault]; rfl) _

/-- A mark that is to go through does what it does in the plain store, behind the count. -/
theorem perform_strike_ok {α : Type} (sound : world.state.faults world.state.marks = none)
    (mark : Effect (World Trial) Outbox.Error α) :
    (strike >>= fun _ => mark).perform world = mark.perform (world.withState world.state.marked) :=
  Effect.perform_bind_ok
    (by rw [strike, World.perform_onState, Effect.perform_ofPair, sound]; rfl) _

/-- A mark as processed that goes through. -/
theorem perform_markAsProcessed (sound : world.state.faults world.state.marks = none)
    (id : Identifier) :
    (store.markAsProcessed id).perform world =
      let marking := world.state.memory.markAsProcessed id (world.clock world.readings)
      (marking.1, { world.withState (world.state.marked.setMemory marking.2) with
        readings := world.readings + 1 }) := by
  rw [store, perform_strike_ok sound]
  rfl

/-- A mark as failed that goes through. -/
theorem perform_markAsFailed (sound : world.state.faults world.state.marks = none)
    (id : Identifier) (error : String) (retryCount : Int) :
    (store.markAsFailed id error retryCount).perform world =
      let marking := world.state.memory.markAsFailed id error retryCount
      (marking.1, world.withState (world.state.marked.setMemory marking.2)) := by
  change (strike >>= fun _ => calm.markAsFailed id error retryCount).perform world = _
  rw [perform_strike_ok sound]
  rfl

/-! ### Records -/

/-- The outcome of a record that goes through, as the report of a cycle counts it. -/
def outcomeOf (ceiling : Int) (message : Pending) : Except Broker.Error Unit → Outcome
  | .ok () => .published
  | .error _ => if ceiling ≤ nextRetryCount message.retryCount then .exhausted else .retried

theorem perform_record_accepted :
    ((processor config).record message (.ok ())).perform world =
      let marking := (store.markAsProcessed message.id).perform world
      (marking.1.map fun _ => outcomeOf config.maxRetries message (.ok ()), marking.2) :=
  Effect.perform_bind_pure _ _ world

/-- Given up or not, a failed attempt is recorded by one mark. -/
theorem perform_record_rejected (error : Broker.Error) :
    ((processor config).record message (.error error)).perform world =
      let retryCount := nextRetryCount message.retryCount
      let text := failureText config.maxRetries retryCount error
      let marking := (store.markAsFailed message.id text retryCount).perform world
      (marking.1.map fun _ => outcomeOf config.maxRetries message (.error error), marking.2) := by
  change ((processor config).recordFailure message error.message).perform world = _
  unfold Processor.recordFailure failureText outcomeOf
  dsimp only
  by_cases reached : config.maxRetries ≤ nextRetryCount message.retryCount
  · rw [if_pos (show (processor config).config.maxRetries ≤ _ from reached)]
    simp only [if_pos reached]
    exact Effect.perform_bind_pure _ _ world
  · rw [if_neg (show ¬(processor config).config.maxRetries ≤ _ from reached)]
    simp only [if_neg reached]
    exact Effect.perform_bind_pure _ _ world

/-- A record that is to fail changes nothing. -/
theorem perform_record_error {error : Outbox.Error} (answer : Except Broker.Error Unit)
    (fault : world.state.faults world.state.marks = some error) :
    ((processor config).record message answer).perform world =
      (.error error, world.withState world.state.marked) := by
  cases answer with
  | ok =>
    have failed : (store.markAsProcessed message.id).perform world = _ :=
      perform_strike_error fault _
    rw [perform_record_accepted, failed]
    rfl
  | error refusal =>
    have failed (text : String) (retryCount : Int) :
        (store.markAsFailed message.id text retryCount).perform world = _ :=
      perform_strike_error fault _
    rw [perform_record_rejected]
    dsimp only
    rw [failed]
    rfl

/-- A record that is to go through settles the row of its message. Only the record of an accepted
attempt looks at the clock. -/
theorem perform_record_ok (answer : Except Broker.Error Unit)
    (sound : world.state.faults world.state.marks = none)
    (ids : world.state.memory.ids.Nodup)
    (known : message.id ∈ world.state.memory.ids) :
    ((processor config).record message answer).perform world =
      (.ok (outcomeOf config.maxRetries message answer),
        { world.withState (world.state.marked.setMemory
            (settled config.maxRetries message answer (world.clock world.readings)
              world.state.memory)) with
          readings := world.readings + if answer.isOk then 1 else 0 }) := by
  cases answer with
  | ok =>
    rw [perform_record_accepted, perform_markAsProcessed sound, Memory.markAsProcessed,
      Outbox.Memory.update_known _ ids known]
    rfl
  | error refusal =>
    rw [perform_record_rejected]
    dsimp only
    rw [perform_markAsFailed sound, Memory.markAsFailed, Outbox.Memory.update_known _ ids known]
    rfl

/-! ### Treatments -/

/-- What the treatment of a message does. It is all that is used of a treatment from here on. -/
structure Treats (ceiling : Int) (message : Pending) (before after : Trial) (attempt : Attempt) :
    Prop where
  of : attempt.message = message
  answer : attempt.answer = before.answer
  recorded : attempt.recorded = (before.faults before.marks).isNone
  answers : after.answers = before.answers
  faults : after.faults = before.faults
  offered : after.offered = before.offered ++ [(message.eventType, message.content)]
  marks : after.marks = before.marks + 1
  outbox : ∃ now, after.memory.outbox =
    before.memory.outbox.map (afterwards ceiling attempt now)

/-- A message that is there is treated so, whatever the bus answers and whether or not the record is
lost. -/
theorem treats_treat (config : Config) (ids : world.state.memory.ids.Nodup)
    (known : message.id ∈ world.state.memory.ids) :
    let treated := (processor config).treat message world
    Treats config.maxRetries message world.state treated.2.state treated.1 := by
  let attempted := world.withState (world.state.offer message.eventType message.content)
  have settledBy : (processor config).treat message world =
      let settled := ((processor config).record message world.state.answer).perform attempted
      (⟨message, world.state.answer, settled.1⟩, settled.2) := by
    rw [Processor.treat, run_attempt]
  rw [settledBy]
  dsimp only
  cases fate : world.state.faults world.state.marks with
  | some error =>
    have fault : attempted.state.faults attempted.state.marks = some error := fate
    rw [perform_record_error world.state.answer fault]
    exact ⟨rfl, rfl, by rw [fate]; rfl, rfl, rfl, rfl, rfl, ⟨0, 0⟩, (List.map_id _).symm⟩
  | none =>
    have sound : attempted.state.faults attempted.state.marks = none := fate
    rw [perform_record_ok world.state.answer sound ids known]
    exact ⟨rfl, rfl, by rw [fate]; rfl, rfl, rfl, rfl, rfl, world.clock world.readings, rfl⟩

end Trial

end OutboxRelay.Delivery

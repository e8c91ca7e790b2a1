import OutboxRelay.Proofs.Delivery.Steps

/-!
# Delivery and the rows of an application

Delivery works on the outbox and on the bus. It looks at no row of the application, so that a cycle
over other rows does the same and leaves those rows as they were. The same is true of giving a
message its retries back.
-/

namespace OutboxRelay

namespace Outbox.Memory

variable (rows : String → String → Option Json)

/-- The memory with other rows. -/
def withRows (memory : Memory) : Memory :=
  { memory with rows }

/-- A poll over other rows gives the same and leaves those rows. -/
theorem poll_withRows (limit : Int) (eligible : Message → Bool) (memory : Memory) :
    (memory.withRows rows).poll limit eligible =
      ((memory.poll limit eligible).1, (memory.poll limit eligible).2.withRows rows) := by
  have told : (memory.withRows rows).failNextFetch = memory.failNextFetch := rfl
  unfold poll
  rw [told]
  split <;> rfl

/-- So does a change of a message. -/
theorem update_withRows (id : Identifier) (condition : Message → Bool) (change : Message → Message)
    (memory : Memory) :
    (memory.withRows rows).update id condition change =
      ((memory.update id condition change).1,
        (memory.update id condition change).2.withRows rows) := by
  have same : (memory.withRows rows).outbox = memory.outbox := rfl
  unfold update
  rw [same]
  split <;> rfl

end Outbox.Memory

namespace Rehearsal.Site

open Outbox (Memory)

variable (rows : String → String → Option Json)

/-- The world with other rows in its memory. -/
def withRows (world : World Site) : World Site :=
  withMemory (world.state.memory.withRows rows) world

theorem ignores_getRetryable (limit ceiling : Int) :
    Effect.Ignores (withRows rows) (store.getRetryable limit ceiling) := by
  intro world
  have polled := world.state.memory.poll_withRows rows limit (·.isRetryable ceiling)
  rw [perform_getRetryable, perform_getRetryable]
  exact congrArg (fun polled => (polled.1, withMemory polled.2 world)) polled

theorem ignores_markAsProcessed (id : Identifier) :
    Effect.Ignores (withRows rows) (store.markAsProcessed id) := by
  intro world
  have marked := world.state.memory.update_withRows rows id (·.id == id)
    (·.processedAt (world.clock world.readings))
  have told : (withRows rows world).state.faults = world.state.faults := rfl
  rw [perform_markAsProcessed, perform_markAsProcessed, told]
  by_cases ready : world.state.faults .markAsProcessed = 0
  · rw [if_pos ready, if_pos ready]
    exact congrArg (fun marked => (marked.1,
      { withMemory marked.2 world with readings := world.readings + 1 })) marked
  · rw [if_neg ready, if_neg ready]
    rfl

theorem ignores_markAsFailed (id : Identifier) (error : String) (retryCount : Int) :
    Effect.Ignores (withRows rows) (store.markAsFailed id error retryCount) := by
  intro world
  have marked := world.state.memory.update_withRows rows id (·.id == id)
    (·.failedWith error retryCount)
  have told : (withRows rows world).state.faults = world.state.faults := rfl
  rw [perform_markAsFailed, perform_markAsFailed, told]
  by_cases ready : world.state.faults .markAsFailed = 0
  · rw [if_pos ready, if_pos ready]
    exact congrArg (fun marked => (marked.1, withMemory marked.2 world)) marked
  · rw [if_neg ready, if_neg ready]
    rfl

theorem ignores_resetRetries (id : Identifier) :
    Effect.Ignores (withRows rows) (store.resetRetries id) := by
  intro world
  have reset := world.state.memory.update_withRows rows id
    (fun message => message.id == id && !message.isProcessed) (·.reset)
  rw [perform_resetRetries, perform_resetRetries]
  exact congrArg (fun reset => (reset.1, withMemory reset.2 world)) reset

end Rehearsal.Site

namespace Delivery

open Outbox (Pending)
open Rehearsal (Site)

variable (rows : String → String → Option Json) (config : Config)

/-- Recording an answer is one mark or the other, and nothing after it. -/
theorem ignores_record (message : Pending) (answer : Except Broker.Error Unit) :
    Effect.Ignores (Site.withRows rows) ((Site.processor config).record message answer) := by
  cases answer with
  | ok =>
    exact (Site.ignores_markAsProcessed rows message.id).bind fun _ => Effect.ignores_pure _
  | error error =>
    change Effect.Ignores _ ((Site.processor config).recordFailure message error.message)
    unfold Processor.recordFailure
    dsimp only
    split <;>
      exact (Site.ignores_markAsFailed rows message.id _ _).bind fun _ => Effect.ignores_pure _

/-- An attempt concerns the bus alone, and its record the outbox, so that a treatment over other
rows is the same treatment. -/
theorem treat_withRows (message : Pending) (world : World Site) :
    (Site.processor config).treat message (Site.withRows rows world) =
      (((Site.processor config).treat message world).1,
        Site.withRows rows ((Site.processor config).treat message world).2) := by
  have attempted : ((Site.processor config).attempt message).run (Site.withRows rows world) =
      ((((Site.processor config).attempt message).run world).1,
        Site.withRows rows (((Site.processor config).attempt message).run world).2) := rfl
  unfold Processor.treat
  rw [attempted]
  dsimp only
  rw [ignores_record rows config message]

/-- So is that of a list of messages, by induction on the list. -/
theorem treatAll_withRows (messages : List Pending) (world : World Site) :
    (Site.processor config).treatAll messages (Site.withRows rows world) =
      (((Site.processor config).treatAll messages world).1,
        Site.withRows rows ((Site.processor config).treatAll messages world).2) := by
  induction messages generalizing world with
  | nil => rfl
  | cons message rest inductionHypothesis =>
    unfold Processor.treatAll
    rw [treat_withRows]
    dsimp only
    rw [inductionHypothesis]

/-- A whole cycle does the same over other rows: it gives the same report, offers the same to the
bus and leaves the rows that it found. -/
theorem ignores_processBatch :
    Effect.Ignores (Site.withRows rows) (Site.processor config).processBatch := by
  refine (Site.ignores_getRetryable rows _ _).bind fun messages world => ?_
  rw [Effect.perform_ofState, Effect.perform_ofState, Processor.run_processAll,
    Processor.run_processAll, treatAll_withRows]

end Delivery

end OutboxRelay

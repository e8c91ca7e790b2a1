import Mathlib.Logic.Function.Iterate
import OutboxRelay.Proofs.Delivery.Chronicle

/-!
# Undisturbed cycles

Cycles one after the other on a trial whose store fails in nothing, while the bus still answers as
it pleases. Every poll then gives the oldest retryable messages and changes nothing, every answer is
recorded, and every cycle ends with a report. What a cycle makes of the trial can therefore be said
as a whole: each message that it fetched was offered once, and its row is settled by the answer.
-/

namespace OutboxRelay.Delivery

open Outbox (Memory Message Pending oldestFirst)

/-! ### Reports -/

theorem Report.fetched_count (outcome : Outcome) (report : Report) :
    (report.count outcome).fetched = report.fetched := by
  cases outcome <;> rfl

theorem Report.fetched_foldl (made : List Attempt) (report : Report) :
    (made.foldl (fun sum attempt => sum.count attempt.counted) report).fetched =
      report.fetched := by
  induction made generalizing report with
  | nil => rfl
  | cons attempt rest inductionHypothesis =>
    rw [List.foldl_cons, inductionHypothesis, Report.fetched_count]

namespace Processor

variable {σ S : Type} (processor : Processor σ S)

/-- The world after a cycle, whatever the cycle reported. -/
def afterBatch (world : World σ) : World σ :=
  (processor.processBatch.perform world).2

/-- The world after a number of cycles, each of them begun in the world that the one before it
left. -/
def afterBatches (count : Nat) (world : World σ) : World σ :=
  processor.afterBatch^[count] world

theorem afterBatches_succ (count : Nat) (world : World σ) :
    processor.afterBatches (count + 1) world =
      processor.afterBatch (processor.afterBatches count world) :=
  Function.iterate_succ_apply' _ _ _

/-- A cycle whose poll goes through treats what the poll gave, and reports on that. -/
theorem perform_processBatch_treatAll {messages : List Pending} {world polled : World σ}
    (gave : processor.poll.perform world = (.ok messages, polled)) :
    processor.processBatch.perform world =
      (.ok ((processor.treatAll messages polled).1.foldl
          (fun sum attempt => sum.count attempt.counted) { fetched := messages.length }),
        (processor.treatAll messages polled).2) := by
  have performed : processor.processBatch.perform world = _ := Effect.perform_bind_ok gave _
  rw [performed, Effect.perform_ofState, run_processAll]

/-- The report says how much the poll gave, and the world is the one that the treatment reached. -/
theorem perform_processBatch_ok {messages : List Pending} {world polled : World σ}
    (gave : processor.poll.perform world = (.ok messages, polled)) :
    (∃ report, (processor.processBatch.perform world).1 = .ok report ∧
        report.fetched = messages.length) ∧
      processor.afterBatch world = (processor.treatAll messages polled).2 := by
  rw [afterBatch, processor.perform_processBatch_treatAll gave]
  exact ⟨⟨_, rfl, Report.fetched_foldl _ _⟩, rfl⟩

end Processor

/-! ### Calm trials -/

/-- A trial of distinct messages whose store fails in nothing. The bus may still refuse whatever it
likes. -/
structure Calm (trial : Trial) : Prop where
  ids : trial.memory.ids.Nodup
  polls : trial.memory.failNextFetch = false
  records : ∀ n, trial.faults n = none

/-- The messages that a cycle fetches: the oldest ones among those that are retryable, as many as a
batch holds. -/
def selection (config : Config) (trial : Trial) : List Message :=
  oldestFirst (·.isRetryable config.maxRetries) config.batchSize trial.memory.outbox

/-- The retryable messages. -/
def retryable (ceiling : Int) (trial : Trial) : List Message :=
  trial.memory.outbox.filter (·.isRetryable ceiling)

section

variable (config : Config) {world : World Trial} {message : Pending} {queue : List Pending}

/-- A poll that is not to fail changes nothing. -/
theorem Trial.perform_poll_ok (polls : world.state.memory.failNextFetch = false) :
    (Trial.processor config).poll.perform world =
      (.ok ((selection config world.state).map (·.toPending)), world) := by
  rw [Trial.perform_poll, Memory.getRetryable, Memory.poll_ok polls]
  rfl

/-- The poll of a calm trial changes nothing and gives its selection. -/
theorem Calm.poll (calm : Calm world.state) :
    (Trial.processor config).poll.perform world =
      (.ok ((selection config world.state).map (·.toPending)), world) :=
  Trial.perform_poll_ok config calm.polls

/-- What a calm trial fetches is current: distinct messages, each as it stands in the outbox. -/
theorem Calm.current (calm : Calm world.state) :
    Current config.maxRetries ((selection config world.state).map (·.toPending))
      world.state.memory.outbox :=
  current_getRetryable calm.ids (congrArg (·.1) (calm.poll config))

/-- A cycle of a calm trial treats what it fetches, and reports how many that are. It never
fails. -/
theorem Calm.batch (calm : Calm world.state) :
    (∃ report, ((Trial.processor config).processBatch.perform world).1 = .ok report ∧
        report.fetched = (selection config world.state).length) ∧
      (Trial.processor config).afterBatch world =
        ((Trial.processor config).treatAll
          ((selection config world.state).map (·.toPending)) world).2 := by
  have performed := (Trial.processor config).perform_processBatch_ok (calm.poll config)
  rwa [List.length_map] at performed

/-- A treatment of a message that is there offers it, settles its row and makes one mark; it leaves
everything else in the trial as it is. -/
theorem Calm.state_treat (calm : Calm world.state) (known : message.id ∈ world.state.memory.ids) :
    ∃ now, ((Trial.processor config).treat message world).2.state =
      ((world.state.offer message.eventType message.content).marked.setMemory
        (Trial.settled config.maxRetries message world.state.answer now world.state.memory)) := by
  let offered := world.withState (world.state.offer message.eventType message.content)
  have sound : offered.state.faults offered.state.marks = none := calm.records _
  have recorded :
      ((Trial.processor config).record message world.state.answer).perform offered = _ :=
    Trial.perform_record_ok world.state.answer sound calm.ids known
  exact ⟨_, congrArg (·.2.state) recorded⟩

/-- A treatment leaves a trial calm, as it changes no identifier and makes nothing fail. -/
theorem Calm.treat (calm : Calm world.state) (known : message.id ∈ world.state.memory.ids) :
    Calm ((Trial.processor config).treat message world).2.state := by
  have added := (Trial.treats_treat config calm.ids known).added
  obtain ⟨now, reached⟩ := calm.state_treat config known
  refine ⟨?_, ?_, ?_⟩
  · rw [Memory.ids, Memory.map_key_of_added (fun _ => rfl) added]
    exact calm.ids
  · rw [reached]
    exact calm.polls
  · rw [reached]
    exact calm.records

/-- What holds of a calm trial and a queue, and of the trial after the treatment of the first
message and the rest of the queue, holds when the queue is done. This is the induction on a queue,
made once for all properties. -/
theorem Calm.treatAll (property : List Pending → World Trial → Prop)
    (advance : ∀ message queue world, Calm world.state →
      Current config.maxRetries (message :: queue) world.state.memory.outbox →
      property (message :: queue) world →
      property queue ((Trial.processor config).treat message world).2)
    (calm : Calm world.state) (current : Current config.maxRetries queue world.state.memory.outbox)
    (start : property queue world) :
    Calm ((Trial.processor config).treatAll queue world).2.state ∧
      property [] ((Trial.processor config).treatAll queue world).2 := by
  induction queue generalizing world with
  | nil => exact ⟨calm, start⟩
  | cons message queue inductionHypothesis =>
    exact inductionHypothesis (calm.treat config current.known)
      (current.tail (Trial.treats_treat config calm.ids current.known))
      (advance message queue world calm current start)

/-- A cycle leaves a trial calm, and nothing that was added changes. -/
theorem Calm.afterBatch (calm : Calm world.state) :
    let after := (Trial.processor config).afterBatch world
    Calm after.state ∧ after.state.memory.added = world.state.memory.added := by
  intro after
  have reached : after = _ := (calm.batch config).2
  rw [reached]
  refine calm.treatAll config (fun _ later => later.state.memory.added = world.state.memory.added)
    ?_ (calm.current config) rfl
  intro message queue later calm current same
  exact (Trial.treats_treat config calm.ids current.known).added.trans same

/-- So do any number of cycles. -/
theorem Calm.afterBatches (calm : Calm world.state) (count : Nat) :
    let after := (Trial.processor config).afterBatches count world
    Calm after.state ∧ after.state.memory.added = world.state.memory.added := by
  induction count with
  | zero => exact ⟨calm, rfl⟩
  | succ count inductionHypothesis =>
    obtain ⟨calm, added⟩ := inductionHypothesis
    obtain ⟨stays, same⟩ := calm.afterBatch config
    rw [Processor.afterBatches_succ]
    exact ⟨stays, same.trans added⟩

end

end OutboxRelay.Delivery

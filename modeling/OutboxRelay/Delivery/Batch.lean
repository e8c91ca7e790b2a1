import OutboxRelay.Broker.Bus
import OutboxRelay.Delivery.Config
import OutboxRelay.Outbox.Store

/-!
# Delivery cycles

One cycle of delivery. A cycle polls for retryable messages and then treats each of them on its
own: it publishes the message and records the outcome. Only the poll can fail a cycle. A failed
attempt that reaches the ceiling marks the message as given up; an outcome that cannot be recorded
is counted and otherwise left alone, so that the message comes back in a later cycle.
-/

namespace OutboxRelay.Delivery

open Outbox (Pending Store)

/-- What became of the messages of one cycle. Every message that was fetched is counted under one of
the other four. -/
structure Report where
  /-- Messages that the poll gave. -/
  fetched : Nat := 0
  /-- Published and recorded. -/
  published : Nat := 0
  /-- Failed and below the ceiling. -/
  retried : Nat := 0
  /-- Failed and given up. -/
  exhausted : Nat := 0
  /-- Outcome not recorded. -/
  errored : Nat := 0
deriving DecidableEq, Inhabited, Repr

/-- What became of one message. -/
inductive Outcome where
  | published
  | retried
  | exhausted
  | errored
deriving DecidableEq, Repr

/-- Count an outcome. -/
def Report.count (outcome : Outcome) (report : Report) : Report :=
  match outcome with
  | .published => { report with published := report.published + 1 }
  | .retried => { report with retried := report.retried + 1 }
  | .exhausted => { report with exhausted := report.exhausted + 1 }
  | .errored => { report with errored := report.errored + 1 }

/-- A store, the bus that its messages go to, and the settings. -/
structure Processor (σ S : Type) where
  store : Store σ S
  bus : Broker.Bus (World σ)
  config : Config

/-- The greatest retry count; counting stops there. -/
def greatestRetryCount : Int := (Text.IntegerBounds.signed 32).greatest

/-- The retry count after one more failed attempt. It does not grow beyond what a word of 32 bits
holds. -/
def nextRetryCount (retryCount : Int) : Int :=
  min (retryCount + 1) greatestRetryCount

/-- The error text of a message that is given up. -/
def exhaustedText (ceiling : Int) (error : String) : String :=
  s!"exceeded max retries ({ceiling}): {error}"

namespace Processor

variable {σ S : Type}

/-- Record a failed attempt: as given up if the ceiling is reached, otherwise as it is. The error
text of a message that is given up names the ceiling. -/
def recordFailure (processor : Processor σ S) (message : Pending) (error : String) :
    Effect (World σ) Outbox.Error Outcome := do
  let ceiling := processor.config.maxRetries
  let retryCount := nextRetryCount message.retryCount
  if ceiling ≤ retryCount then
    processor.store.markAsFailed message.id (exhaustedText ceiling error) retryCount
    return .exhausted
  else
    processor.store.markAsFailed message.id error retryCount
    return .retried

/-- Publish a message; the answer is that of the bus. A failure is an answer here and ends
nothing. -/
def attempt (processor : Processor σ S) (message : Pending) :
    StateM (World σ) (Except Broker.Error Unit) :=
  (processor.bus.publish message.eventType message.content).outcome

/-- Record the answer to an attempt. -/
def record (processor : Processor σ S) (message : Pending) (answer : Except Broker.Error Unit) :
    Effect (World σ) Outbox.Error Outcome := do
  match answer with
  | .ok () =>
    processor.store.markAsProcessed message.id
    return .published
  | .error error => processor.recordFailure message error.message

/-- Publish one message and record what came of it. -/
def deliver (processor : Processor σ S) (message : Pending) :
    Effect (World σ) Outbox.Error Outcome := do
  let answer ← Effect.ofState (processor.attempt message)
  processor.record message answer

/-- The outcome of one message, whether it could be recorded or not. A message that was published
but not recorded will be published again. -/
def process (processor : Processor σ S) (message : Pending) : StateM (World σ) Outcome := do
  match ← (processor.deliver message).outcome with
  | .ok outcome => return outcome
  | .error _ => return .errored

/-- Process messages one after the other and add their outcomes to a report. -/
def processAll (processor : Processor σ S) :
    List Pending → Report → StateM (World σ) Report
  | [], report => return report
  | message :: rest, report => do
    let outcome ← processor.process message
    processAll processor rest (report.count outcome)

/-- One cycle. It fails only if the poll does, and then no message was touched. -/
def processBatch (processor : Processor σ S) : Effect (World σ) Outbox.Error Report := do
  let messages ← processor.store.getRetryable processor.config.batchSize
    processor.config.maxRetries
  Effect.ofState (processor.processAll messages { fetched := messages.length })

end Processor

/-- Every outcome adds one to the sum of a report's four parts. -/
theorem Report.total_count (outcome : Outcome) (report : Report) :
    (report.count outcome).published + (report.count outcome).retried +
        (report.count outcome).exhausted + (report.count outcome).errored =
      report.published + report.retried + report.exhausted + report.errored + 1 := by
  cases outcome <;> simp only [count] <;> omega

end OutboxRelay.Delivery

import OutboxRelay.Delivery.Batch
import OutboxRelay.Proofs.Effect

/-!
# Traces of delivery cycles

A cycle reports numbers only. Its trace says what stands behind them: one attempt for each message
that the poll gave, in the order of the poll, with the answer of the bus and with what came of
recording it. The trace is computed by the very calls that a cycle makes, so that a cycle and its
trace reach the same state, and a report is the count of a trace. This holds for every store and
every bus.
-/

namespace OutboxRelay.Delivery

open Outbox (Pending)

/-- One attempt to publish a message, with both answers: that of the bus, and that of the store
which was to record it. -/
structure Attempt where
  message : Pending
  /-- What the bus said. -/
  answer : Except Broker.Error Unit
  /-- What came of recording the answer. -/
  outcome : Except Outbox.Error Outcome

namespace Attempt

/-- How a report counts an attempt. An attempt whose record was lost counts as an error, whatever
the bus said. -/
def counted (attempt : Attempt) : Outcome :=
  match attempt.outcome with
  | .ok outcome => outcome
  | .error _ => .errored

/-- Whether the answer was recorded. -/
def recorded (attempt : Attempt) : Bool :=
  attempt.outcome.isOk

/-- Whether the message was accepted, and this was recorded. -/
def accepted (attempt : Attempt) : Bool :=
  attempt.recorded && attempt.answer.isOk

/-- The wording of a rejection, if it was recorded. -/
def rejection? (attempt : Attempt) : Option String :=
  match attempt.answer with
  | .ok () => none
  | .error error => if attempt.recorded then some error.message else none

theorem answer_of_rejection? {attempt : Attempt} {text : String}
    (rejected : attempt.rejection? = some text) :
    ∃ error, attempt.answer = .error error ∧ text = error.message := by
  unfold rejection? at rejected
  cases answer : attempt.answer with
  | ok => simp [answer] at rejected
  | error error =>
    rw [answer] at rejected
    exact ⟨error, rfl, (Option.some.inj (Option.ite_none_right_eq_some.mp rejected).2).symm⟩

/-- An attempt is accepted, rejected or not recorded, and only one of these. -/
theorem one_fate (attempt : Attempt) :
    (if attempt.accepted then 1 else 0) + attempt.rejection?.toList.length +
      (if !attempt.recorded then 1 else 0) = 1 := by
  obtain ⟨message, answer | answer, outcome | outcome⟩ := attempt <;> rfl

/-- So attempts are counted by what became of them, and none is counted twice. -/
theorem length_eq_fates (made : List Attempt) :
    made.length = made.countP (·.accepted) + (made.filterMap (·.rejection?)).length +
      made.countP fun attempt => !attempt.recorded := by
  induction made with
  | nil => rfl
  | cons attempt made inductionHypothesis =>
    have one := attempt.one_fate
    have head : ([attempt].filterMap (·.rejection?)).length = attempt.rejection?.toList.length := by
      cases found : attempt.rejection? <;> simp [found]
    have whole : ((attempt :: made).filterMap (·.rejection?)).length =
        attempt.rejection?.toList.length + (made.filterMap (·.rejection?)).length := by
      rw [← head, ← List.length_append, ← List.filterMap_append]
      rfl
    rw [whole, List.countP_cons, List.countP_cons, List.length_cons, inductionHypothesis]
    omega

end Attempt

namespace Processor

variable {σ S : Type}

/-- The treatment of one message: an attempt and the record of its answer. These are the very calls
that the processor makes. -/
def treat (processor : Processor σ S) (message : Pending) (world : World σ) : Attempt × World σ :=
  let attempted := (processor.attempt message).run world
  let settled := (processor.record message attempted.1).perform attempted.2
  (⟨message, attempted.1, settled.1⟩, settled.2)

/-- The treatment of messages one after the other, whatever becomes of each of them. -/
def treatAll (processor : Processor σ S) : List Pending → World σ → List Attempt × World σ
  | [], world => ([], world)
  | message :: rest, world =>
    let treated := processor.treat message world
    let others := processor.treatAll rest treated.2
    (treated.1 :: others.1, others.2)

/-- The poll of a cycle. -/
def poll (processor : Processor σ S) : Effect (World σ) Outbox.Error (List Pending) :=
  processor.store.getRetryable processor.config.batchSize processor.config.maxRetries

/-- A whole cycle; one whose poll fails makes no attempt. It gives all that was attempted, where the
processor gives numbers. -/
def cycle (processor : Processor σ S) (world : World σ) : List Attempt × World σ :=
  let polled := processor.poll.perform world
  processor.treatAll (polled.1.toOption.getD []) polled.2

variable (processor : Processor σ S)

theorem run_process (message : Pending) (world : World σ) :
    (processor.process message).run world =
      ((processor.treat message world).1.counted, (processor.treat message world).2) := by
  have delivered : (processor.deliver message).perform world =
      ((processor.treat message world).1.outcome, (processor.treat message world).2) := by
    rw [deliver, Effect.perform_bind, Effect.perform_ofState]
    rfl
  rw [process, StateT.run_bind, Effect.run_outcome, delivered]
  dsimp only [Attempt.counted]
  cases (processor.treat message world).1.outcome <;> rfl

/-- The report on a list of messages counts its attempts, and the world is that of the trace. The
induction is on the list, over all reports that were begun before. -/
theorem run_processAll (messages : List Pending) (report : Report) (world : World σ) :
    (processor.processAll messages report).run world =
      ((processor.treatAll messages world).1.foldl (fun sum attempt => sum.count attempt.counted)
        report, (processor.treatAll messages world).2) := by
  induction messages generalizing report world with
  | nil => rfl
  | cons message rest inductionHypothesis =>
    rw [processAll, StateT.run_bind, run_process]
    exact inductionHypothesis _ _

/-- A cycle reaches the state of its trace, so that what is proved of traces is proved of cycles. -/
theorem perform_processBatch (world : World σ) :
    (processor.processBatch.perform world).2 = (processor.cycle world).2 := by
  have performed : processor.processBatch.perform world = _ :=
    Effect.perform_bind processor.poll _ world
  rw [performed, cycle]
  rcases processor.poll.perform world with ⟨error | messages, polled⟩
  · rfl
  · dsimp only
    rw [Effect.perform_ofState, run_processAll]
    rfl

end Processor

end OutboxRelay.Delivery

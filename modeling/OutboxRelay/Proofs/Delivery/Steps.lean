import OutboxRelay.Proofs.Delivery.Trace
import OutboxRelay.Proofs.Outbox.Memory
import OutboxRelay.Proofs.Site

/-!
# Steps of delivery

What the steps of a delivery cycle do on a site. A cycle polls, and for each message publishes and
then records the answer. No step touches a row of the application, a count of commits or anything of
a message that was added. Publishing touches the bus alone, recording the memory alone, and only the
record of an accepted attempt makes its message processed.
-/

namespace OutboxRelay

namespace Broker.MemoryBus

/-- A kept message carries its event type as a header, where a subscriber finds it. -/
theorem eventType?_messageFor (bus : MemoryBus) (eventType payload : String) :
    (bus.messageFor eventType payload).eventType? = some eventType :=
  Fields.lookup_insert_self _ _ _

/-- An attempt is refused and leaves the kept messages, or is accepted and keeps its message. There
is no third way for it to end. -/
theorem publish_cases (eventType payload : String) (bus : MemoryBus) :
    (∃ error, (bus.publish eventType payload).1 = .error error ∧
      (bus.publish eventType payload).2.published = bus.published) ∨
    (bus.publish eventType payload).1 = .ok () ∧
      (bus.publish eventType payload).2.published =
        bus.published ++ [bus.messageFor eventType payload] := by
  unfold publish
  split
  · next error _ => exact Or.inl ⟨error, rfl, rfl⟩
  · exact Or.inr ⟨rfl, rfl⟩

end Broker.MemoryBus

namespace Delivery

open Outbox (Memory Pending)
open Outbox.Memory (Marks marks_refl)
open Rehearsal (Site)

/-- What delivery leaves of a world, apart from the bus. Only marks on messages change, and those
that make a message processed only on the messages named. -/
structure Delivers (mayMark : Identifier → Prop) (before after : World Site) : Prop where
  ids : after.ids = before.ids
  clock : after.clock = before.clock
  drawn : after.drawn = before.drawn
  memory : Marks mayMark before.state.memory after.state.memory

variable {mayMark : Identifier → Prop}

theorem delivers_refl (world : World Site) : Delivers mayMark world world :=
  ⟨rfl, rfl, rfl, marks_refl _⟩

/-- More messages may be marked than have to be. -/
theorem Delivers.imp {mayMarkToo : Identifier → Prop} {before after : World Site}
    (delivers : Delivers mayMark before after) (allow : ∀ id, mayMark id → mayMarkToo id) :
    Delivers mayMarkToo before after :=
  ⟨delivers.ids, delivers.clock, delivers.drawn, delivers.memory.imp allow⟩

/-- Two steps of delivery are one, if the same messages may be marked in both. -/
theorem Delivers.trans {before middle after : World Site} (first : Delivers mayMark before middle)
    (second : Delivers mayMark middle after) : Delivers mayMark before after :=
  ⟨second.ids.trans first.ids, second.clock.trans first.clock, second.drawn.trans first.drawn,
    first.memory.trans second.memory⟩

/-- Delivery draws no identifier and changes none of those to come, so that it counts for nothing
towards the identifiers that a run draws. -/
theorem Delivers.passes {before after : World Site} (delivers : Delivers mayMark before after)
    (draws : Nat) : Site.Passes draws before after := by
  refine ⟨delivers.ids, delivers.clock, Nat.le_of_eq delivers.drawn.symm, ?_⟩
  rw [delivers.drawn]
  exact Nat.le_add_right _ _

theorem delivers_transitive (before middle after : World Site)
    (first : Delivers mayMark before middle) (second : Delivers mayMark middle after) :
    Delivers mayMark before after :=
  first.trans second

/-! ### Single steps -/

/-- An attempt is one call of the bus, with the type and the content of the message. -/
theorem run_attempt (config : Config) (message : Pending) (world : World Site) :
    ((Site.processor config).attempt message).run world =
      ((world.state.bus.publish message.eventType message.content).1,
        world.withState (world.state.setBus
          (world.state.bus.publish message.eventType message.content).2)) := rfl

/-- That an attempt was accepted is recorded by one mark, and a failure to record it is reported. -/
theorem perform_record_accepted (config : Config) (message : Pending) (world : World Site) :
    ((Site.processor config).record message (.ok ())).perform world =
      (((Site.store.markAsProcessed message.id).perform world).1.map fun _ => .published,
        ((Site.store.markAsProcessed message.id).perform world).2) :=
  Effect.perform_bind_pure _ _ world

/-- That an attempt failed is recorded by one mark, given up or not. Both ways of recording it go to
the same call of the store, with different texts. -/
theorem perform_record_rejected (config : Config) (message : Pending) (error : Broker.Error)
    (world : World Site) :
    ∃ text outcome, ((Site.processor config).record message (.error error)).perform world =
      (((Site.store.markAsFailed message.id text
          (nextRetryCount message.retryCount)).perform world).1.map fun _ => outcome,
        ((Site.store.markAsFailed message.id text
          (nextRetryCount message.retryCount)).perform world).2) := by
  change ∃ text outcome,
    ((Site.processor config).recordFailure message error.message).perform world = _
  unfold Processor.recordFailure
  dsimp only
  split
  · exact ⟨_, .exhausted, Effect.perform_bind_pure _ _ world⟩
  · exact ⟨_, .retried, Effect.perform_bind_pure _ _ world⟩

/-- Recording an answer leaves the bus alone, and marks the message as processed only if the answer
was that it was accepted. -/
theorem record_delivers (config : Config) (message : Pending) (answer : Except Broker.Error Unit)
    (world : World Site) :
    let after := (((Site.processor config).record message answer).perform world).2
    Delivers (fun id => answer = .ok () ∧ id = message.id) world after ∧
      after.state.bus = world.state.bus := by
  intro after
  cases answer with
  | ok =>
    have recorded := perform_record_accepted config message world
    rw [Site.perform_markAsProcessed] at recorded
    rw [show after = _ from congrArg Prod.snd recorded]
    split
    · refine ⟨⟨rfl, rfl, rfl, ?_⟩, rfl⟩
      exact (Outbox.Memory.marks_markAsProcessed message.id _ _).imp fun _ same => ⟨rfl, same⟩
    · exact ⟨⟨rfl, rfl, rfl, marks_refl _⟩, rfl⟩
  | error error =>
    obtain ⟨text, outcome, recorded⟩ := perform_record_rejected config message error world
    rw [Site.perform_markAsFailed] at recorded
    rw [show after = _ from congrArg Prod.snd recorded]
    split
    · exact ⟨⟨rfl, rfl, rfl, Outbox.Memory.marks_markAsFailed _ _ _ _⟩, rfl⟩
    · exact ⟨⟨rfl, rfl, rfl, marks_refl _⟩, rfl⟩

/-- A poll gives parts of messages of the outbox and leaves the bus alone, whether it succeeds or
fails. -/
theorem fetch_delivers (limit ceiling : Int) (world : World Site) :
    let polled := (Site.store.getRetryable limit ceiling).perform world
    Delivers (fun _ => False) world polled.2 ∧ polled.2.state.bus = world.state.bus ∧
      ∀ messages, polled.1 = .ok messages → ∀ pending ∈ messages,
        ∃ message ∈ world.state.memory.outbox, message.toPending = pending := by
  intro polled
  have performed : polled = _ := Site.perform_getRetryable limit ceiling world
  rw [performed]
  refine ⟨⟨rfl, rfl, rfl, Outbox.Memory.marks_poll _ _ _⟩, rfl, ?_⟩
  intro messages given
  exact Outbox.Memory.mem_of_poll given

/-- Giving a message its retries back changes no more than a failed attempt does, and makes no
message processed. -/
theorem reset_delivers (id : Identifier) (world : World Site) :
    let after := ((Site.store.resetRetries id).perform world).2
    Delivers (fun _ => False) world after ∧ after.state.bus = world.state.bus :=
  ⟨⟨rfl, rfl, rfl, Outbox.Memory.marks_resetRetries id _⟩, rfl⟩

/-! ### Whole cycles -/

/-- The treatment of a message is an attempt and the record of its answer. -/
theorem state_process (config : Config) (message : Pending) (world : World Site) :
    (((Site.processor config).process message).run world).2 =
      let attempted := ((Site.processor config).attempt message).run world
      (((Site.processor config).record message attempted.1).perform attempted.2).2 :=
  congrArg Prod.snd ((Site.processor config).run_process message world)

/-- So the treatment of a message is delivery, whatever its answer was. -/
theorem process_delivers (config : Config) (message : Pending) (world : World Site) :
    Delivers (fun _ => True) world (((Site.processor config).process message).run world).2 := by
  rw [state_process, run_attempt]
  have recorded := (record_delivers config message
    (world.state.bus.publish message.eventType message.content).1
    (world.withState (world.state.setBus
      (world.state.bus.publish message.eventType message.content).2))).1
  exact ⟨recorded.ids, recorded.clock, recorded.drawn, recorded.memory.imp fun _ _ => trivial⟩

/-- The treatment of a list of messages, by induction on the list. -/
theorem processAll_delivers (config : Config) (messages : List Pending) (report : Report)
    (world : World Site) :
    Delivers (fun _ => True) world
      (((Site.processor config).processAll messages report).run world).2 := by
  induction messages generalizing report world with
  | nil => exact delivers_refl world
  | cons message rest inductionHypothesis =>
    exact (process_delivers config message world).trans (inductionHypothesis _ _)

/-- A whole cycle, whether its poll fails or not. -/
theorem processBatch_delivers (config : Config) (world : World Site) :
    Delivers (fun _ => True) world ((Site.processor config).processBatch.perform world).2 := by
  refine Effect.Respects.bind delivers_transitive ?_ ?_ world
  · intro world
    exact (fetch_delivers _ _ world).1.imp fun _ => False.elim
  · intro messages world
    exact processAll_delivers config messages _ world

end Delivery

end OutboxRelay

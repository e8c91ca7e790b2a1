import OutboxRelay.Order.Publication
import OutboxRelay.Proofs.Effect
import OutboxRelay.Proofs.Envelope

/-!
# What is published of orders

Every fact of an order has an integration event: the envelope of a fact leaves no named field empty,
so its conversion never fails. The message of a fact carries that envelope, and the envelope is read
back from the message's content if the fact could have happened.
-/

namespace OutboxRelay

/-- The envelope in the content of a message, if the content is the text of one. -/
def Outbox.Message.envelope? (message : Outbox.Message) : Option (Envelope Json) :=
  Envelope.ofText? message.content

namespace Order

/-- A fact that could have happened: at a time that a clock can show, and at a total that is a word
of sixty-four bits. -/
def Happens : (kind : Kind) → EventFamily.Fact kind → Prop
  | .placed, fact =>
    (Placed.occurredOn fact).IsValid ∧
      (Text.IntegerBounds.signed 64).admits (Placed.totalCents fact) = true
  | .cancelled, fact => (Cancelled.occurredOn fact).IsValid

/-- The message that is added to the outbox for a fact. It has the identifier of its own envelope,
and no attempts behind it. -/
def messageOf (id : Identifier) (kind : Kind) (fact : EventFamily.Fact kind) : Outbox.Message :=
  .fresh id (integrationType kind) (envelope id kind fact).toJson.compact
    (EventFamily.occurredOn kind fact)

/-- An identifier is never written as the empty text, whatever it is. -/
theorem toText_ne_empty (id : Identifier) : id.toText ≠ "" := by
  intro empty
  have read := Identifier.ofText?_toText id
  rw [empty] at read
  cases read

/-- The envelope of a fact leaves no named field empty. Module, version and aggregate are constants
that say something, and an identifier always has a text. -/
theorem named_envelope (id : Identifier) (kind : Kind) (fact : EventFamily.Fact kind) :
    (envelope id kind fact).sourceModule ≠ "" ∧ (envelope id kind fact).sourceVersion ≠ "" ∧
      (envelope id kind fact).aggregateType ≠ "" ∧ (envelope id kind fact).aggregateId ≠ "" := by
  have module : sourceModule ≠ "" := by decide
  have version : sourceVersion ≠ "" := by decide
  have aggregate : aggregateName ≠ "" := by decide
  exact ⟨module, version, aggregate, by cases kind <;> exact toText_ne_empty _⟩

/-- The conversion of a fact never fails, because its envelope passes validation whatever the
payload says. -/
theorem integrationEvent_eq (id : Identifier) (kind : Kind) (fact : EventFamily.Fact kind) :
    integrationEvent id kind fact = .ok {
      id := id
      eventType := integrationType kind
      content := (envelope id kind fact).toJson.compact
      occurredOn := EventFamily.occurredOn kind fact } := by
  rw [integrationEvent, IntegrationEvent.ofEnvelope,
    Envelope.validate_toJson (named_envelope id kind fact)]
  rfl

/-- Converting a fact draws one identifier, which is that of the event and of its envelope alike. -/
theorem perform_convert {σ : Type} (kind : Kind) (fact : EventFamily.Fact kind) (world : World σ) :
    (convert kind fact).perform world =
      (.ok ⟨world.ids world.drawn, integrationType kind,
          (envelope (world.ids world.drawn) kind fact).toJson.compact,
          EventFamily.occurredOn kind fact⟩,
        { world with drawn := world.drawn + 1 }) := by
  rw [convert, Effect.perform_bind, World.perform_drawId]
  simp only [integrationEvent_eq]
  rfl

/-- No name is given twice in the payload of an order that was placed. -/
theorem Placed.nodup_fields (fact : Placed) : (fact.fields.map Prod.fst).Nodup := by
  simp [fields]

/-- No name is given twice in the payload of an order that was cancelled. -/
theorem Cancelled.nodup_fields (fact : Cancelled) : (fact.fields.map Prod.fst).Nodup := by
  simp [fields]

/-- The payload of a fact is a JSON value that is read back from its text as it was. -/
theorem plain_payload {kind : Kind} {fact : EventFamily.Fact kind} (happens : Happens kind fact) :
    (payload kind fact).Plain := by
  cases kind with
  | placed =>
    refine Json.plain_ofFields ?_
    simp only [Placed.fields, List.forall_mem_cons]
    exact ⟨.text _, .text _, .integer _ (Or.inl happens.2), .text _,
      fun field none => absurd none List.not_mem_nil⟩
  | cancelled =>
    refine Json.plain_ofFields ?_
    simp only [Cancelled.fields, List.forall_mem_cons]
    exact ⟨.text _, .text _, .text _, fun field none => absurd none List.not_mem_nil⟩

/-- The payload of an order that was placed carries its customer and its total. -/
theorem get?_placed (fact : Placed) :
    fact.payload.get? "customer_id" = some (.text fact.customerId) ∧
      fact.payload.get? "total_cents" = some (.integer fact.totalCents) :=
  ⟨(Json.get?_ofFields fact.nodup_fields "customer_id").trans rfl,
    (Json.get?_ofFields fact.nodup_fields "total_cents").trans rfl⟩

/-- The payload of an order that was cancelled carries the reason. -/
theorem get?_cancelled (fact : Cancelled) :
    fact.payload.get? "reason" = some (.text fact.reason) :=
  (Json.get?_ofFields fact.nodup_fields "reason").trans rfl

/-- Whatever happened, happened at a time that can be written. -/
theorem Happens.isValid {kind : Kind} {fact : EventFamily.Fact kind} (happens : Happens kind fact) :
    (EventFamily.occurredOn kind fact).IsValid := by
  cases kind with
  | placed => exact happens.1
  | cancelled => exact happens

/-- The envelope of a fact is read back from the content of its message, if the fact could have
happened: a time that cannot be written would not be read back. -/
theorem envelope?_messageOf (id : Identifier) {kind : Kind} {fact : EventFamily.Fact kind}
    (happens : Happens kind fact) :
    (messageOf id kind fact).envelope? = some (envelope id kind fact) :=
  Envelope.ofText?_compact happens.isValid (plain_payload happens)

variable {σ S : Type}

/-- Every event of an order has one handler, which adds the message of its kind. -/
theorem handlers_dispatcher (store : Outbox.Store σ S) (kind : Kind) :
    (dispatcher store).handlers kind =
      [IntegrationEvent.outboxHandler store (convert kind)] := by
  cases kind <;> rfl

/-- Handing on an event of an order adds its message, under the next identifier, and does nothing
else. If adding fails, the identifier has been drawn all the same. -/
theorem perform_dispatch (store : Outbox.Store σ S) (event : Event) (world : World σ)
    (session : S) :
    ((dispatcher store).dispatch [event]).perform (world, session) =
      (store.add (messageOf (world.ids world.drawn) event.kind event.fact)).perform
        ({ world with drawn := world.drawn + 1 }, session) := by
  have handled : (dispatcher store).dispatch [event] =
      IntegrationEvent.outboxHandler store (convert event.kind) event.fact := by
    simp only [Dispatcher.dispatch, Dispatcher.dispatchOne, handlers_dispatcher,
      List.forM_eq_forM, List.forM_cons, List.forM_nil, bind_pure_unit]
  rw [handled, IntegrationEvent.outboxHandler, Effect.perform_bind, World.perform_outside,
    perform_convert]
  rfl

end Order

end OutboxRelay

import OutboxRelay.Proofs.Order.Consistency

/-!
# Converted facts are received

A consumer of the events of a kind reads the content as JSON, validates it and decodes it as an
envelope around a payload of that kind. Whatever was converted is received: the conversion never
fails, and the content is received as the envelope of the fact itself, whatever characters its texts
have and however extreme its total is. So no two facts have the same content, and the row that is
put in the outbox says of itself what its content says.
-/

namespace OutboxRelay.Order

open Outbox (Memory Session)
open Rehearsal (Site)

/-! ### Payloads -/

/-- What the payload of an order that was placed must look like to a consumer: no field is left out,
and each has the type in which the payload writes it. -/
def Placed.rules : List Json.FieldRule := [
  .required "order_id" Json.Decoder.identifier,
  .required "customer_id" Json.Decoder.text,
  .required "total_cents" Json.Decoder.integer64,
  .required "placed_at" Json.Decoder.instant]

/-- Decode the payload of an order that was placed. The time at which it was placed is the one at
which the fact occurred. -/
def Placed.ofPayload : Json.Decoder Placed := fun value => do
  let fields ← Json.recordFields "struct OrderPlacedPayload" rules value
  return {
    orderId := ← Json.requiredField "order_id" Json.Decoder.identifier fields
    customerId := ← Json.requiredField "customer_id" Json.Decoder.text fields
    totalCents := ← Json.requiredField "total_cents" Json.Decoder.integer64 fields
    occurredOn := ← Json.requiredField "placed_at" Json.Decoder.instant fields }

/-- What the payload of an order that was cancelled must look like to a consumer. -/
def Cancelled.rules : List Json.FieldRule := [
  .required "order_id" Json.Decoder.identifier,
  .required "reason" Json.Decoder.text,
  .required "cancelled_at" Json.Decoder.instant]

/-- Decode the payload of an order that was cancelled. Who was the customer is not among its
fields. -/
def Cancelled.ofPayload : Json.Decoder Cancelled := fun value => do
  let fields ← Json.recordFields "struct OrderCancelledPayload" rules value
  return {
    orderId := ← Json.requiredField "order_id" Json.Decoder.identifier fields
    reason := ← Json.requiredField "reason" Json.Decoder.text fields
    occurredOn := ← Json.requiredField "cancelled_at" Json.Decoder.instant fields }

/-- Decode the payload of a fact. A consumer has to know the kind, which it knows by the type of the
event. -/
def ofPayload : (kind : Kind) → Json.Decoder (EventFamily.Fact kind)
  | .placed => Placed.ofPayload
  | .cancelled => Cancelled.ofPayload

/-- The payload of an order that was placed is decoded as that fact. The total has to fit a word of
sixty-four bits and the time has to be one that can be written; texts may be anything. -/
theorem Placed.ofPayload_payload {fact : Placed} (happens : Happens .placed fact) :
    ofPayload fact.payload = .ok fact := by
  obtain ⟨time, total⟩ := happens
  have once := fact.nodup_fields
  have given : List.Forall₂ Json.FieldRule.Accepts rules fact.fields := by
    refine .cons ?_ (.cons ?_ (.cons ?_ (.cons ?_ .nil)))
    · exact Json.accepts_required _ (Json.decode_identifier fact.orderId)
    · exact Json.accepts_required _ rfl
    · exact Json.accepts_required _ (Json.decode_integer64 total)
    · exact Json.accepts_required _ (Json.decode_instant time)
  rw [ofPayload, payload, Json.recordFields_of_accepts _ given once]
  simp only [bind, Except.bind,
    Json.requiredField_ofList once "order_id" _ rfl (Json.decode_identifier fact.orderId),
    Json.requiredField_ofList once "customer_id" Json.Decoder.text rfl rfl,
    Json.requiredField_ofList once "total_cents" _ rfl (Json.decode_integer64 total),
    Json.requiredField_ofList once "placed_at" _ rfl (Json.decode_instant time)]
  rfl

/-- The payload of an order that was cancelled is decoded as that fact, if the time can be
written. -/
theorem Cancelled.ofPayload_payload {fact : Cancelled} (happens : Happens .cancelled fact) :
    ofPayload fact.payload = .ok fact := by
  have once := fact.nodup_fields
  have given : List.Forall₂ Json.FieldRule.Accepts rules fact.fields := by
    refine .cons ?_ (.cons ?_ (.cons ?_ .nil))
    · exact Json.accepts_required _ (Json.decode_identifier fact.orderId)
    · exact Json.accepts_required _ rfl
    · exact Json.accepts_required _ (Json.decode_instant happens)
  rw [ofPayload, payload, Json.recordFields_of_accepts _ given once]
  simp only [bind, Except.bind,
    Json.requiredField_ofList once "order_id" _ rfl (Json.decode_identifier fact.orderId),
    Json.requiredField_ofList once "reason" Json.Decoder.text rfl rfl,
    Json.requiredField_ofList once "cancelled_at" _ rfl (Json.decode_instant happens)]
  rfl

/-- The payload of a fact is decoded as the fact. -/
theorem ofPayload_payload {kind : Kind} {fact : EventFamily.Fact kind}
    (happens : Happens kind fact) : ofPayload kind (payload kind fact) = .ok fact := by
  cases kind with
  | placed => exact Placed.ofPayload_payload happens
  | cancelled => exact Cancelled.ofPayload_payload happens

/-! ### Contents -/

/-- What a consumer of the events of a kind receives in a content, provided that it is valid. A
content that fails any of the three steps gives nothing. -/
def received (kind : Kind) (content : String) : Option (Envelope (EventFamily.Fact kind)) := do
  let value ← Json.ofText? content
  (Envelope.validate value).toOption
  (Envelope.ofJson (ofPayload kind) value).toOption

section

variable {kind : Kind} {fact : EventFamily.Fact kind}

/-- The content of a converted fact is received as the envelope of the fact itself. The compact text
is read back as the JSON that it was printed from, this passes validation, and the decoder of the
envelope is given a payload that its own decoder understands. -/
theorem received_content (id : Identifier) (happens : Happens kind fact) :
    received kind (envelope id kind fact).toJson.compact = some {
      eventId := id
      occurredAt := EventFamily.occurredOn kind fact
      sourceModule
      sourceVersion
      aggregateType := aggregateName
      aggregateId := (subject kind fact).toText
      payload := fact } := by
  have read : Json.ofText? (envelope id kind fact).toJson.compact =
      some (envelope id kind fact).toJson :=
    Json.ofText?_compact (Envelope.plain_toJson (plain_payload happens))
  have valid : Envelope.validate (envelope id kind fact).toJson = .ok () :=
    Envelope.validate_toJson (named_envelope id kind fact)
  have decoded : Envelope.ofJson (ofPayload kind) (envelope id kind fact).toJson =
      .ok ((envelope id kind fact).mapPayload fun _ => fact) :=
    Envelope.ofJson_toJson_around happens.isValid (ofPayload_payload happens)
  rw [received, read]
  simp only [Option.bind_eq_bind, Option.bind_some, valid, decoded]
  cases kind <;> rfl

/-- Equal contents come from one identifier and equal facts, since each content is received as the
envelope that holds both. -/
theorem eq_of_content {id other : Identifier} {second : EventFamily.Fact kind}
    (happens : Happens kind fact) (also : Happens kind second)
    (same : (envelope id kind fact).toJson.compact = (envelope other kind second).toJson.compact) :
    id = other ∧ fact = second := by
  have receivedOnce := received_content id happens
  rw [same, received_content other also] at receivedOnce
  injection receivedOnce with equal
  injection equal with sameId _ _ _ _ _ _ _ samePayload
  exact ⟨sameId.symm, samePayload.symm⟩

end

/-- Converting never fails and loses nothing. The event has the identifier that was drawn and the
time of the fact. Its content is valid and is received as the envelope of the fact. Contents that
are equal were converted from equal facts under one identifier. The row that is put in the outbox
has the identifier and the time that are received from its content.

Proof: what a conversion gives is known in full (`perform_convert`), and its content is received by
`received_content`, from which it follows that no two facts share a content (`eq_of_content`). The
row is the one that the dispatcher of the service stages for the event, whatever is staged
before. -/
theorem conversion_loses_nothing (kind : Kind) :
    (sourceModule ≠ "" ∧ sourceVersion ≠ "" ∧ aggregateName ≠ "") ∧
    (∀ (fact : EventFamily.Fact kind) {σ : Type} (world : World σ), ∃ event,
      (convert kind fact).perform world = (.ok event, { world with drawn := world.drawn + 1 }) ∧
        event.id = world.ids world.drawn ∧
        event.occurredOn = EventFamily.occurredOn kind fact ∧
        event.eventType = integrationType kind ∧
        (Happens kind fact → received kind event.content = some {
          eventId := event.id
          occurredAt := event.occurredOn
          sourceModule
          sourceVersion
          aggregateType := aggregateName
          aggregateId := (subject kind fact).toText
          payload := fact })) ∧
    (∀ (first second : EventFamily.Fact kind), Happens kind first → Happens kind second →
      ∀ {σ τ : Type} (world : World σ) (other : World τ) (one two : IntegrationEvent),
        ((convert kind first).perform world).1 = .ok one →
        ((convert kind second).perform other).1 = .ok two →
        one.content = two.content → first = second ∧ one = two) ∧
    ∀ (fact : EventFamily.Fact kind), Happens kind fact →
      ∀ (world : World Memory) (session : Session), ∃ reached row carried,
        ((dispatcher Memory.store).dispatch [⟨kind, fact⟩]).perform (world, session) =
          (.ok (), { world with drawn := world.drawn + 1 }, reached) ∧
        reached.rows = session.rows ∧ reached.outbox = session.outbox ++ [row] ∧
        received kind row.content = some carried ∧
        carried.eventId = row.id ∧ carried.occurredAt = row.occurredOn ∧
        ∀ before after : Memory, before.commit reached = (.ok (), after) →
          after.outbox = before.outbox ++ session.outbox ++ [row] := by
  refine ⟨by decide, ?_, ?_, ?_⟩
  · intro fact σ world
    exact ⟨_, perform_convert kind fact world, rfl, rfl, rfl, received_content _⟩
  · intro first second firstHappens secondHappens σ τ world other one two oneGiven twoGiven same
    rw [perform_convert] at oneGiven twoGiven
    cases oneGiven
    cases twoGiven
    obtain ⟨sameId, rfl⟩ := eq_of_content firstHappens secondHappens same
    exact ⟨rfl, by rw [sameId]⟩
  · intro fact happens world session
    refine ⟨_, messageOf (world.ids world.drawn) kind fact, _,
      perform_dispatch Memory.store ⟨kind, fact⟩ world session, rfl, rfl,
      received_content _ happens, rfl, rfl, ?_⟩
    intro before after accepted
    rw [Memory.eq_apply_of_commit accepted, List.append_assoc]
    rfl

/-- A fact at the lowest total there is, before the first second, with texts of all kinds. -/
def oddFact : Placed where
  orderId := ⟨0xffff⟩
  customerId := " \x00\t\"\\ Zoë \u2028 "
  totalCents := -9223372036854775808
  occurredOn := ⟨-1, 1999999999⟩

/-- It is received as it is, from the event and from the row of the outbox, and no other fact is. -/
theorem conversion_loses_nothing_oddFact :
    Happens .placed oddFact ∧
      (∃ event, ((convert .placed oddFact).perform Site.quietWorld).1 = .ok event ∧
        (received .placed event.content).map (·.payload) = some oddFact ∧
        ∀ (fact : Placed) (other : IntegrationEvent), Happens .placed fact →
          ((convert .placed fact).perform Site.quietWorld).1 = .ok other →
          event.content = other.content → oddFact = fact) ∧
      ∃ reached row carried,
        ((dispatcher Memory.store).dispatch [placedEvent oddFact]).perform
            (Site.quietWorld.withState {}, {}) = (.ok (), reached) ∧
          reached.2.outbox = [row] ∧ received .placed row.content = some carried ∧
          carried.eventId = row.id := by
  have happens : Happens .placed oddFact := ⟨⟨by decide, Or.inr (by decide)⟩, by decide⟩
  obtain ⟨_, converts, differ, rows⟩ := conversion_loses_nothing .placed
  obtain ⟨event, performed, _, _, _, carries⟩ := converts oddFact Site.quietWorld
  have given := congrArg Prod.fst performed
  obtain ⟨_, row, carried, added, _, put, read, agrees, _⟩ :=
    rows oddFact happens (Site.quietWorld.withState {}) {}
  refine ⟨happens, ⟨event, given, ?_, ?_⟩, _, row, carried, added, put, read, agrees⟩
  · rw [carries happens]
    rfl
  · intro fact other also converted same
    exact (differ oddFact fact happens also _ _ event other given converted same).1

end OutboxRelay.Order

import OutboxRelay.Proofs.Order.Record
import OutboxRelay.Proofs.Outbox.Memory
import OutboxRelay.Proofs.UnitOfWork.Atomicity

/-!
# Stored orders are found again

A session writes an order and whatever else: rows under other keys and messages. Once the session is
committed, the order is found as it was written, without its pending events. What stands under a key
is the last row written there, so that rows staged before the order do not matter at all, and rows
staged after it only if they name its key.

The table may hold rows that no order was ever written to. Whatever order is found there has a row
of its own, which gives the same order, and a row that gives no order is reported as corrupt.
-/

namespace OutboxRelay.Order

open Outbox (InSession Memory Message Session)
open Rehearsal (Site)
open UnitOfWork (lastWrite? lastWrite?_append)

/-- What a session stages besides an order. Nothing is said of the rows: they may belong to any
table, and need not be of any order. -/
inductive Aside where
  /-- A row of any table. -/
  | put (name key : String) (row : Json)
  /-- A message. -/
  | add (message : Message)

namespace Aside

/-- Stage it within a session of the store in memory, as a client of the store would. -/
def stage : Aside → InSession Memory Session Unit
  | put name key row => .ofState fun (world, session) => ((), world, session.putRow name key row)
  | add message => Memory.store.add message

/-- The session with it staged last. No other part of the session is touched. -/
def onto (session : Session) : Aside → Session
  | put name key row => session.putRow name key row
  | add message => session.add message

/-- It is no row under the key of an order, so that it cannot replace the row of the order. -/
def Spares (id : Identifier) : Aside → Prop
  | put name key _ => ¬(name = table ∧ key = id.toText)
  | add _ => True

/-- Staging it succeeds and changes the session alone. -/
theorem perform_stage (aside : Aside) (world : World Memory) (session : Session) :
    aside.stage.perform (world, session) = (.ok (), world, aside.onto session) := by
  cases aside <;> rfl

/-- Staging one after the other puts each onto what the ones before it have left. -/
theorem perform_forM_stage (asides : List Aside) (world : World Memory) (session : Session) :
    (asides.forM stage).perform (world, session) = (.ok (), world, asides.foldl onto session) := by
  induction asides generalizing session with
  | nil => rfl
  | cons aside rest inductionHypothesis =>
    exact (Effect.perform_bind_ok (perform_stage aside world session) _).trans
      (inductionHypothesis _)

/-- What spares an order leaves the last row under its key the last one. A message is no row at all,
and a row under another key stands beside it. -/
theorem Spares.lastWrite?_onto {id : Identifier} {aside : Aside} (spares : aside.Spares id)
    (session : Session) :
    lastWrite? table id.toText (onto session aside).rows =
      lastWrite? table id.toText session.rows := by
  cases aside with
  | put name key row =>
    have other : ¬(table = name ∧ id.toText = key) :=
      fun same => spares ⟨same.1.symm, same.2.symm⟩
    rw [onto, Session.putRow, lastWrite?_append]
    simp [lastWrite?, other]
  | add message => rfl

/-- So do all of them one after the other. -/
theorem lastWrite?_foldl {id : Identifier} {asides : List Aside}
    (spared : ∀ aside ∈ asides, aside.Spares id) (session : Session) :
    lastWrite? table id.toText (asides.foldl onto session).rows =
      lastWrite? table id.toText session.rows := by
  induction asides generalizing session with
  | nil => rfl
  | cons aside rest inductionHypothesis =>
    obtain ⟨first, others⟩ := List.forall_mem_cons.mp spared
    rw [List.foldl_cons, inductionHypothesis others, first.lastWrite?_onto]

end Aside

/-- Write an order between other things that a session stages. What comes before it may even be
another row under its key. -/
def persistAmong (change : Change) (order : Order) (front back : List Aside) :
    InSession Memory Session UInt64 := do
  front.forM Aside.stage
  let rows ← memoryStorage.persist change order
  back.forM Aside.stage
  return rows

/-- The session that has an order between other things. -/
def stagedAmong (order : Order) (front back : List Aside) (session : Session) : Session :=
  back.foldl Aside.onto (order.stageIn (front.foldl Aside.onto session))

/-- Writing an order there counts as one row and leaves the world alone, as all of it is only
staged. -/
theorem perform_persistAmong (change : Change) (order : Order) (front back : List Aside)
    (world : World Memory) (session : Session) :
    (persistAmong change order front back).perform (world, session) =
      (.ok 1, world, order.stagedAmong front back session) := by
  have before := Aside.perform_forM_stage front world session
  have written : (memoryStorage.persist change order).perform
      (world, front.foldl Aside.onto session) =
      (.ok 1, world, order.stageIn (front.foldl Aside.onto session)) := rfl
  have behind := Aside.perform_forM_stage back world
    (order.stageIn (front.foldl Aside.onto session))
  rw [persistAmong, Effect.perform_bind_ok before, Effect.perform_bind_ok written,
    Effect.perform_bind_ok behind]
  rfl

/-- The last row under the key of the order is the order's own, whatever was staged before it. What
is staged after it spares the key. -/
theorem lastWrite?_stagedAmong {order : Order} (front : List Aside) {back : List Aside}
    (spared : ∀ aside ∈ back, aside.Spares order.id) (session : Session) :
    lastWrite? table order.id.toText (order.stagedAmong front back session).rows =
      some order.toRecord.toJson := by
  rw [stagedAmong, Aside.lastWrite?_foldl spared, stageIn, Session.putRow, lastWrite?_append]
  simp [lastWrite?]

/-! ### Finding -/

theorem perform_findInMemory (id : Identifier) (world : World Memory) :
    (memoryStorage.find id).perform world = (findIn world.state id, world) := rfl

/-- A committed order is found as it was written, without its pending events. Of the rows under one
key a commit keeps the last one, and this one is decoded as the record that it was written from. -/
theorem find_stagedAmong {order : Order} (storable : order.toRecord.IsStorable)
    (front : List Aside) {back : List Aside} (spared : ∀ aside ∈ back, aside.Spares order.id)
    (session : Session) {world after : World Memory}
    (committed : (memoryStorage.store.commit (order.stagedAmong front back session)).perform world =
      (.ok (), after)) :
    (memoryStorage.find order.id).perform after = (.ok (some order.clearPending), after) := by
  have answered := congrArg Prod.fst committed
  have reached := congrArg (fun done => done.2.state) committed
  have applied : after.state = world.state.apply (order.stagedAmong front back session) :=
    Memory.eq_apply_of_commit (Prod.ext answered reached)
  have stands : after.state.rows table order.id.toText = some order.toRecord.toJson := by
    rw [applied, UnitOfWork.rows_apply, lastWrite?_stagedAmong front spared]
    rfl
  rw [perform_findInMemory, findIn_row stands, ofRow_toJson order.id storable]
  rfl

/-- Orders are found again. An order that a session wrote among other things, as a new or a changed
one, is found once the session is committed. An order that is found in whatever row is the order of
its own row. A row that is not decoded as an order with a known status is reported as corrupt, and
any other gives an order.

Proof: a commit leaves under a key the last row that was staged there, which is the order's own
(`lastWrite?_stagedAmong`), and a row is read back as the record that it was written from. The other
two parts hold of any row: whatever is decoded from a row can be stored, and the decoder and the
name of the status are all that looking for an order can fail at. -/
theorem orders_found_again :
    (∀ (change : Change) (order : Order) (front back : List Aside) (begun : World Memory)
        (session : Session), order.toRecord.IsStorable →
      (∀ aside ∈ back, aside.Spares order.id) →
      ∃ staged, (persistAmong change order front back).perform (begun, session) =
          (.ok 1, begun, staged) ∧
        ∀ world after, (memoryStorage.store.commit staged).perform world = (.ok (), after) →
          (memoryStorage.find order.id).perform after = (.ok (some order.clearPending), after)) ∧
    (∀ (id : Identifier) (world : World Memory) (order : Order),
      (memoryStorage.find id).perform world = (.ok (some order), world) →
      order.pending = [] ∧ Record.ofJson order.toRecord.toJson = .ok order.toRecord ∧
        order.toRecord.toOrder = .ok order) ∧
    ∀ (id : Identifier) (world : World Memory) (row : Json),
      world.state.rows table id.toText = some row →
      (IsOrder row ∧ ∃ order, (memoryStorage.find id).perform world = (.ok (some order), world)) ∨
        (¬IsOrder row ∧ ∃ name reason, Corrupt id row name reason ∧
          (memoryStorage.find id).perform world =
            (.error (.corruptRecord name reason), world)) := by
  refine ⟨?_, ?_, ?_⟩
  · intro change order front back begun session storable spared
    exact ⟨_, perform_persistAmong change order front back begun session,
      fun _ _ => find_stagedAmong storable front spared session⟩
  · intro id world order found
    obtain ⟨row, _, accepted⟩ := exists_row_of_findIn (congrArg Prod.fst found)
    exact ⟨(ofJson_of_ofRow accepted).2, reencoded_of_ofRow accepted⟩
  · intro id world row stands
    rcases findIn_row_cases stands with ⟨proper, order, found⟩ | ⟨foreign, _, _, corrupt, failed⟩
    · exact Or.inl ⟨proper, order, by rw [perform_findInMemory, found]⟩
    · exact Or.inr ⟨foreign, _, _, corrupt, by rw [perform_findInMemory, failed]⟩

/-- A cancelled order without a reason, at the lowest total there is, created by no one and with an
event pending. -/
def oddOrder : Order where
  id := ⟨0xa1⟩
  customerId := " customer\x00 "
  totalCents := -9223372036854775808
  status := .cancelled
  cancelReason := none
  audit := { createdOn := some ⟨0, 999999999⟩, modifiedBy := some "" }
  pending := [placedEvent ⟨⟨0xa1⟩, "customer", 1, ⟨0, 0⟩⟩]

/-- In a table whose rows are no orders it is found after the commit, and not before. -/
theorem orders_found_again_oddOrder :
    let world : World Memory := Site.quietWorld.withState { rows := fun _ _ => some .null }
    (∃ staged after,
      (persistAmong .modified oddOrder [.put table oddOrder.id.toText (.bool true)]
          [.put table "elsewhere" .null, .put "customers" oddOrder.id.toText .null,
            .add (.fresh ⟨0xb2⟩ "orders.order_placed.v1" "{}" ⟨0, 0⟩)]).perform (world, {}) =
        (.ok 1, world, staged) ∧
      (memoryStorage.store.commit staged).perform world = (.ok (), after) ∧
      (memoryStorage.find oddOrder.id).perform after = (.ok (some oddOrder.clearPending), after) ∧
      oddOrder.clearPending.toRecord.toOrder = .ok oddOrder.clearPending) ∧
    ∃ name reason, (memoryStorage.find oddOrder.id).perform world =
      (.error (.corruptRecord name reason), world) := by
  intro world
  have storable : oddOrder.toRecord.IsStorable := by
    refine ⟨by decide, ?_, ?_⟩
    · rintro instant ⟨⟩
      exact ⟨by decide, Or.inl (by decide)⟩
    · rintro instant ⟨⟩
  have spared : ∀ aside ∈ [Aside.put table "elsewhere" .null,
      .put "customers" oddOrder.id.toText .null,
      .add (.fresh ⟨0xb2⟩ "orders.order_placed.v1" "{}" ⟨0, 0⟩)], aside.Spares oddOrder.id := by
    simp only [List.forall_mem_cons, Aside.Spares]
    refine ⟨by decide, by decide, trivial, ?_⟩
    rintro aside ⟨⟩
  obtain ⟨restored, reencoded, reported⟩ := orders_found_again
  constructor
  · obtain ⟨staged, performed, found⟩ := restored .modified oddOrder
      [.put table oddOrder.id.toText (.bool true)] _ world {} storable spared
    have committed : (memoryStorage.store.commit staged).perform world =
        (.ok (), { world with state := world.state.apply staged }) := by
      have clear : world.state.clash? staged = none :=
        List.find?_eq_none.mpr fun _ _ => Bool.false_ne_true
      rw [memoryStorage, Memory.store, World.perform_onState, Effect.perform_ofPair, Memory.commit,
        clear]
      rfl
    have answered := found _ _ committed
    exact ⟨staged, _, performed, committed, answered, (reencoded _ _ _ answered).2.2⟩
  · rcases reported oddOrder.id world .null rfl with
      ⟨⟨_, _, decoded, _⟩, _⟩ | ⟨_, name, reason, _, failed⟩
    · cases decoded
    · exact ⟨name, reason, failed⟩

end OutboxRelay.Order

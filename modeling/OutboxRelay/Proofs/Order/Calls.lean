import OutboxRelay.Proofs.Order.Consistency
import OutboxRelay.Proofs.Order.Restoration

/-!
# Calls of the order service do all or nothing

Nothing is assumed of the table of orders: there may be rows that no order was ever written to. Any
fault may be planned, and identifiers may be drawn twice. A call that fails leaves rows, outbox and
the number of commits as they were. A call that gives an order wrote the row of that order and no
other, put one message about it behind the outbox, and gives what is found from then on.

A row may stand under the key of one identifier and hold the order of another. Cancelling what is
found there writes the row of the order's own identifier.

Cancelling fails for want of an order exactly where looking for it does, whatever the reason.
-/

namespace OutboxRelay.Order

open Outbox (Memory)
open Rehearsal (Site)
open UnitOfWork (Untouched)

/-- What a call that saved an order left behind: the row of that order, and one message about it.
Every other row and every earlier message is as it was. -/
structure Saved (kind : Kind) (order : Order) (before after : Memory) : Prop where
  written : after.rows table order.id.toText = some order.toRecord.toJson
  others : ∀ name key, ¬(name = table ∧ key = order.id.toText) →
    after.rows name key = before.rows name key
  announced : ∃ id fact, subject kind fact = order.id ∧
    after.outbox = before.outbox ++ [messageOf id kind fact]
  commits : after.commits = before.commits + 1
  settled : order.pending = []

/-- A call fails and changes nothing that is committed, or saves an order and gives it. Both halves
are about the same call, so that its answer tells which of them happened. -/
structure AllOrNothing (kind : Kind) (before : World Site)
    (done : Except Error Order × World Site) : Prop where
  failed : ∀ error, done.1 = .error error →
    Untouched before.state.memory done.2.state.memory
  saved : ∀ order, done.1 = .ok order →
    Saved kind order before.state.memory done.2.state.memory
  /-- The order is found from then on, if clocks show times that can be written. -/
  found : (∀ n, (before.clock n).IsValid) → ∀ order, done.1 = .ok order →
    ∀ user, ((siteService user).getOrder order.id).perform done.2 = (.ok order, done.2)

/-! ### All or nothing -/

section

variable {kind : Kind} {order : Order} {draws : Nat} {before after : World Site}

/-- An order that is committed with a message about it is saved: the session that was applied holds
its row and this message, and nothing more. -/
theorem Commits.saved {id : Identifier} {fact : EventFamily.Fact kind}
    (commits : Commits order (messageOf id kind fact) draws before after)
    (about : subject kind fact = order.id) (settled : order.pending = []) :
    Saved kind order before.state.memory after.state.memory := by
  rw [commits.memory]
  constructor
  · rw [rows_apply, if_pos ⟨rfl, rfl⟩]
  · intro name key other
    rw [rows_apply, if_neg other]
  · exact ⟨id, fact, about, rfl⟩
  · rfl
  · exact settled

/-- A saved order is found, under its own identifier and by every user. -/
theorem Saved.found (saved : Saved kind order before.state.memory after.state.memory)
    (storable : order.toRecord.IsStorable) (user : String) :
    ((siteService user).getOrder order.id).perform after = (.ok order, after) := by
  have stored : Stored after.state.memory order := ⟨saved.written, storable, saved.settled⟩
  rw [perform_getOrder, stored.findIn]
  rfl

/-- A call at rest that fails did nothing. The identifiers that it drew belong to no memory. -/
theorem Rests.allOrNothing {error : Error} (rests : Rests draws before after) :
    AllOrNothing kind before (.error error, after) where
  failed _ _ := rests.memory
  saved _ given := by cases given
  found _ _ given := by cases given

/-- A call that saved an order and gives it did all. The order can be read back if the times in it
can be written, which is what is asked of clocks. -/
theorem Saved.allOrNothing (saved : Saved kind order before.state.memory after.state.memory)
    (storable : (∀ n, (before.clock n).IsValid) → order.toRecord.IsStorable) :
    AllOrNothing kind before (.ok order, after) where
  failed _ failed := by cases failed
  saved _ given := by
    cases given
    exact saved
  found valid _ given user := by
    cases given
    exact saved.found (storable valid) user

/-- What a call did that gave an order, with the world that it left as one of its parts. -/
theorem AllOrNothing.exists_saved {done : Except Error Order × World Site}
    (whole : AllOrNothing kind before done) (valid : ∀ n, (before.clock n).IsValid)
    (given : done.1 = .ok order) :
    ∃ after, done = (.ok order, after) ∧
      Saved kind order before.state.memory after.state.memory ∧
      ∀ user, ((siteService user).getOrder order.id).perform after = (.ok order, after) := by
  obtain ⟨answer, after⟩ := done
  cases given
  exact ⟨after, rfl, whole.saved order rfl, whole.found valid order rfl⟩

end

/-- Placing an order does all or nothing. The row is written under an identifier just drawn; if
another row stood there before, it is replaced, and that is all that happens to it. -/
theorem allOrNothing_placeOrder (user customerId : String) {totalCents : Int}
    (total : (Text.IntegerBounds.signed 64).admits totalCents = true) (world : World Site) :
    AllOrNothing .placed world
      (((siteService user).placeOrder customerId totalCents).perform world) := by
  rcases performed : ((siteService user).placeOrder customerId totalCents).perform world with
    ⟨answer, after⟩
  have cases := placeOrder_cases user customerId totalCents world
  rw [performed] at cases
  rcases cases with ⟨error, rfl, rests⟩ | ⟨kept, _, rfl, commits⟩
  · exact rests.allOrNothing
  · exact (commits.saved rfl rfl).allOrNothing fun valid =>
      storable_placedOrder valid user kept total

/-- An order that is found in whatever row can be stored. Its fields were decoded, and what can be
decoded can be written. -/
theorem isStorable_of_findIn {memory : Memory} {id : Identifier} {order : Order}
    (found : findIn memory id = .ok (some order)) : order.toRecord.IsStorable := by
  obtain ⟨row, _, accepted⟩ := exists_row_of_findIn found
  exact Record.isStorable_of_ofJson (ofJson_of_ofRow accepted).1

/-- Cancelling does all or nothing, also if the row that was found belongs to another order. -/
theorem allOrNothing_cancelOrder (user : String) (id : Identifier) (reason : String)
    (world : World Site) :
    AllOrNothing .cancelled world (((siteService user).cancelOrder id reason).perform world) := by
  rcases performed : ((siteService user).cancelOrder id reason).perform world with ⟨answer, after⟩
  have cases := cancelOrder_cases user id reason world
  rw [performed] at cases
  rcases cases with ⟨error, rfl, rests⟩ | ⟨order, kept, found, _, rfl, commits⟩
  · exact rests.allOrNothing
  · exact (commits.saved rfl rfl).allOrNothing fun valid =>
      storable_cancelledOrder valid user kept (isStorable_of_findIn found)

/-! ### Orders that are not there -/

/-- The failures of looking for an order: there is none, or what is stored is none. -/
def Error.OfSearch : Error → Prop
  | .notFound _ | .corruptRecord _ _ => True
  | _ => False

/-- Saving fails for the outbox alone. So none of its failures can be taken for an order that is
missing or corrupt. -/
theorem exists_outbox_of_save {σ S : Type} {service : Service σ S} {change : Change}
    {order : Order} {world : World σ} {error : Error}
    (failed : ((service.save change order).perform world).1 = .error error) :
    ∃ cause, error = .outbox cause := by
  rw [Service.save, Effect.perform_bind, Effect.perform_ofState] at failed
  rcases committed : StateT.run (service.work.commit [⟨change, order⟩]) world with
    ⟨⟨cause | rows, settled⟩, reached⟩
  · rw [committed] at failed
    cases failed
    exact ⟨cause, rfl⟩
  · rw [committed] at failed
    cases failed

/-- A reason is refused for what the order is, or for what the reason is, and never because the
order is missing. -/
theorem not_ofSearch_of_acceptReason {order : Order} {reason : String} {error : Error}
    (refused : order.acceptReason reason = .error error) : ¬error.OfSearch := by
  unfold acceptReason at refused
  split at refused
  · cases refused
    exact not_false
  · dsimp only at refused
    split at refused
    · cases refused
      exact not_false
    · cases refused

/-- Cancelling fails for want of an order exactly where looking for it does, with the same error.
The reason is looked at only after the order was found. -/
theorem cancelOrder_search_iff (user : String) (id : Identifier) (reason : String)
    (world : World Site) {error : Error} (search : error.OfSearch) :
    (((siteService user).cancelOrder id reason).perform world).1 = .error error ↔
      given id (findIn world.state.memory id) = .error error := by
  have answered := perform_getOrder user id world
  cases gives : given id (findIn world.state.memory id) with
  | error other =>
    rw [gives] at answered
    rw [Service.cancelOrder, Effect.perform_bind_error answered]
  | ok order =>
    rw [gives] at answered
    refine ⟨fun failed => ?_, fun failed => by cases failed⟩
    cases accepted : order.acceptReason reason with
    | error other =>
      rw [perform_cancelOrder_refused answered accepted] at failed
      cases failed
      exact absurd search (not_ofSearch_of_acceptReason accepted)
    | ok kept =>
      rw [perform_cancelOrder_accepted answered accepted] at failed
      obtain ⟨cause, rfl⟩ := exists_outbox_of_save failed
      exact search.elim

/-- There is no order where there is no row, and only there. The error names the identifier that was
asked for. -/
theorem given_eq_notFound_iff {memory : Memory} {id name : Identifier} :
    given id (findIn memory id) = .error (.notFound name) ↔
      name = id ∧ memory.rows table id.toText = none := by
  cases stands : memory.rows table id.toText with
  | none =>
    rw [findIn, stands]
    simp [given, eq_comm]
  | some row =>
    rcases findIn_row_cases stands with ⟨_, order, found⟩ | ⟨_, _, _, _, failed⟩
    · simp [found, given]
    · simp [failed, given]

/-- A corrupt row is reported as that, and nothing else is. What is reported is the fault that
decoding the row, or reading its status, has found. -/
theorem given_eq_corruptRecord_iff {memory : Memory} {id : Identifier} {name reason : String} :
    given id (findIn memory id) = .error (.corruptRecord name reason) ↔
      ∃ row, memory.rows table id.toText = some row ∧ Corrupt id row name reason := by
  cases stands : memory.rows table id.toText with
  | none =>
    rw [findIn, stands]
    simp [given]
  | some row =>
    have reads : given id (findIn memory id) = ofRow id row := by
      rw [findIn_row stands]
      cases ofRow id row <;> rfl
    rw [reads, ofRow_eq_error_iff]
    simp

/-! ### Calls -/

/-- Whatever the store holds and whatever fault is planned, a call does all or nothing. Cancelling
finds no order exactly if there is no row, and a corrupt one exactly if the row is no order,
whatever the reason to cancel is.

Proof: a call ends in one of two ways (`placeOrder_cases`, `cancelOrder_cases`), at rest or with one
session committed, and each of these has its own lemma. That the order is found afterwards rests on
its row being read back, which needs a time that can be written. -/
theorem calls_all_or_nothing (user : String) (world : World Site) :
    (∀ (customerId : String) (totalCents : Int64), AllOrNothing .placed world
      (((siteService user).placeOrder customerId totalCents.toInt).perform world)) ∧
    ∀ (id : Identifier) (reason : String),
      let done := ((siteService user).cancelOrder id reason).perform world
      AllOrNothing .cancelled world done ∧
        (∀ name, done.1 = .error (.notFound name) ↔
          name = id ∧ world.state.memory.rows table id.toText = none) ∧
        ∀ name fault, done.1 = .error (.corruptRecord name fault) ↔
          ∃ row, world.state.memory.rows table id.toText = some row ∧
            Corrupt id row name fault := by
  constructor
  · intro customerId totalCents
    exact allOrNothing_placeOrder user customerId (admits_toInt totalCents) world
  · intro id reason done
    refine ⟨allOrNothing_cancelOrder user id reason world, fun name => ?_, fun name fault => ?_⟩
    · rw [← given_eq_notFound_iff]
      exact cancelOrder_search_iff user id reason world trivial
    · rw [← given_eq_corruptRecord_iff]
      exact cancelOrder_search_iff user id reason world trivial

/-- An order whose row stands under the key of another. -/
def strayOrder : Order := (placed ⟨7⟩ "c-1" 500 ⟨0, 0⟩).clearPending

/-- A world with a stray order under one key, and no order under another. -/
def strayWorld : World Site :=
  Site.withMemory
    { rows := fun _ key =>
        if key = Identifier.toText ⟨3⟩ then some strayOrder.toRecord.toJson
        else if key = Identifier.toText ⟨4⟩ then some .null else none }
    Site.quietWorld

/-- The stray order is saved under its own key. What is no order, or not there, is reported even to
who gives no reason. Other orders can be placed beside them. -/
theorem calls_all_or_nothing_strayWorld :
    (∃ order after,
      ((siteService "ann").cancelOrder ⟨3⟩ " late ").perform strayWorld = (.ok order, after) ∧
        order.id = ⟨7⟩ ∧ Saved .cancelled order strayWorld.state.memory after.state.memory ∧
        ((siteService "bob").getOrder order.id).perform after = (.ok order, after)) ∧
    (∃ fault, (((siteService "ann").cancelOrder ⟨4⟩ "").perform strayWorld).1 =
      .error (.corruptRecord (Identifier.toText ⟨4⟩) fault)) ∧
    (((siteService "ann").cancelOrder ⟨5⟩ "").perform strayWorld).1 = .error (.notFound ⟨5⟩) ∧
    ∃ order after,
      ((siteService "ann").placeOrder " c-2 " (Int64.toInt 1)).perform strayWorld =
          (.ok order, after) ∧
        Saved .placed order strayWorld.state.memory after.state.memory := by
  have stands : strayWorld.state.memory.rows table (Identifier.toText ⟨3⟩) =
      some strayOrder.toRecord.toJson := by
    simp [strayWorld]
  have broken : strayWorld.state.memory.rows table (Identifier.toText ⟨4⟩) = some .null := by
    simp [strayWorld, Identifier.toText_injective.eq_iff]
  have missing : strayWorld.state.memory.rows table (Identifier.toText ⟨5⟩) = none := by
    simp [strayWorld, Identifier.toText_injective.eq_iff]
  have storable : strayOrder.toRecord.IsStorable := by
    refine ⟨by decide, ?_, ?_⟩
    · rintro instant ⟨⟩
    · rintro instant ⟨⟩
  have found : findIn strayWorld.state.memory ⟨3⟩ = .ok (some strayOrder) := by
    rw [findIn_row stands, ofRow_toJson _ storable]
    rfl
  obtain ⟨places, cancels⟩ := calls_all_or_nothing "ann" strayWorld
  refine ⟨?_, ?_, ?_, ?_⟩
  · have accepted : strayOrder.acceptReason " late " = .ok "late" := by decide
    have answered : (((siteService "ann").cancelOrder ⟨3⟩ " late ").perform strayWorld).1 =
        .ok (cancelledOrder "ann" "late" strayOrder strayWorld) := by
      rw [perform_cancelOrder "ann" found accepted]
      exact save_ok "ann" .modified (pending_cancelledFor rfl "late" ⟨0, 0⟩) rfl rfl rfl
        List.not_mem_nil
    obtain ⟨after, performed, saved, kept⟩ :=
      (cancels ⟨3⟩ " late ").1.exists_saved valid_quietWorld answered
    exact ⟨_, after, performed, rfl, saved, kept "bob"⟩
  · exact ⟨_, ((cancels ⟨4⟩ "").2.2 _ _).mpr ⟨_, broken, .undecodable rfl⟩⟩
  · exact ((cancels ⟨5⟩ "").2.1 _).mpr ⟨rfl, missing⟩
  · have accepted : acceptCustomer " c-2 " (Int64.toInt 1) = .ok "c-2" := by decide
    have answered : (((siteService "ann").placeOrder " c-2 " (Int64.toInt 1)).perform
        strayWorld).1 = .ok (placedOrder "ann" "c-2" (Int64.toInt 1) strayWorld) := by
      rw [perform_placeOrder accepted]
      exact save_ok "ann" .added rfl rfl rfl rfl List.not_mem_nil
    obtain ⟨after, performed, saved, _⟩ :=
      (places " c-2 " 1).exists_saved valid_quietWorld answered
    exact ⟨_, after, performed, saved⟩

end OutboxRelay.Order

import OutboxRelay.Proofs.Order.Publication
import OutboxRelay.Proofs.Order.Record
import OutboxRelay.Proofs.UnitOfWork.Atomicity

/-!
# Calls of the order service

What placing and cancelling an order do on a site. A call either fails and leaves rows, outbox and
the number of commits as they were, or commits one session that holds the row of the order and the
message of its one event. Identifiers that a failed call drew stay drawn.
-/

namespace OutboxRelay.Order

open Outbox (Memory Message Session)
open Rehearsal (Site)
open UnitOfWork (clocked Untouched)

/-- The service of a site on behalf of a user. All services of a site share its rows and its outbox,
and differ only in the name that they put into audit fields. -/
def siteService (user : String) : Service Site Session := ⟨Site.orders, user⟩

/-- An order under the audit stamp of a commit. -/
def stamped (change : Change) (user : String) (now : Instant) (order : Order) : Order :=
  { order with audit := order.audit.stamp change user now }

/-- The session that commits the row of an order and one message. Whatever the service commits on a
site is a session of this form, so that it never writes a row without a message about it. -/
def sessionOf (order : Order) (message : Message) : Session :=
  ⟨[⟨table, order.id.toText, order.toRecord.toJson⟩], [message]⟩

/-- What a call leaves alone, whatever it does to the memory: the identifiers and times still to
come, and the bus. -/
structure SameSurroundings (before after : World Site) : Prop where
  ids : after.ids = before.ids
  clock : after.clock = before.clock
  bus : after.state.bus = before.state.bus

/-- What a failed call leaves as it was, having drawn no more than some identifiers. Identifiers
that it drew are not given back, so that later calls go on behind them. -/
structure Rests (draws : Nat) (before after : World Site) : Prop
    extends SameSurroundings before after where
  memory : Untouched before.state.memory after.state.memory
  drawn : before.drawn ≤ after.drawn
  few : after.drawn ≤ before.drawn + draws

/-- What a call that commits an order with a message leaves behind, having drawn identifiers. The
memory is given as a whole, and so nothing else can have been written to it. -/
structure Commits (order : Order) (message : Message) (draws : Nat) (before after : World Site) :
    Prop extends SameSurroundings before after where
  memory : after.state.memory = before.state.memory.apply (sessionOf order message)
  drawn : after.drawn = before.drawn + draws

theorem rests_refl (draws : Nat) (world : World Site) : Rests draws world world :=
  ⟨⟨rfl, rfl, rfl⟩, ⟨rfl, rfl, rfl⟩, Nat.le_refl _, Nat.le_add_right _ _⟩

/-- A call that only drew identifiers before it came to rest rests as well. -/
theorem Rests.behind {first second : Nat} {world begun after : World Site}
    (rests : Rests second begun after) (same : SameSurroundings world begun)
    (memory : begun.state.memory = world.state.memory) (drawn : begun.drawn = world.drawn + first) :
    Rests (first + second) world after where
  ids := rests.ids.trans same.ids
  clock := rests.clock.trans same.clock
  bus := rests.bus.trans same.bus
  memory := memory ▸ rests.memory
  drawn := Nat.le_trans (drawn ▸ Nat.le_add_right _ _) rests.drawn
  few := by rw [← Nat.add_assoc, ← drawn]; exact rests.few

/-- A call that drew identifiers and then committed has committed. -/
theorem Commits.behind {order : Order} {message : Message} {first second : Nat}
    {world begun after : World Site} (commits : Commits order message second begun after)
    (same : SameSurroundings world begun) (memory : begun.state.memory = world.state.memory)
    (drawn : begun.drawn = world.drawn + first) :
    Commits order message (first + second) world after where
  ids := commits.ids.trans same.ids
  clock := commits.clock.trans same.clock
  bus := commits.bus.trans same.bus
  memory := memory ▸ commits.memory
  drawn := by rw [commits.drawn, drawn, Nat.add_assoc]

/-! ### Saving -/

/-- A memory accepts a message under an identifier that is not taken, unless it was told to fail. -/
theorem commit_sessionOf {memory : Memory} (order : Order) {message : Message}
    (accepts : memory.failNextCommit = false) (fresh : message.id ∉ memory.outbox.map (·.id)) :
    memory.commit (sessionOf order message) = (.ok (), memory.apply (sessionOf order message)) := by
  have clash : memory.clash? (sessionOf order message) = none := by
    rw [Memory.clash?, List.find?_eq_none]
    intro staged among taken
    rw [List.mem_singleton.mp among] at taken
    obtain ⟨old, there, same⟩ := List.any_eq_true.mp taken
    exact fresh (List.mem_map.mpr ⟨old, there, eq_of_beq same⟩)
  rw [Memory.commit, accepts, clash]
  rfl

/-- Staging one order with one event: its row and the message of the event. The message gets the
next identifier, and a fault that was planned for adding leaves the session without it. -/
theorem perform_stage (user : String) (change : Change) (order : Order) (event : Event)
    (world : World Site) :
    ((siteService user).work.stage [⟨change, order⟩] [event]).perform (world, {}) =
      (let drawn : World Site := { world with drawn := world.drawn + 1 }
      let message := messageOf (world.ids world.drawn) event.kind event.fact
      if world.state.faults .add = 0 then (.ok 1, drawn, sessionOf order message)
      else (.error (Site.injected .add), Site.struck .add drawn, order.stageIn {})) := by
  have staging : ((siteService user).work.stage [⟨change, order⟩] [event]).perform (world, {}) =
      (do
        (dispatcher Site.store).dispatch [event]
        return 1 : Outbox.InSession Site Session UInt64).perform (world, order.stageIn {}) := rfl
  have dispatched := perform_dispatch Site.store event world (order.stageIn {})
  rw [Site.perform_add] at dispatched
  rw [staging]
  by_cases free : world.state.faults .add = 0
  · rw [if_pos free] at dispatched ⊢
    exact Effect.perform_bind_ok dispatched _
  · rw [if_neg free] at dispatched ⊢
    exact Effect.perform_bind_error dispatched _

/-- The write of one order with one event. Which of its steps fails, if any, is decided by what is
planned for opening, adding and committing, and by whether the identifier is taken. -/
theorem perform_write (user : String) (change : Change) (order : Order) (event : Event)
    (world : World Site) :
    ((siteService user).work.write [⟨change, order⟩] [event]).perform world =
      (let drawn : World Site := { world with drawn := world.drawn + 1 }
      let closed := world.state.memory.commit
        (sessionOf order (messageOf (world.ids world.drawn) event.kind event.fact))
      if world.state.faults .begin = 0 then
        if world.state.faults .add = 0 then
          (closed.1.map fun _ => 1, Site.withMemory closed.2 drawn)
        else (.error (Site.injected .add), Site.struck .add drawn)
      else (.error (Site.injected .begin), Site.struck .begin world)) := by
  have staged := perform_stage user change order event world
  by_cases ready : world.state.faults .begin = 0
  · rw [if_pos ready]
    by_cases free : world.state.faults .add = 0
    · rw [if_pos free] at staged ⊢
      exact UnitOfWork.perform_inSession_closed ready staged
    · rw [if_neg free] at staged ⊢
      exact UnitOfWork.perform_inSession_failed ready staged
  · rw [if_neg ready]
    exact UnitOfWork.perform_inSession_unopened ready

/-- Saving an order is writing it as its commit leaves it: stamped with the time at the beginning of
the commit, and with no event left pending. -/
theorem perform_save (user : String) (change : Change) {order : Order} {event : Event}
    (single : order.pending = [event]) (world : World Site) :
    let kept := (order.stamped change user (world.clock world.readings)).clearPending
    ((siteService user).save change order).perform world =
      (match ((siteService user).work.write [⟨change, kept⟩] [event]).perform (clocked world) with
        | (.error error, reached) => (.error (.outbox error), reached)
        | (.ok _, reached) => (.ok kept, reached)) := by
  obtain ⟨id, customerId, totalCents, status, cancelReason, audit, pending⟩ := order
  subst single
  intro kept
  have committed : StateT.run ((siteService user).work.commit
      [⟨change, ⟨id, customerId, totalCents, status, cancelReason, audit, [event]⟩⟩]) world =
      (((((siteService user).work.write [⟨change, kept⟩] [event]).perform (clocked world)).1,
        [⟨change, kept⟩]),
        (((siteService user).work.write [⟨change, kept⟩] [event]).perform (clocked world)).2) := rfl
  rw [Service.save, Effect.perform_bind, Effect.perform_ofState, committed]
  rcases ((siteService user).work.write [⟨change, kept⟩] [event]).perform (clocked world) with
    ⟨error | _, reached⟩ <;> rfl

/-- Saving an order with one pending event either fails at rest, or commits the stamped order with
the message of the event and gives the order back without it. All later arguments about calls of the
service start from this alternative, and never look at the unit of work again. -/
theorem save_cases (user : String) (change : Change) {order : Order} {event : Event}
    (single : order.pending = [event]) (world : World Site) :
    let kept := (order.stamped change user (world.clock world.readings)).clearPending
    let saved := ((siteService user).save change order).perform world
    (∃ error, saved.1 = .error (.outbox error) ∧ Rests 1 world saved.2) ∨
      saved.1 = .ok kept ∧
        Commits kept (messageOf (world.ids world.drawn) event.kind event.fact) 1 world saved.2 := by
  intro kept saved
  have performed : saved = _ := perform_save user change single world
  rw [perform_write] at performed
  by_cases ready : (clocked world).state.faults .begin = 0
  · rw [if_pos ready] at performed
    by_cases free : (clocked world).state.faults .add = 0
    · rw [if_pos free] at performed
      rcases closed : (clocked world).state.memory.commit (sessionOf kept
          (messageOf ((clocked world).ids (clocked world).drawn) event.kind event.fact)) with
        ⟨error | _, memory⟩
      · rw [closed] at performed
        rw [performed]
        exact Or.inl ⟨error, rfl, ⟨rfl, rfl, rfl⟩, UnitOfWork.untouched_of_commit closed,
          Nat.le_succ _, Nat.le_refl _⟩
      · rw [closed] at performed
        rw [performed]
        exact Or.inr ⟨rfl, ⟨rfl, rfl, rfl⟩, Memory.eq_apply_of_commit closed, rfl⟩
    · rw [if_neg free] at performed
      rw [performed]
      exact Or.inl ⟨_, rfl, ⟨rfl, rfl, rfl⟩, ⟨rfl, rfl, rfl⟩, Nat.le_succ _, Nat.le_refl _⟩
  · rw [if_neg ready] at performed
    rw [performed]
    exact Or.inl ⟨_, rfl, ⟨rfl, rfl, rfl⟩, ⟨rfl, rfl, rfl⟩, Nat.le_refl _, Nat.le_succ _⟩

/-- Without a fault, saving an order succeeds if the identifier of the message is not taken. This is
what makes the other statements about successful calls more than empty. -/
theorem save_ok (user : String) (change : Change) {order : Order} {event : Event}
    (single : order.pending = [event]) {world : World Site}
    (begins : world.state.faults .begin = 0) (adds : world.state.faults .add = 0)
    (accepts : world.state.memory.failNextCommit = false)
    (fresh : world.ids world.drawn ∉ world.state.memory.outbox.map (·.id)) :
    (((siteService user).save change order).perform world).1 =
      .ok (order.stamped change user (world.clock world.readings)).clearPending := by
  let kept := (order.stamped change user (world.clock world.readings)).clearPending
  have ready : (clocked world).state.faults .begin = 0 := begins
  have free : (clocked world).state.faults .add = 0 := adds
  have closed : (clocked world).state.memory.commit (sessionOf kept
      (messageOf ((clocked world).ids (clocked world).drawn) event.kind event.fact)) =
        (.ok (), _) :=
    commit_sessionOf kept accepts fresh
  rw [perform_save user change single world, perform_write, if_pos ready, if_pos free, closed]
  rfl

/-! ### Placing and cancelling -/

/-- An order as placing it leaves it: created and stamped at two readings of the clock, with its
event taken off. -/
def placedOrder (user customerId : String) (totalCents : Int) (world : World Site) : Order :=
  ((placed (world.ids world.drawn) customerId totalCents (world.clock world.readings)).stamped
    .added user (world.clock (world.readings + 1))).clearPending

/-- An order as cancelling it leaves it: cancelled and stamped at two readings of the clock, with
its event taken off. -/
def cancelledOrder (user reason : String) (order : Order) (world : World Site) : Order :=
  ((order.cancelledFor reason (world.clock world.readings)).stamped
    .modified user (world.clock (world.readings + 1))).clearPending

/-- A failed check ends a call, a passed one lets it go on; the world is the same in both cases. -/
theorem perform_checked {σ ε α : Type} (check : Except ε α) (state : σ) :
    (checked check : Effect σ ε α).perform state = (check, state) := by
  cases check <;> rfl

/-- Orders are found without a trace: looking for them draws nothing, reads no clock and writes
nothing. -/
theorem perform_find (id : Identifier) (world : World Site) :
    (Site.orders.find id).perform world = (findIn world.state.memory id, world) := rfl

/-- An order that is found has no events pending, since a row has no field for them. -/
theorem pending_of_findIn {memory : Memory} {id : Identifier} {order : Order}
    (found : findIn memory id = .ok (some order)) : order.pending = [] := by
  obtain ⟨row, _, accepted⟩ := exists_row_of_findIn found
  exact (ofJson_of_ofRow accepted).2

/-- Cancelling an order that has no events pending raises one. So what is saved is always an order
with a single event, which is the case that saving is worked out for. -/
theorem pending_cancelledFor {order : Order} (settled : order.pending = []) (reason : String)
    (now : Instant) :
    (order.cancelledFor reason now).pending = [cancelledEvent ⟨order.id, reason, now⟩] := by
  rw [cancelledFor, settled, List.nil_append]

/-- What is answered to who asks for an order, by what was found. -/
def given (id : Identifier) : Except Error (Option Order) → Except Error Order
  | .error error => .error error
  | .ok none => .error (.notFound id)
  | .ok (some order) => .ok order

section

variable {σ S : Type} {service : Service σ S} {world reached : World σ}

/-- An order that passes the check is saved under a fresh identifier. The identifier is drawn and
the clock read before the order is saved, and so both stay used if saving fails. -/
theorem perform_placeOrder {customerId kept : String} {totalCents : Int}
    (accepted : acceptCustomer customerId totalCents = .ok kept) :
    (service.placeOrder customerId totalCents).perform world =
      (service.save .added
        (placed (world.ids world.drawn) kept totalCents (world.clock world.readings))).perform
        { world with drawn := world.drawn + 1, readings := world.readings + 1 } := by
  rw [Service.placeOrder, accepted, Effect.perform_bind, perform_checked]
  dsimp only
  rw [Effect.perform_bind, World.perform_drawId]
  dsimp only
  rw [Effect.perform_bind, World.perform_readClock]

/-- An order that does not pass the check draws no identifier and reads no clock, so that a refusal
leaves no trace at all. -/
theorem perform_placeOrder_error {customerId : String} {totalCents : Int} {error : Error}
    (refused : acceptCustomer customerId totalCents = .error error) :
    (service.placeOrder customerId totalCents).perform world = (.error error, world) := by
  refine Effect.perform_bind_error ?_ _
  rw [perform_checked, refused]

/-- An order is given as the storage finds it. What is not there is reported under the identifier
that was asked for. -/
theorem perform_getOrder_found {id : Identifier} {found : Except Error (Option Order)}
    (finds : (service.storage.find id).perform world = (found, reached)) :
    (service.getOrder id).perform world = (given id found, reached) := by
  rw [Service.getOrder, Effect.perform_bind, finds]
  rcases found with error | _ | order <;> rfl

/-- An order that is given and can be cancelled is saved as cancelled, in the world that looking for
it has left. -/
theorem perform_cancelOrder_accepted {id : Identifier} {reason kept : String} {order : Order}
    (finds : (service.getOrder id).perform world = (.ok order, reached))
    (accepted : order.acceptReason reason = .ok kept) :
    (service.cancelOrder id reason).perform world =
      (service.save .modified
        (order.cancelledFor kept (reached.clock reached.readings))).perform
        { reached with readings := reached.readings + 1 } := by
  rw [Service.cancelOrder, Effect.perform_bind_ok finds, accepted, Effect.perform_bind,
    perform_checked]
  dsimp only
  rw [Effect.perform_bind, World.perform_readClock]

/-- An order that is given and must not be cancelled is left alone, and the reason of the refusal is
given back. -/
theorem perform_cancelOrder_refused {id : Identifier} {reason : String} {order : Order}
    {error : Error} (finds : (service.getOrder id).perform world = (.ok order, reached))
    (refused : order.acceptReason reason = .error error) :
    (service.cancelOrder id reason).perform world = (.error error, reached) := by
  rw [Service.cancelOrder, Effect.perform_bind_ok finds]
  refine Effect.perform_bind_error ?_ _
  rw [perform_checked, refused]

end

/-- Placing an order either fails at rest, or commits the order with the message that it was placed.
Two identifiers are drawn in the second case, one for the order and one for the message. -/
theorem placeOrder_cases (user customerId : String) (totalCents : Int) (world : World Site) :
    let done := ((siteService user).placeOrder customerId totalCents).perform world
    (∃ error, done.1 = .error error ∧ Rests 2 world done.2) ∨
      ∃ kept, acceptCustomer customerId totalCents = .ok kept ∧
        done.1 = .ok (placedOrder user kept totalCents world) ∧
        Commits (placedOrder user kept totalCents world)
          (messageOf (world.ids (world.drawn + 1)) .placed
            (⟨world.ids world.drawn, kept, totalCents, world.clock world.readings⟩ : Placed))
          2 world done.2 := by
  intro done
  cases accepted : acceptCustomer customerId totalCents with
  | error error =>
    have performed : done = (.error error, world) := perform_placeOrder_error accepted
    rw [performed]
    exact Or.inl ⟨error, rfl, rests_refl _ world⟩
  | ok kept =>
    have performed : done = _ := perform_placeOrder accepted
    let order := placed (world.ids world.drawn) kept totalCents (world.clock world.readings)
    rw [performed]
    rcases save_cases user .added (rfl : order.pending = [_])
        { world with drawn := world.drawn + 1, readings := world.readings + 1 } with
      ⟨error, failed, rests⟩ | ⟨saved, commits⟩
    · exact Or.inl ⟨_, failed, rests.behind ⟨rfl, rfl, rfl⟩ rfl rfl⟩
    · exact Or.inr ⟨kept, rfl, saved, commits.behind ⟨rfl, rfl, rfl⟩ rfl rfl⟩

/-- Looking for an order leaves no trace either. -/
theorem perform_getOrder (user : String) (id : Identifier) (world : World Site) :
    ((siteService user).getOrder id).perform world =
      (given id (findIn world.state.memory id), world) :=
  perform_getOrder_found (perform_find id world)

/-- An order that can be cancelled is saved as cancelled. On a site looking for it changes nothing,
so that it is the world of the call that it is saved in. -/
theorem perform_cancelOrder (user : String) {id : Identifier} {reason kept : String} {order : Order}
    {world : World Site} (found : findIn world.state.memory id = .ok (some order))
    (accepted : order.acceptReason reason = .ok kept) :
    ((siteService user).cancelOrder id reason).perform world =
      ((siteService user).save .modified
        (order.cancelledFor kept (world.clock world.readings))).perform
        { world with readings := world.readings + 1 } := by
  refine perform_cancelOrder_accepted ?_ accepted
  rw [perform_getOrder, found]
  rfl

/-- An order that is not found, or must not be cancelled, leaves everything as it is. -/
theorem perform_cancelOrder_error (user : String) {id : Identifier} {reason : String}
    {world : World Site}
    (refused : ∀ order kept, findIn world.state.memory id = .ok (some order) →
      order.acceptReason reason ≠ .ok kept) :
    ∃ error, ((siteService user).cancelOrder id reason).perform world = (.error error, world) := by
  have answered := perform_getOrder user id world
  rcases found : findIn world.state.memory id with error | _ | order
  all_goals rw [found] at answered
  · exact ⟨error, Effect.perform_bind_error answered _⟩
  · exact ⟨_, Effect.perform_bind_error answered _⟩
  · cases accepted : order.acceptReason reason with
    | error error => exact ⟨error, perform_cancelOrder_refused answered accepted⟩
    | ok kept => exact absurd accepted (refused order kept found)

/-- Cancelling an order either fails at rest, or finds an order that can be cancelled and commits it
with the message that it was. The order that was found is part of what is said, since what was known
of it carries over to the one that is committed. -/
theorem cancelOrder_cases (user : String) (id : Identifier) (reason : String)
    (world : World Site) :
    let done := ((siteService user).cancelOrder id reason).perform world
    (∃ error, done.1 = .error error ∧ Rests 1 world done.2) ∨
      ∃ order kept, findIn world.state.memory id = .ok (some order) ∧
        order.acceptReason reason = .ok kept ∧
        done.1 = .ok (cancelledOrder user kept order world) ∧
        Commits (cancelledOrder user kept order world)
          (messageOf (world.ids world.drawn) .cancelled
            (⟨order.id, kept, world.clock world.readings⟩ : Cancelled))
          1 world done.2 := by
  intro done
  by_cases proceeds : ∃ order kept, findIn world.state.memory id = .ok (some order) ∧
      order.acceptReason reason = .ok kept
  · obtain ⟨order, kept, found, accepted⟩ := proceeds
    have performed : done = _ := perform_cancelOrder user found accepted
    have single := pending_cancelledFor (pending_of_findIn found) kept (world.clock world.readings)
    rw [performed]
    rcases save_cases user .modified single { world with readings := world.readings + 1 } with
      ⟨error, failed, rests⟩ | ⟨saved, commits⟩
    · exact Or.inl ⟨_, failed, rests.behind ⟨rfl, rfl, rfl⟩ rfl rfl⟩
    · exact Or.inr ⟨order, kept, found, accepted, saved, commits.behind ⟨rfl, rfl, rfl⟩ rfl rfl⟩
  · have refused : ∀ order kept, findIn world.state.memory id = .ok (some order) →
        order.acceptReason reason ≠ .ok kept :=
      fun order kept found accepted => proceeds ⟨order, kept, found, accepted⟩
    obtain ⟨error, performed⟩ := perform_cancelOrder_error user refused
    rw [show done = _ from performed]
    exact Or.inl ⟨error, rfl, rests_refl _ world⟩

/-- What a call of the service does to its world: nothing that counts, or one commit of an order
with one message. It draws two identifiers at most. -/
def Called (before after : World Site) : Prop :=
  ∃ draws ≤ 2, Rests draws before after ∨
    ∃ order id kind fact, Commits order (messageOf id kind fact) draws before after

/-- Placing an order does so, by the two cases in which it ends. -/
theorem called_place (user customerId : String) (totalCents : Int) (world : World Site) :
    Called world (((siteService user).placeOrder customerId totalCents).perform world).2 := by
  rcases placeOrder_cases user customerId totalCents world with ⟨_, _, rests⟩ | ⟨_, _, _, commits⟩
  · exact ⟨2, Nat.le_refl _, Or.inl rests⟩
  · exact ⟨2, Nat.le_refl _, Or.inr ⟨_, _, _, _, commits⟩⟩

/-- Cancelling an order does so as well. -/
theorem called_cancel (user : String) (id : Identifier) (reason : String) (world : World Site) :
    Called world (((siteService user).cancelOrder id reason).perform world).2 := by
  rcases cancelOrder_cases user id reason world with ⟨_, _, rests⟩ | ⟨_, _, _, _, _, commits⟩
  · exact ⟨1, Nat.le_succ _, Or.inl rests⟩
  · exact ⟨1, Nat.le_succ _, Or.inr ⟨_, _, _, _, commits⟩⟩

/-- Either way clock and identifiers are those of before, and two more of these are drawn at
most. -/
theorem Called.passes {before after : World Site} (called : Called before after) :
    Site.Passes 2 before after := by
  rcases called with ⟨draws, bound, rests | ⟨_, _, _, _, commits⟩⟩
  · exact ⟨rests.ids, rests.clock, rests.drawn, Nat.le_trans rests.few (by omega)⟩
  · refine ⟨commits.ids, commits.clock, ?_, ?_⟩
    · rw [commits.drawn]
      exact Nat.le_add_right _ _
    · rw [commits.drawn]
      exact Nat.add_le_add_left bound _

end OutboxRelay.Order

import Mathlib.Data.List.Forall2
import OutboxRelay.Order.Database
import OutboxRelay.Proofs.Order.Publication
import OutboxRelay.Proofs.Outbox.Transcript
import OutboxRelay.Proofs.UnitOfWork.Steps

/-!
# Transactions of orders

What a unit of work of orders sends to its database. It has a plan: one write for every tracked
order, in the order of tracking, and behind the writes one insert for every event that the orders
have pending, in the order in which they were raised. The plan is carried out within one
transaction, and it is carried out from the front: the first statement that fails, or the first
write that affects no row, is the last statement of the plan that is sent, and a rollback ends the
transaction. Only when nothing of the plan is left is the transaction committed.

The server is an observed one and otherwise arbitrary, so this holds for whatever it answers to any
of the statements.
-/

namespace OutboxRelay.Order

open List (Forall₂)
open Outbox (InSession Message)
open Outbox.Database (Advances advances_refl)
open Sql (Exchange Link Observed Server Transaction)
open Sql.Observed (observe)
open UnitOfWork (sumOfCounts sumOfCounts_append)

/-! ### Plans -/

/-- A statement that a unit of work has to send. The rest of what it sends opens and closes the
transaction. -/
inductive Planned where
  /-- The write of an order. -/
  | write (change : Change) (record : Record)
  /-- The insert of a message. -/
  | insert (message : Message)

namespace Planned

/-- The statement itself, with the parameters that the application gives it. -/
def query : Planned → Sql.Query
  | write change record => Query.write change record
  | insert message => Outbox.Query.add message

/-- Whether the unit of work goes on after an answer: the statement succeeded, and a write affected
a row at least. An insert of a message is not asked how many rows it affected. -/
def Satisfied (answer : Except Sql.Failure Sql.Reply) : Planned → Prop
  | write _ _ => ∃ reply, answer = .ok reply ∧ 0 < reply.count
  | insert _ => ∃ reply, answer = .ok reply

/-- How the unit of work ends after an answer, if it does. -/
def fault? (planned : Planned) (answer : Except Sql.Failure Sql.Reply) : Option Outbox.Error :=
  match planned, answer with
  | _, .error failure => some (.storage failure)
  | write _ record, .ok reply =>
    if reply.count = 0 then some (.store s!"order {record.id} does not exist") else none
  | insert _, .ok _ => none

/-- The unit of work goes on exactly when it does not end, so that every answer to a planned
statement is one or the other. -/
theorem satisfied_iff (planned : Planned) (answer : Except Sql.Failure Sql.Reply) :
    planned.Satisfied answer ↔ planned.fault? answer = none := by
  cases answer with
  | error failure => cases planned <;> simp [Satisfied, fault?]
  | ok reply =>
    cases planned with
    | insert message => simp [Satisfied, fault?]
    | write change record => simp [Satisfied, fault?, UInt64.pos_iff_ne_zero]

end Planned

/-- The exchange of a planned statement after which the unit of work goes on. It is made on the
transaction itself, and the statement is the planned one with its parameters. -/
structure Granted (transaction : Transaction) (planned : Planned) (exchange : Exchange) : Prop where
  route : exchange.route = .transaction transaction
  statement : exchange.statement = .query planned.query
  satisfied : planned.Satisfied exchange.answer

/-- The writes of tracked orders, whose audit fields are stamped with the time of the commit, in the
order of tracking. -/
def plannedWrites (user : String) (now : Instant) (tracked : List (Tracked Order)) : List Planned :=
  tracked.map fun ⟨change, order⟩ =>
    .write change { order with audit := order.audit.stamp change user now }.toRecord

/-- The inserts for events, in their order. Each event draws the identifier of its message, and the
identifiers are those behind the ones already drawn. -/
def plannedInserts (ids : Nat → Identifier) (drawn : Nat) (events : List Event) : List Planned :=
  (events.zipIdx drawn).map fun (event, number) =>
    .insert (messageOf (ids number) event.kind event.fact)

/-! ### Carrying out a plan -/

section

variable {τ α β : Type} {transaction : Transaction}

/-- A plan was stopped: what was made of it before, and the statement that ended it. Everything in
front of that statement was granted, and nothing behind it was sent. -/
def Stopped (transaction : Transaction) (plan : List Planned) (made : List Exchange)
    (error : Outbox.Error) : Prop :=
  ∃ front failing back granted answer, plan = front ++ failing :: back ∧
    Forall₂ (Granted transaction) front granted ∧ failing.fault? answer = some error ∧
    made = granted ++ [⟨.transaction transaction, .query failing.query, answer⟩]

/-- What is planned behind a plan that was stopped makes no difference, since it is never
reached. -/
theorem Stopped.append {plan : List Planned} {made : List Exchange} {error : Outbox.Error}
    (stopped : Stopped transaction plan made error) (more : List Planned) :
    Stopped transaction (plan ++ more) made error := by
  obtain ⟨front, failing, back, granted, answer, rfl, all, fault, rfl⟩ := stopped
  refine ⟨front, failing, back ++ more, granted, answer, ?_, all, fault, rfl⟩
  rw [List.append_assoc, List.cons_append]

/-- A plan that was stopped behind another one that was carried out: together they are one plan that
was stopped. -/
theorem Stopped.behind {first plan : List Planned} {granted made : List Exchange}
    {error : Outbox.Error} (stopped : Stopped transaction plan made error)
    (carried : Forall₂ (Granted transaction) first granted) :
    Stopped transaction (first ++ plan) (granted ++ made) error := by
  obtain ⟨front, failing, back, later, answer, rfl, all, fault, rfl⟩ := stopped
  refine ⟨first ++ front, failing, back, granted ++ later, answer, ?_, ?_, fault, ?_⟩
  · rw [List.append_assoc]
  · exact List.rel_append carried all
  · rw [List.append_assoc]

/-- A computation within a transaction carries a plan out, drawing some identifiers on the way, and
gives what it makes of the exchanges; or it is stopped. In both cases everything that it sends is
part of the plan, and it stays in its transaction. -/
def CarriesOut (plan : List Planned) (draws : Nat) (gives : List Exchange → α → Prop)
    (body : InSession (Link (Observed τ)) Transaction α) (transaction : Transaction)
    (world : World (Link (Observed τ))) : Prop :=
  (∃ made value after, body.perform (world, transaction) = (.ok value, after, transaction) ∧
    Forall₂ (Granted transaction) plan made ∧ gives made value ∧ Advances made draws world after) ∨
  (∃ made error after few, body.perform (world, transaction) = (.error error, after, transaction) ∧
    Stopped transaction plan made error ∧ Advances made few world after)

variable {world : World (Link (Observed τ))} {first second : List Planned} {draws more : Nat}
  {gives : List Exchange → α → Prop} {results : List Exchange → β → Prop}

/-- A value alone carries out nothing. -/
theorem carriesOut_pure {value : α} (given : gives [] value) :
    CarriesOut [] 0 gives (pure value) transaction world :=
  Or.inl ⟨[], value, world, rfl, .nil, given, advances_refl world⟩

/-- A sequence carries out one plan behind the other. If the first part is stopped, then so is the
whole; otherwise the second part begins in the world that the first one left. -/
theorem CarriesOut.bind {body : InSession (Link (Observed τ)) Transaction α}
    {next : α → InSession (Link (Observed τ)) Transaction β}
    (begun : CarriesOut first draws gives body transaction world)
    (continued : ∀ made value after, Forall₂ (Granted transaction) first made → gives made value →
      Advances made draws world after →
      CarriesOut second more (fun later => results (made ++ later)) (next value) transaction
        after) :
    CarriesOut (first ++ second) (draws + more) results (body >>= next) transaction world := by
  rcases begun with ⟨made, value, after, performed, all, given, advances⟩ |
    ⟨made, error, after, few, performed, stopped, advances⟩
  · have resumed := Effect.perform_bind_ok performed next
    rcases continued made value after all given advances with
      ⟨later, result, final, ended, others, finish, further⟩ |
      ⟨later, error, final, few, ended, stopped, further⟩
    · exact Or.inl ⟨made ++ later, result, final, resumed.trans ended,
        List.rel_append all others, finish, advances.trans further⟩
    · exact Or.inr ⟨made ++ later, error, final, draws + few, resumed.trans ended,
        stopped.behind all, advances.trans further⟩
  · exact Or.inr ⟨made, error, after, few, Effect.perform_bind_error performed next,
      stopped.append second, advances⟩

/-- Giving something else back carries the same plan out. -/
theorem CarriesOut.map {body : InSession (Link (Observed τ)) Transaction α}
    (carried : CarriesOut first draws gives body transaction world) (give : α → β)
    (given : ∀ made value, Forall₂ (Granted transaction) first made → gives made value →
      results made (give value)) :
    CarriesOut first draws results (body >>= fun value => pure (give value)) transaction world := by
  rcases carried with ⟨made, value, after, performed, all, gave, advances⟩ |
    ⟨made, error, after, few, performed, stopped, advances⟩
  · exact Or.inl ⟨made, give value, after, Effect.perform_bind_ok performed _, all,
      given made value all gave, advances⟩
  · exact Or.inr ⟨made, error, after, few, Effect.perform_bind_error performed _, stopped,
      advances⟩

/-! ### The parts of a unit of work -/

variable (transaction) (server : Server τ) (world : World (Link (Observed τ)))

/-- The number of rows that exchanges affected, as a machine word. The sum wraps around as that of
the unit of work does. -/
def rowsOf (made : List Exchange) : UInt64 := sumOfCounts (made.map (·.affected))

/-- One planned statement is carried out by whatever sends it and ends as its answer says. All plans
are put together from this case by `CarriesOut.bind`. -/
theorem carriesOut_single (value : α) {planned : Planned}
    {answer : Except Sql.Failure Sql.Reply} {body : InSession (Link (Observed τ)) Transaction α}
    {after : World (Link (Observed τ))}
    (performed : body.perform (world, transaction) =
      (match planned.fault? answer with
        | some error => .error error
        | none => .ok value, after, transaction))
    (advances :
      Advances [⟨.transaction transaction, .query planned.query, answer⟩] draws world after)
    (given : gives [⟨.transaction transaction, .query planned.query, answer⟩] value) :
    CarriesOut [planned] draws gives body transaction world := by
  cases fault : planned.fault? answer with
  | some error =>
    rw [fault] at performed
    exact Or.inr ⟨_, error, after, draws, performed, ⟨[], planned, [], [], answer, rfl, .nil, fault,
      rfl⟩, advances⟩
  | none =>
    rw [fault] at performed
    have granted : Granted transaction planned
        ⟨.transaction transaction, .query planned.query, answer⟩ :=
      ⟨rfl, rfl, (planned.satisfied_iff answer).mpr fault⟩
    exact Or.inl ⟨_, value, after, performed, .cons granted .nil, given, advances⟩

/-- The write of an order is one planned statement. That no row is affected is no failure of the
statement: the write itself has to notice it. -/
theorem carriesOut_persist (change : Change) (order : Order) :
    CarriesOut [.write change order.toRecord] 0 (fun made rows => rows = rowsOf made)
      (Database.persist (observe server) change order) transaction world := by
  obtain ⟨answer, after, performed, advances⟩ := Outbox.Database.perform_execute server transaction
    world (Query.write change order.toRecord)
  let sending : InSession (Link (Observed τ)) Transaction UInt64 :=
    World.outside (Outbox.Database.onLink
      ((observe server).execute (.transaction transaction) (Query.write change order.toRecord)))
  have sent : sending.perform (world, transaction) =
      ((answer.map (·.count)).mapError .storage, after, transaction) := by
    rw [World.perform_outside, performed]
  let checking (affected : UInt64) : InSession (Link (Observed τ)) Transaction UInt64 := do
    if affected = 0 then throw (.store s!"order {order.id} does not exist")
    return affected
  have persisted : (Database.persist (observe server) change order).perform (world, transaction) =
      (sending >>= checking).perform (world, transaction) := rfl
  let write : Exchange :=
    ⟨.transaction transaction, .query (Query.write change order.toRecord), answer⟩
  refine carriesOut_single transaction world write.affected ?_ advances ?_
  · rw [persisted, Effect.perform_bind, sent]
    cases answer with
    | error failure => rfl
    | ok reply =>
      change (checking reply.count).perform (after, transaction) = _
      by_cases missing : reply.count = 0
      · simp only [checking, Planned.fault?, if_pos missing]
        rfl
      · simp only [checking, Planned.fault?, if_neg missing]
        rfl
  · simp [rowsOf, write, Planned.query]

/-- The handler of an event draws the identifier of its message and adds the message. Converting the
fact cannot fail, so that the insert is sent in any case. -/
theorem carriesOut_handler (event : Event) :
    CarriesOut [.insert (messageOf (world.ids world.drawn) event.kind event.fact)] 1
      (fun _ _ => True)
      (IntegrationEvent.outboxHandler (Outbox.Database.store (observe server))
        (convert event.kind) event.fact) transaction world := by
  let message := messageOf (world.ids world.drawn) event.kind event.fact
  let drawn : World (Link (Observed τ)) := { world with drawn := world.drawn + 1 }
  have drawing : Advances [] 1 world drawn := ⟨Sql.Observed.adds_nil _, rfl, rfl⟩
  obtain ⟨answer, after, performed, advances⟩ :=
    Outbox.Database.perform_add server transaction drawn message
  refine carriesOut_single transaction world () ?_ (drawing.trans advances) trivial
  have handled : (IntegrationEvent.outboxHandler (Outbox.Database.store (observe server))
      (convert event.kind) event.fact).perform (world, transaction) =
        ((Outbox.Database.store (observe server)).add message).perform (drawn, transaction) := by
    rw [IntegrationEvent.outboxHandler, Effect.perform_bind, World.perform_outside,
      perform_convert]
    rfl
  rw [handled, performed]
  cases answer <;> rfl

variable (user : String)

/-- The unit of work that commits orders in a database, on behalf of a user. -/
def databaseWork : UnitOfWork Order Kind (Link (Observed τ)) Transaction :=
  Service.work ⟨Database.storage (observe server), user⟩

/-- The write of a tracked order as it stands. -/
def Planned.ofTracked (tracked : Tracked Order) : Planned :=
  .write tracked.change tracked.entity.toRecord

/-- The writes of orders, one behind the other. What is given is the number of rows that they
affected. -/
theorem carriesOut_persistAll (entities : List (Tracked Order)) :
    CarriesOut (entities.map .ofTracked) 0 (fun made rows => rows = rowsOf made)
      ((databaseWork server user).persistAll entities) transaction world := by
  induction entities generalizing world with
  | nil => exact carriesOut_pure rfl
  | cons tracked rest inductionHypothesis =>
    have both : CarriesOut ([.ofTracked tracked] ++ rest.map .ofTracked) (0 + 0)
        (fun made rows => rows = rowsOf made)
        ((databaseWork server user).persistAll (tracked :: rest)) transaction world := by
      refine CarriesOut.bind
        (carriesOut_persist transaction server world tracked.change tracked.entity) ?_
      intro made rows after _ given _
      refine (inductionHypothesis after).map (rows + ·) ?_
      intro later others _ gave
      rw [given, gave, rowsOf, rowsOf, rowsOf, List.map_append, sumOfCounts_append]
    exact both

/-- The events of orders, handed on in order. Each of them is one insert, under the next
identifier. -/
theorem carriesOut_dispatch (events : List Event) :
    CarriesOut (plannedInserts world.ids world.drawn events) events.length (fun _ _ => True)
      ((databaseWork server user).dispatcher.dispatch events) transaction world := by
  induction events generalizing world with
  | nil => exact carriesOut_pure trivial
  | cons event rest inductionHypothesis =>
    let handling := IntegrationEvent.outboxHandler (S := Transaction)
      (Outbox.Database.store (observe server)) (convert event.kind) event.fact
    have dispatched : (databaseWork server user).dispatcher.dispatch (event :: rest) =
        handling >>= fun _ => (databaseWork server user).dispatcher.dispatch rest := by
      have alone : (databaseWork server user).dispatcher.dispatchOne event = handling := by
        simp only [Dispatcher.dispatchOne, databaseWork, Service.work, handlers_dispatcher,
          List.forM_eq_forM, List.forM_cons, List.forM_nil, bind_pure_unit]
        rfl
      simp only [Dispatcher.dispatch, List.forM_eq_forM, List.forM_cons, alone]
    have planned : plannedInserts world.ids world.drawn (event :: rest) =
        [.insert (messageOf (world.ids world.drawn) event.kind event.fact)] ++
          plannedInserts world.ids (world.drawn + 1) rest := by
      simp [plannedInserts]
    rw [dispatched, planned, List.length_cons, Nat.add_comm rest.length 1]
    refine CarriesOut.bind (carriesOut_handler transaction server world event) ?_
    intro made _ after _ _ advances
    have continued := inductionHypothesis after
    rwa [advances.ids, advances.drawn] at continued

/-- All that is staged: the writes, and behind them what the events lead to. No event is handed on
while a write is outstanding. -/
theorem carriesOut_stage (entities : List (Tracked Order)) (events : List Event) :
    CarriesOut (entities.map .ofTracked ++ plannedInserts world.ids world.drawn events)
      (0 + events.length) (fun made rows => rows = rowsOf (made.take entities.length))
      ((databaseWork server user).stage entities events) transaction world := by
  refine CarriesOut.bind (carriesOut_persistAll transaction server world user entities) ?_
  intro made rows after all given advances
  have dispatched := carriesOut_dispatch transaction server after user events
  rw [advances.ids, advances.drawn] at dispatched
  refine dispatched.map (fun _ => rows) ?_
  intro later _ _ _
  have complete : made.length = entities.length := by
    rw [← all.length_eq, List.length_map]
  rw [given, List.take_left' complete]

end

end OutboxRelay.Order

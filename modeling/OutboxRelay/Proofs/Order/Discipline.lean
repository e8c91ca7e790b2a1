import OutboxRelay.Proofs.Order.Transaction
import OutboxRelay.Proofs.UnitOfWork.Steps
import OutboxRelay.Sql.Script

/-!
# The discipline of transactions

What a unit of work of orders sends from the beginning of its transaction to the end. While no
connection is free it sends nothing. Otherwise it begins a transaction, which takes one of four
courses, told apart by the first answer that is a failure. Whichever it is, `COMMIT` is sent exactly
when the whole plan was sent and every statement of it was granted, and the unit of work reports
success exactly when that `COMMIT` succeeded. Nothing is therefore committed of which a part failed,
and no order is committed without the messages of its events.
-/

namespace OutboxRelay.Order

open List (Forall₂)
open Outbox (InSession)
open Outbox.Database (Advances store)
open Sql (Exchange Failure Link Observed Reply Server Statement Transaction)
open Sql.Observed (Adds adds_nil observe)

/-- The exchange of a statement on a transaction. All exchanges of one call are on one
transaction. -/
def exchanged (transaction : Transaction) (statement : Statement)
    (answer : Except Failure Reply) : Exchange :=
  ⟨.transaction transaction, statement, answer⟩

/-- The courses that a unit of work can take, given whether a connection is free as it begins: all
that is exchanged, and what becomes of the unit of work. It sends nothing only where no connection
is free, and with a free one `BEGIN` is sent whatever happens. The first exchanges of a plan are
writes, whose rows are counted. -/
inductive Course (free : Bool) (transaction : Transaction) (plan : List Planned) (writes : Nat) :
    List Exchange → Except Outbox.Error UInt64 → Prop where
  /-- No connection is free. -/
  | unopened (full : free = false) :
      Course free transaction plan writes [] (.error (.storage .noConnection))
  /-- The transaction is not begun. -/
  | refused (connected : free = true) (failure : Failure) :
      Course free transaction plan writes [exchanged transaction .begin (.error failure)]
        (.error (.storage failure))
  /-- The plan is stopped. -/
  | stopped (connected : free = true) (opening : Reply) {made : List Exchange}
      {error : Outbox.Error} (stopped : Stopped transaction plan made error)
      (answer : Except Failure Reply) :
      Course free transaction plan writes
        (exchanged transaction .begin (.ok opening) :: made ++
          [exchanged transaction .rollback answer])
        (.error error)
  /-- The plan is carried out, but not committed. -/
  | uncommitted (connected : free = true) (opening : Reply) {made : List Exchange}
      (granted : Forall₂ (Granted transaction) plan made) (failure : Failure)
      (answer : Except Failure Reply) :
      Course free transaction plan writes
        (exchanged transaction .begin (.ok opening) :: made ++
          [exchanged transaction .commit (.error failure), exchanged transaction .rollback answer])
        (.error (.storage failure))
  /-- The plan is carried out and committed. -/
  | committed (connected : free = true) (opening : Reply) {made : List Exchange}
      (granted : Forall₂ (Granted transaction) plan made) (closing : Reply) :
      Course free transaction plan writes
        (exchanged transaction .begin (.ok opening) :: made ++
          [exchanged transaction .commit (.ok closing)])
        (.ok (rowsOf (made.take writes)))

/-! ### A session takes a course -/

section

variable {τ : Type} (server : Server τ) {world : World (Link (Observed τ))} {plan : List Planned}
  {writes draws : Nat} {body : InSession (Link (Observed τ)) Transaction UInt64}

/-- A computation that carries a plan out takes one of the courses in a session of its own. The
session is opened before the plan and closed behind it, with `COMMIT` if the plan came to its end
and with `ROLLBACK` if it was stopped. -/
theorem course_inSession
    (carries : ∀ opening begun, Advances opening 0 world begun →
      CarriesOut plan draws (fun made rows => rows = rowsOf (made.take writes)) body
        ⟨world.state.opened⟩ begun) :
    let ended := (UnitOfWork.inSession (store (observe server)) body).perform world
    ∃ exchanges, Adds exchanges world.state ended.2.state ∧
      Course world.state.hasFree ⟨world.state.opened⟩ plan writes exchanges ended.1 := by
  intro ended
  let transaction : Transaction := ⟨world.state.opened⟩
  rcases Outbox.Database.perform_begin server world with
    ⟨full, unopened⟩ | ⟨connected, answer, begun, began, opens⟩
  · have performed : ended = _ := UnitOfWork.perform_inSession_refused unopened
    rw [performed]
    exact ⟨[], adds_nil world.state, .unopened full⟩
  · cases answer with
    | error failure =>
      have performed : ended = _ := UnitOfWork.perform_inSession_refused began
      rw [performed]
      exact ⟨_, opens.adds, .refused connected failure⟩
    | ok opening =>
      -- From here on a transaction is open, and each course ends with its end.
      rcases carries _ begun opens with
        ⟨made, rows, reached, succeeded, granted, given, advances⟩ |
        ⟨made, error, reached, few, failed, stopped, advances⟩
      · obtain ⟨answer, after, closed, sent⟩ :=
          Outbox.Database.perform_commit server transaction reached
        have performed : ended = _ := UnitOfWork.perform_inSession_ok began succeeded
        rw [closed] at performed
        rw [performed]
        rcases sent with ⟨reply, rfl, further⟩ | ⟨failure, gave, rfl, further⟩
        · rw [given]
          exact ⟨_, (opens.adds.trans advances.adds).trans further.adds,
            .committed connected opening granted reply⟩
        · exact ⟨_, (opens.adds.trans advances.adds).trans further.adds,
            .uncommitted connected opening granted failure gave⟩
      · obtain ⟨answer, after, closed, further⟩ :=
          Outbox.Database.perform_abandon server transaction reached
        have performed : ended = _ := UnitOfWork.perform_inSession_error began failed
        rw [performed, Effect.perform_bind_ok closed]
        exact ⟨_, (opens.adds.trans advances.adds).trans further.adds,
          .stopped connected opening stopped answer⟩

end

/-! ### What the courses have in common -/

section

variable {free : Bool} {transaction : Transaction} {plan : List Planned} {writes : Nat}
  {exchanges made : List Exchange} {error : Outbox.Error} {result : Except Outbox.Error UInt64}

/-- A commit was sent, on whatever route and with whatever answer. -/
def SendsCommit (exchanges : List Exchange) : Prop :=
  ∃ exchange ∈ exchanges, exchange.statement = .commit

/-- A commit was sent and succeeded. This is what makes the writes durable as far as the application
can tell. -/
def IsCommitted (exchanges : List Exchange) : Prop :=
  ∃ exchange ∈ exchanges, exchange.statement = .commit ∧ exchange.succeeded = true

/-- The transaction was begun, and then the whole plan was sent, statement by statement and in
order, and all of it was granted. What is sent behind that is left open here. -/
def Completes (transaction : Transaction) (plan : List Planned) (exchanges : List Exchange) :
    Prop :=
  ∃ opening made rest, exchanges = exchanged transaction .begin (.ok opening) :: made ++ rest ∧
    Forall₂ (Granted transaction) plan made

/-- No statement of a plan is a commit, as each is a query. So a commit can only be the one that
closes the transaction. -/
theorem statement_ne_commit (granted : Forall₂ (Granted transaction) plan made) :
    ∀ exchange ∈ made, exchange.statement ≠ .commit := by
  induction granted with
  | nil => simp
  | cons first _ inductionHypothesis =>
    rw [List.forall_mem_cons]
    refine ⟨?_, inductionHypothesis⟩
    rw [first.statement]
    nofun

/-- Before a plan is stopped nothing is committed, as all that was sent are queries of the plan. -/
theorem Stopped.statement_ne_commit (stopped : Stopped transaction plan made error) :
    ∀ exchange ∈ made, exchange.statement ≠ .commit := by
  obtain ⟨front, failing, back, granted, answer, rfl, all, _, rfl⟩ := stopped
  rw [List.forall_mem_append]
  refine ⟨Order.statement_ne_commit all, ?_⟩
  simp

/-- A plan that was stopped is not granted as a whole, whatever is sent afterwards. The induction is
on the front of the plan that was granted, up to the statement at which it was stopped. -/
theorem Stopped.not_granted (stopped : Stopped transaction plan made error)
    {all rest more : List Exchange} (same : made ++ more = all ++ rest) :
    ¬ Forall₂ (Granted transaction) plan all := by
  obtain ⟨front, failing, back, granted, answer, rfl, before, fault, rfl⟩ := stopped
  intro whole
  induction before generalizing all with
  | nil =>
    obtain ⟨exchange, others, first, _, rfl⟩ := List.forall₂_cons_left_iff.mp whole
    injection same with met _
    have satisfied := first.satisfied
    rw [← met, Planned.satisfied_iff, fault] at satisfied
    cases satisfied
  | cons _ _ inductionHypothesis =>
    obtain ⟨exchange, others, _, further, rfl⟩ := List.forall₂_cons_left_iff.mp whole
    injection same with _ remaining
    exact inductionHypothesis remaining further

/-- What a unit of work that has a plan does to its transaction: it takes one of the courses, begins
the transaction exactly when a connection is free, sends `COMMIT` exactly when the plan is complete,
and succeeds exactly when `COMMIT` does, with the rows that the writes affected. -/
structure Disciplined (free : Bool) (transaction : Transaction) (plan : List Planned) (writes : Nat)
    (exchanges : List Exchange) (result : Except Outbox.Error UInt64) : Prop where
  course : Course free transaction plan writes exchanges result
  begins : free = true ↔ ∃ answer, exchanges.head? = some (exchanged transaction .begin answer)
  commits : SendsCommit exchanges ↔ Completes transaction plan exchanges
  succeeds : ∀ rows, result = .ok rows ↔
    IsCommitted exchanges ∧ rows = rowsOf (exchanges.tail.take writes)

/-- In every course the transaction is begun exactly when a connection is free, and then `BEGIN` is
the first thing that is sent. -/
theorem Course.begins_iff (course : Course free transaction plan writes exchanges result) :
    free = true ↔ ∃ answer, exchanges.head? = some (exchanged transaction .begin answer) := by
  cases course with
  | unopened full => simp [full]
  | refused connected failure => exact iff_of_true connected ⟨_, rfl⟩
  | stopped connected opening stopped answer => exact iff_of_true connected ⟨_, rfl⟩
  | uncommitted connected opening granted failure answer => exact iff_of_true connected ⟨_, rfl⟩
  | committed connected opening granted closing => exact iff_of_true connected ⟨_, rfl⟩

/-- In every course a commit is sent exactly when the plan is complete. Two courses have a complete
plan, and both send a commit, of which one succeeds and the other does not. -/
theorem Course.sendsCommit_iff (course : Course free transaction plan writes exchanges result) :
    SendsCommit exchanges ↔ Completes transaction plan exchanges := by
  cases course with
  | unopened full => simp [SendsCommit, Completes]
  | refused connected failure => simp [SendsCommit, Completes, exchanged]
  | stopped connected opening stopped answer =>
    constructor
    · rintro ⟨exchange, member, committing⟩
      rw [List.cons_append, List.mem_cons, List.mem_append, List.mem_singleton] at member
      rcases member with rfl | inside | rfl
      · cases committing
      · exact absurd committing (stopped.statement_ne_commit exchange inside)
      · cases committing
    · rintro ⟨other, all, rest, same, granted⟩
      injection same with _ remaining
      exact absurd granted (stopped.not_granted remaining)
  | uncommitted connected opening granted failure answer =>
    constructor
    · rintro -
      exact ⟨opening, _, _, rfl, granted⟩
    · rintro -
      exact ⟨exchanged transaction .commit (.error failure), by simp, rfl⟩
  | committed connected opening granted closing =>
    constructor
    · rintro -
      exact ⟨opening, _, _, rfl, granted⟩
    · rintro -
      exact ⟨exchanged transaction .commit (.ok closing), by simp, rfl⟩

/-- In every course success is the success of the commit, and the result is then the rows that the
writes of the plan affected. -/
theorem Course.succeeds_iff (course : Course free transaction plan writes exchanges result)
    (within : writes ≤ plan.length) (rows : UInt64) :
    result = .ok rows ↔ IsCommitted exchanges ∧ rows = rowsOf (exchanges.tail.take writes) := by
  cases course with
  | unopened full => simp [IsCommitted]
  | refused connected failure => simp [IsCommitted, exchanged]
  | stopped connected opening stopped answer =>
    constructor
    · nofun
    · rintro ⟨⟨exchange, member, committing, _⟩, _⟩
      rw [List.cons_append, List.mem_cons, List.mem_append, List.mem_singleton] at member
      rcases member with rfl | inside | rfl
      · cases committing
      · exact absurd committing (stopped.statement_ne_commit exchange inside)
      · cases committing
  | uncommitted connected opening granted failure answer =>
    constructor
    · nofun
    · rintro ⟨⟨exchange, member, committing, succeeded⟩, _⟩
      simp only [List.cons_append, List.mem_cons, List.mem_append, List.not_mem_nil,
        or_false] at member
      rcases member with rfl | inside | rfl | rfl
      · cases committing
      · exact absurd committing (statement_ne_commit granted exchange inside)
      · cases succeeded
      · cases committing
  | @committed connected opening made granted closing =>
    have counted : ((exchanged transaction .begin (.ok opening) :: made ++
        [exchanged transaction .commit (.ok closing)]).tail.take writes) = made.take writes := by
      have enough : writes ≤ made.length := granted.length_eq ▸ within
      rw [List.cons_append, List.tail_cons, List.take_append_of_le_length enough]
    have committed : IsCommitted (exchanged transaction .begin (.ok opening) :: made ++
        [exchanged transaction .commit (.ok closing)]) :=
      ⟨exchanged transaction .commit (.ok closing), by simp, rfl, rfl⟩
    rw [counted, Except.ok.injEq, eq_comm]
    exact ⟨fun same => ⟨committed, same⟩, fun ⟨_, same⟩ => same⟩

/-- Every course of a plan that begins with the writes is disciplined. The exchanges of the writes
are the first ones of the plan, so that counting their rows is counting those of the front. -/
theorem Course.disciplined (course : Course free transaction plan writes exchanges result)
    (within : writes ≤ plan.length) :
    Disciplined free transaction plan writes exchanges result :=
  ⟨course, course.begins_iff, course.sendsCommit_iff, course.succeeds_iff within⟩

end

/-! ### Committing orders -/

/-- The plan of a commit: the writes of all orders, then the messages of all their events. It is
known before anything is sent, since no answer of the server has any influence on it. -/
def commitPlan {σ : Type} (user : String) (tracked : List (Tracked Order)) (world : World σ) :
    List Planned :=
  plannedWrites user (world.clock world.readings) tracked ++
    plannedInserts world.ids world.drawn (tracked.flatMap (·.entity.pending))

/-- An order that has just been placed, with its event pending. -/
def firstOrder : Order := placed ⟨7⟩ "C-1" 4200 ⟨1763596800, 0⟩

/-- The first order as a commit on behalf of the operators writes it. -/
def firstRecord : Record where
  id := ⟨7⟩
  customerId := "C-1"
  totalCents := 4200
  status := "placed"
  cancelReason := none
  createdBy := some "ops"
  createdOn := some ⟨1763600400, 0⟩
  modifiedBy := none
  modifiedOn := none

/-- A world whose database plays a script, on a pool of one connection. -/
def scriptedWorld (replies : List Sql.ScriptedReply) (ongoing : List Transaction) :
    World (Link (Observed Sql.Script)) where
  ids number := ⟨.ofNat 128 number⟩
  clock _ := ⟨1763600400, 0⟩
  state := { ongoing, capacity := some 1, server := { server := { replies } } }

/-- A commit on behalf of the operators is disciplined, sends exactly these statements and has this
result. -/
def Sends (tracked : List (Tracked Order)) (world : World (Link (Observed Sql.Script)))
    (statements : List Statement) (result : Except Outbox.Error UInt64) : Prop :=
  let ended := ((databaseWork Sql.Script.server "ops").commit tracked).run world
  ∃ exchanges, Disciplined world.state.hasFree ⟨world.state.opened⟩
      (commitPlan "ops" tracked world) tracked.length exchanges ended.1.1 ∧
    exchanges.map (·.statement) = statements ∧ ended.1.1 = result

end OutboxRelay.Order

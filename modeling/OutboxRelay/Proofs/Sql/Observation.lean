import OutboxRelay.Proofs.Effect
import OutboxRelay.Sql.Server

/-!
# Observed servers

A server together with an account of what was exchanged with it: every statement that reached it, on
which route, and what it answered, in the order of sending. The server itself is arbitrary. What
holds of the accounts of all observed servers therefore holds for every way in which a server can
answer, whether it follows a script, keeps tables or fails as it pleases.

The laws below say of each call of the application's end which exchanges it adds. They leave open
what the server answers, and give the outcome of the call in terms of that answer.
-/

namespace OutboxRelay.Sql

/-- A statement that was sent, and the answer to it. The route says whether it belongs to a
transaction. -/
structure Exchange where
  route : Route
  statement : Statement
  answer : Except Failure Reply

namespace Exchange

/-- Whether the statement succeeded. -/
def succeeded (exchange : Exchange) : Bool := exchange.answer.isOk

/-- The number of rows that the statement affected, none if it failed. -/
def affected (exchange : Exchange) : UInt64 :=
  match exchange.answer with
  | .ok reply => reply.count
  | .error _ => 0

end Exchange

/-- The state of a server and all that was exchanged with it. -/
structure Observed (τ : Type) where
  server : τ
  exchanges : List Exchange := []

namespace Observed

variable {τ : Type}

/-- A server that answers as another one does, with an account of it. Nothing that the application
does can depend on the account. -/
def observe (server : Server τ) : Server (Observed τ) where
  send route statement := .ofPair fun observed =>
    let (answer, state) := (server.send route statement).perform observed.server
    (answer, ⟨state, observed.exchanges ++ [⟨route, statement, answer⟩]⟩)

/-- Some exchanges were made between two states of the application's end, and no others. -/
def Adds (made : List Exchange) (before after : Link (Observed τ)) : Prop :=
  after.server.exchanges = before.server.exchanges ++ made

theorem adds_nil (link : Link (Observed τ)) : Adds [] link link :=
  (List.append_nil _).symm

theorem Adds.trans {first second : List Exchange} {before middle after : Link (Observed τ)}
    (adds : Adds first before middle) (further : Adds second middle after) :
    Adds (first ++ second) before after := by
  rw [Adds, further, adds, List.append_assoc]

variable (server : Server τ) (transaction : Transaction) (link : Link (Observed τ))

/-- Every statement that is sent is one exchange, and its answer is the outcome. The answer is not
known; it is what the server says. -/
theorem perform_sendOn (route : Route) (statement : Statement) :
    ∃ answer after, ((observe server).sendOn route statement).perform link = (answer, after) ∧
      Adds [⟨route, statement, answer⟩] link after := by
  let answered := (server.send route statement).perform link.server.server
  let exchanges := link.server.exchanges ++ [⟨route, statement, answered.1⟩]
  exact ⟨answered.1, { link with server := ⟨answered.2, exchanges⟩ }, rfl, rfl⟩

/-- A query within a transaction is sent whether a connection is free or not. -/
theorem perform_execute (query : Query) :
    ∃ answer after,
      ((observe server).execute (.transaction transaction) query).perform link =
        (answer.map (·.count), after) ∧
      Adds [⟨.transaction transaction, .query query, answer⟩] link after := by
  obtain ⟨answer, after, sent, adds⟩ :=
    perform_sendOn server link (.transaction transaction) (.query query)
  have asked : ((observe server).ask (.transaction transaction) query).perform link =
      (answer, after) := sent
  refine ⟨answer, after, ?_, adds⟩
  rw [Server.execute, Effect.perform_bind_pure, asked]

/-- Waiting for a connection sends nothing, and fails if none is free. -/
theorem perform_acquire :
    (Server.acquire : Effect (Link (Observed τ)) Failure Unit).perform link =
      (if link.hasFree then .ok () else .error .noConnection, link) := by
  have seen : (get : Effect (Link (Observed τ)) Failure _).perform link = (.ok link, link) := rfl
  rw [Server.acquire, Effect.perform_bind_ok seen]
  split <;> rfl

/-- A transaction is opened on a free connection. If there is none, nothing is sent; if there is
one, `BEGIN` is sent and nothing else, and the transaction is open as soon as that succeeded. -/
theorem perform_openTransaction :
    (link.hasFree = false ∧
      (observe server).openTransaction.perform link = (.error .noConnection, link)) ∨
    (link.hasFree = true ∧
      ∃ answer after,
        (observe server).openTransaction.perform link =
          (answer.map fun _ => ⟨link.opened⟩, after) ∧
        Adds [⟨.transaction ⟨link.opened⟩, .begin, answer⟩] link after) := by
  have acquired := perform_acquire link
  cases free : link.hasFree with
  | false =>
    rw [free] at acquired
    exact Or.inl ⟨rfl, Effect.perform_bind_error acquired _⟩
  | true =>
    rw [free] at acquired
    let transaction : Transaction := ⟨link.opened⟩
    let counted : Link (Observed τ) := { link with opened := link.opened + 1 }
    obtain ⟨answer, after, sent, adds⟩ :=
      perform_sendOn server counted (.transaction transaction) .begin
    have opening : (observe server).openTransaction.perform link =
        ((observe server).sendOn (.transaction transaction) .begin >>= fun _ => do
          modify fun link => { link with ongoing := link.ongoing ++ [transaction] }
          return transaction).perform counted :=
      Effect.perform_bind_ok acquired _
    cases answer with
    | error failure =>
      refine Or.inr ⟨rfl, .error failure, after, ?_, adds⟩
      rw [opening, Effect.perform_bind_error sent]
      rfl
    | ok reply =>
      let kept := { after with ongoing := after.ongoing ++ [transaction] }
      refine Or.inr ⟨rfl, .ok reply, kept, ?_, adds⟩
      rw [opening, Effect.perform_bind_ok sent]
      rfl

/-- Giving a transaction up sends `ROLLBACK`, whose answer makes no difference. -/
theorem perform_rollBack :
    ∃ answer after, ((observe server).rollBack transaction).perform link = (.ok (), after) ∧
      Adds [⟨.transaction transaction, .rollback, answer⟩] link after := by
  obtain ⟨answer, after, sent, adds⟩ :=
    perform_sendOn server link (.transaction transaction) .rollback
  refine ⟨answer, { after with ongoing := after.ongoing.erase transaction }, ?_, adds⟩
  have outcome : (Effect.ofState
      ((observe server).sendOn (.transaction transaction) .rollback).outcome :
        Effect (Link (Observed τ)) Failure _).perform link = (.ok answer, after) := by
    rw [Effect.perform_ofState, Effect.run_outcome, sent]
  rw [Server.rollBack, Effect.perform_bind_ok outcome]
  rfl

/-- A commit sends `COMMIT` and succeeds if that does; otherwise `ROLLBACK` follows. -/
theorem perform_commitTransaction :
    ∃ answer after,
      ((observe server).commitTransaction transaction).perform link =
        (answer.map fun _ => (), after) ∧
      ((∃ reply, answer = .ok reply ∧
          Adds [⟨.transaction transaction, .commit, answer⟩] link after) ∨
        ∃ failure gave, answer = .error failure ∧
          Adds [⟨.transaction transaction, .commit, answer⟩,
            ⟨.transaction transaction, .rollback, gave⟩] link after) := by
  obtain ⟨answer, sentLink, sent, adds⟩ :=
    perform_sendOn server link (.transaction transaction) .commit
  have outcome : (Effect.ofState
      ((observe server).sendOn (.transaction transaction) .commit).outcome :
        Effect (Link (Observed τ)) Failure _).perform link = (.ok answer, sentLink) := by
    rw [Effect.perform_ofState, Effect.run_outcome, sent]
  rw [Server.commitTransaction, Effect.perform_bind_ok outcome]
  cases answer with
  | ok reply =>
    let released := { sentLink with ongoing := sentLink.ongoing.erase transaction }
    exact ⟨.ok reply, released, rfl, Or.inl ⟨reply, rfl, adds⟩⟩
  | error failure =>
    obtain ⟨gave, after, rolledBack, further⟩ := perform_rollBack server transaction sentLink
    refine ⟨.error failure, after, ?_, Or.inr ⟨failure, gave, rfl, adds.trans further⟩⟩
    exact Effect.perform_bind_ok rolledBack _

end Observed

end OutboxRelay.Sql

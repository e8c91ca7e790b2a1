import OutboxRelay.Outbox.Database
import OutboxRelay.Proofs.Sql.Observation

/-!
# Transcripts of the store in a database

What the calls of a session send to an observed server. Each call is one statement of the session's
transaction, save that a failed commit is followed by a rollback, and that nothing at all is sent
where no connection is free. The outcome of a call is the answer to its statement.
-/

namespace OutboxRelay.Outbox.Database

open Sql (Exchange Link Observed Query Server Transaction)
open Sql.Observed (Adds adds_nil observe)

variable {τ α : Type}

/-- Work on the database. -/
theorem perform_onLink (effect : Effect (Link τ) Sql.Failure α) (world : World (Link τ)) :
    (onLink effect).perform world =
      ((effect.perform world.state).1.mapError .storage,
        { world with state := (effect.perform world.state).2 }) := rfl

/-- Some exchanges were made and some identifiers drawn between two worlds, in this order and no
others. -/
structure Advances (made : List Exchange) (draws : Nat) (before after : World (Link (Observed τ))) :
    Prop where
  adds : Adds made before.state after.state
  ids : after.ids = before.ids
  drawn : after.drawn = before.drawn + draws

theorem advances_refl (world : World (Link (Observed τ))) : Advances [] 0 world world :=
  ⟨adds_nil world.state, rfl, rfl⟩

/-- Whatever changes the database alone draws nothing. -/
theorem advances_of_adds {made : List Exchange} {world : World (Link (Observed τ))}
    {link : Link (Observed τ)} (adds : Adds made world.state link) :
    Advances made 0 world { world with state := link } :=
  ⟨adds, rfl, rfl⟩

theorem Advances.trans {first second : List Exchange} {draws more : Nat}
    {before middle after : World (Link (Observed τ))}
    (advances : Advances first draws before middle) (further : Advances second more middle after) :
    Advances (first ++ second) (draws + more) before after where
  adds := advances.adds.trans further.adds
  ids := further.ids.trans advances.ids
  drawn := by rw [further.drawn, advances.drawn, Nat.add_assoc]

variable (server : Server τ) (transaction : Transaction) (world : World (Link (Observed τ)))

/-- A query within a transaction gives the number of rows that it affected. -/
theorem perform_execute (query : Query) :
    ∃ answer after,
      (onLink ((observe server).execute (.transaction transaction) query)).perform world =
        ((answer.map (·.count)).mapError .storage, after) ∧
      Advances [⟨.transaction transaction, .query query, answer⟩] 0 world after := by
  obtain ⟨answer, link, performed, adds⟩ :=
    Observed.perform_execute server transaction world.state query
  refine ⟨answer, { world with state := link }, ?_, advances_of_adds adds⟩
  rw [perform_onLink, performed]

/-- Without a free connection no session is begun and nothing is sent. With one, a session is begun
with `BEGIN`, and it is there exactly if the answer is no error. -/
theorem perform_begin :
    (world.state.hasFree = false ∧
      (store (observe server)).begin.perform world = (.error (.storage .noConnection), world)) ∨
    (world.state.hasFree = true ∧
      ∃ answer after,
        (store (observe server)).begin.perform world =
          ((answer.map fun _ => ⟨world.state.opened⟩).mapError .storage, after) ∧
        Advances [⟨.transaction ⟨world.state.opened⟩, .begin, answer⟩] 0 world after) := by
  have begun : (store (observe server)).begin.perform world = _ :=
    perform_onLink (observe server).openTransaction world
  rw [begun]
  rcases Observed.perform_openTransaction server world.state with
    ⟨full, refused⟩ | ⟨free, answer, link, performed, adds⟩
  · rw [refused]
    exact Or.inl ⟨full, rfl⟩
  · rw [performed]
    exact Or.inr ⟨free, answer, { world with state := link }, rfl, advances_of_adds adds⟩

/-- A message is added by one statement, whatever number of rows that affects: the answer decides
about success only. -/
theorem perform_add (message : Message) :
    ∃ answer after,
      ((store (observe server)).add message).perform (world, transaction) =
        ((answer.map fun _ => ()).mapError .storage, after, transaction) ∧
      Advances [⟨.transaction transaction, .query (Query.add message), answer⟩] 0 world after := by
  obtain ⟨answer, after, performed, advances⟩ :=
    perform_execute server transaction world (Query.add message)
  refine ⟨answer, after, ?_, advances⟩
  let sending : InSession (Link (Observed τ)) Transaction UInt64 :=
    World.outside (onLink ((observe server).execute (.transaction transaction) (Query.add message)))
  have sent : sending.perform (world, transaction) = _ :=
    World.perform_outside _ world transaction
  have added : ((store (observe server)).add message).perform (world, transaction) =
      (sending >>= fun _ => pure ()).perform (world, transaction) := rfl
  rw [performed] at sent
  rw [added, Effect.perform_bind_pure, sent]
  cases answer <;> rfl

/-- Giving a session up succeeds, whatever the answer to its `ROLLBACK`. -/
theorem perform_abandon :
    ∃ answer after,
      ((store (observe server)).abandon transaction).perform world = (.ok (), after) ∧
      Advances [⟨.transaction transaction, .rollback, answer⟩] 0 world after := by
  obtain ⟨answer, link, performed, adds⟩ :=
    Observed.perform_rollBack server transaction world.state
  refine ⟨answer, { world with state := link }, ?_, advances_of_adds adds⟩
  have abandoned : ((store (observe server)).abandon transaction).perform world = _ :=
    perform_onLink ((observe server).rollBack transaction) world
  rw [abandoned, performed]
  rfl

/-- A session is committed by `COMMIT`; `ROLLBACK` follows if that fails, and its own answer is
ignored. -/
theorem perform_commit :
    ∃ answer after,
      ((store (observe server)).commit transaction).perform world =
        ((answer.map fun _ => ()).mapError .storage, after) ∧
      ((∃ reply, answer = .ok reply ∧
          Advances [⟨.transaction transaction, .commit, answer⟩] 0 world after) ∨
        ∃ failure gave, answer = .error failure ∧
          Advances [⟨.transaction transaction, .commit, answer⟩,
            ⟨.transaction transaction, .rollback, gave⟩] 0 world after) := by
  obtain ⟨answer, link, performed, sent⟩ :=
    Observed.perform_commitTransaction server transaction world.state
  refine ⟨answer, { world with state := link }, ?_, ?_⟩
  · have committed : ((store (observe server)).commit transaction).perform world = _ :=
      perform_onLink ((observe server).commitTransaction transaction) world
    rw [committed, performed]
  · rcases sent with ⟨reply, accepted, adds⟩ | ⟨failure, gave, refused, adds⟩
    · exact Or.inl ⟨reply, accepted, advances_of_adds adds⟩
    · exact Or.inr ⟨failure, gave, refused, advances_of_adds adds⟩

end OutboxRelay.Outbox.Database

import OutboxRelay.Proofs.Outbox.Sessions

/-!
# Identifiers in the outbox

Which identifiers the outbox in memory holds. The only call that adds any is a commit that is
accepted, and it adds those that its session staged. A commit is refused if one of them is in the
outbox already; nobody looks whether a session staged one of them twice. So identifiers stay
distinct as long as every accepted session staged distinct ones, and no longer.
-/

namespace OutboxRelay.Outbox

/-- Stage a row as the business writes of a client do. -/
def Session.write (row : StagedRow) (session : Session) : Session :=
  session.putRow row.table row.key row.value

namespace Memory

/-- A client of a store in memory. -/
abbrev Client : Type := Outbox.Client Memory Session

/-- A step of a client of a store in memory. -/
abbrev Step : Type := Outbox.Client.Step StagedRow Memory Session

/-- The steps of a client of a store in memory. -/
abbrev steps : Client → List (Call StagedRow) → List Step :=
  Outbox.Client.steps store Session.write

/-- The step commits a session and succeeds. The session is what it was before the step, with all
that was staged. -/
def Accepts (session : Session) (step : Step) : Prop :=
  ∃ number, step.call = .commit number ∧ step.before.session? number = some session ∧
    step.answer = .done (.ok ())

/-- The step tries to commit a session, whatever comes of it. -/
def Commits (session : Session) (step : Step) : Prop :=
  ∃ number, step.call = .commit number ∧ step.before.session? number = some session

/-! ### Steps of a client -/

section

variable {client : Client} {calls : List (Call StagedRow)} {step : Step} {session : Session}

/-- A step that commits an open session does to the memory what the commit does, and gives its
outcome. So facts about `Memory.commit` are facts about steps. -/
theorem commit_of_commits (among : step ∈ steps client calls) (commits : Commits session step) :
    step.answer = .done (step.before.world.state.commit session).1 ∧
      step.after.world.state = (step.before.world.state.commit session).2 := by
  obtain ⟨number, committing, here⟩ := commits
  have performs := Client.perform_of_mem_steps among
  rw [committing, perform_commit here] at performs
  exact ⟨congrArg Prod.fst performs.symm, congrArg (·.2.world.state) performs.symm⟩

/-- A step that accepts a session adds its identifiers, none of which was there. They come behind
those of the outbox, repeated if the session repeats them. -/
theorem ids_of_accepts (among : step ∈ steps client calls) (accepts : Accepts session step) :
    step.after.world.state.ids = step.before.world.state.ids ++ session.ids ∧
      ∀ id ∈ session.ids, id ∉ step.before.world.state.ids := by
  obtain ⟨number, committing, here, succeeds⟩ := accepts
  obtain ⟨answer, after⟩ := commit_of_commits among ⟨number, committing, here⟩
  rw [succeeds] at answer
  have accepted : step.before.world.state.commit session =
      (.ok (), (step.before.world.state.commit session).2) :=
    Prod.ext (Answer.done.inj answer).symm rfl
  rw [after, eq_apply_of_commit accepted]
  exact ⟨ids_apply session _, fresh_of_commit accepted⟩

/-- A step that accepts no session adds no identifier and takes none away. -/
theorem ids_of_not_accepts (among : step ∈ steps client calls)
    (accepts : ∀ session, ¬Accepts session step) :
    step.after.world.state.ids = step.before.world.state.ids := by
  have performs := Client.perform_of_mem_steps among
  by_cases committing : ∃ number, step.call = .commit number
  · obtain ⟨number, committing⟩ := committing
    cases here : step.before.session? number with
    | none =>
      rw [committing, Client.perform, Client.finish, here] at performs
      exact congrArg (·.2.world.state.ids) performs.symm
    | some session =>
      obtain ⟨answer, after⟩ := commit_of_commits among ⟨number, committing, here⟩
      cases outcome : (step.before.world.state.commit session).1 with
      | ok => exact absurd ⟨number, committing, here, outcome ▸ answer⟩ (accepts session)
      | error error =>
        rw [after, ids, (commit_error outcome).2.1]
        rfl
  · have other : ∀ number, step.call ≠ .commit number := fun number same =>
      committing ⟨number, same⟩
    have added :
        (step.before.perform store Session.write step.call).2.world.state.added = _ :=
      added_perform step.before other
    rw [Outbox.Client.perform_of_mem_steps among] at added
    exact map_key_of_added (fun _ => rfl) added

end

/-- What is true of the identifiers in every step of a client. The first part is an equivalence, so
it also says what the store does not look after. -/
structure Unique (steps : List Step) : Prop where
  /-- Identifiers stay distinct exactly as long as every session that is accepted staged distinct
  ones. -/
  distinct : (∀ step ∈ steps, step.after.world.state.ids.Nodup) ↔
    ∀ step ∈ steps, ∀ session, Accepts session step → session.ids.Nodup
  /-- A session that staged an identifier of the outbox is refused and changes nothing. -/
  refused : ∀ step ∈ steps, ∀ session, Commits session step →
    (∃ id ∈ session.ids, id ∈ step.before.world.state.ids) →
    (∃ error, step.answer = .done (.error error)) ∧
      step.after.world.state.rows = step.before.world.state.rows ∧
      step.after.world.state.outbox = step.before.world.state.outbox ∧
      step.after.world.state.commits = step.before.world.state.commits

/-- A step keeps identifiers distinct if a session that it accepts staged distinct ones. They are
distinct from those of the outbox anyway. -/
theorem nodup_after {client : Client} {calls : List (Call StagedRow)} {step : Step}
    (among : step ∈ steps client calls) (distinct : step.before.world.state.ids.Nodup)
    (careful : ∀ session, Accepts session step → session.ids.Nodup) :
    step.after.world.state.ids.Nodup := by
  by_cases accepting : ∃ session, Accepts session step
  · obtain ⟨session, accepts⟩ := accepting
    obtain ⟨after, free⟩ := ids_of_accepts among accepts
    rw [after]
    refine List.nodup_append.mpr ⟨distinct, careful session accepts, ?_⟩
    intro id there other staged same
    exact free other staged (same ▸ there)
  · rw [ids_of_not_accepts among fun session accepts => accepting ⟨session, accepts⟩]
    exact distinct

/-- If every accepted session staged distinct identifiers, those in the outbox stay distinct. The
induction is on the calls and carries the distinctness of the client at hand. -/
theorem nodup_of_accepts {client : Client} {calls : List (Call StagedRow)}
    (distinct : client.world.state.ids.Nodup)
    (careful : ∀ step ∈ steps client calls, ∀ session, Accepts session step → session.ids.Nodup) :
    ∀ step ∈ steps client calls, step.after.world.state.ids.Nodup := by
  induction calls generalizing client with
  | nil => exact fun _ among => absurd among List.not_mem_nil
  | cons call calls inductionHypothesis =>
    let first := client.step store Session.write call
    have among : first ∈ steps client (call :: calls) := List.mem_cons_self
    have after : first.after.world.state.ids.Nodup :=
      nodup_after among distinct (careful first among)
    intro step among
    rcases List.mem_cons.mp among with rfl | later
    · exact after
    · exact inductionHypothesis after
        (fun step among => careful step (List.mem_cons_of_mem _ among)) step later

/-- Whatever a client does with any number of sessions, only a session that stages an identifier
twice can bring one into the outbox twice.

Proof: identifiers change in steps that accept a session and in no others (`ids_of_accepts`,
`ids_of_not_accepts`), and such a step appends those of the session. From left to right the session
is therefore part of a list that is free of repetitions; from right to left the outbox stays free of
them by induction on the calls, since a commit compares with the outbox (`fresh_of_commit`). A
commit that finds an identifier there cannot succeed for the same reason, and one that fails leaves
the memory as it was (`commit_error`). -/
theorem ids_unique (client : Client) (distinct : client.world.state.ids.Nodup)
    (calls : List (Call StagedRow)) : Unique (steps client calls) := by
  refine ⟨⟨?_, nodup_of_accepts distinct⟩, ?_⟩
  · intro nodup step among session accepts
    have after := nodup step among
    rw [(ids_of_accepts among accepts).1] at after
    exact (List.nodup_append.mp after).2.1
  · intro step among session commits ⟨id, staged, there⟩
    obtain ⟨answer, after⟩ := commit_of_commits among commits
    cases outcome : (step.before.world.state.commit session).1 with
    | ok =>
      exact absurd there (fresh_of_commit (Prod.ext outcome rfl) id staged)
    | error error =>
      rw [answer, outcome, after]
      exact ⟨⟨error, rfl⟩, commit_error outcome⟩

/-! ### Small runs -/

/-- A client of a store that holds nothing yet. -/
def fresh : Client where
  world := { ids := fun _ => default, clock := fun _ => default, state := {} }

/-- Two sessions that stage a message each, the second one the message of the first one as well. -/
def crossedSessions : List (Call StagedRow) :=
  [.begin, .begin, .add 0 (.numbered 1), .add 1 (.numbered 2), .add 1 (.numbered 1), .commit 0,
    .commit 1]

/-- The first session is accepted and the second one refused. -/
theorem ids_unique_crossedSessions :
    fresh.world.state.ids.Nodup ∧ Unique (steps fresh crossedSessions) ∧
      (steps fresh crossedSessions).map (·.after.world.state.ids) =
        [[], [], [], [], [], [⟨1⟩], [⟨1⟩]] :=
  ⟨List.nodup_nil, ids_unique fresh List.nodup_nil crossedSessions, rfl⟩

/-- A session that stages a message twice is accepted, and the message is in the outbox twice: the
condition on accepted sessions cannot be dropped. -/
theorem duplicate_accepted :
    ∃ step ∈ steps fresh [.begin, .add 0 (.numbered 1), .add 0 (.numbered 1), .commit 0],
      step.call = .commit 0 ∧ step.answer = .done (.ok ()) ∧
        ¬step.after.world.state.ids.Nodup := by
  refine ⟨_, List.mem_of_getElem? (i := 3) rfl, rfl, rfl, ?_⟩
  decide

end Memory

end OutboxRelay.Outbox

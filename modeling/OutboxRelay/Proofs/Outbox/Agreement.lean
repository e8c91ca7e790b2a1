import OutboxRelay.Proofs.Outbox.Sessions
import OutboxRelay.Proofs.Outbox.Simulation

/-!
# Agreement of the stores

Two clients make the same calls, one of a store in memory and the other of a store over a server
with tables. As long as all added messages have distinct identifiers and distinct times, both are
given the same by every call, and both stores hold the same messages after it. The sessions of the
one are the transactions of the other, which have the same numbers; what a session staged is what
its transaction wrote, and nobody else sees it before the commit.
-/

namespace OutboxRelay.Outbox

open Sql (Link Record Scan Tables Transaction Write)

/-- Messages as a transaction inserts them. -/
def inserts (messages : List Message) : List Write :=
  messages.map fun message => .insert table message.record

/-- The clients see the same, and their sessions correspond to each other: a session and its
transaction have one number, the transaction wrote what the session staged, and it keeps a
connection of the pool for as long as the session is open. Nothing else keeps one. -/
structure Alike (client : Client Memory Session)
    (other : Client (Link Tables) Transaction) : Prop where
  agree : Agree client.world other.world
  opened : other.world.state.opened = client.sessions.length
  length : other.sessions.length = client.sessions.length
  sessions : ∀ number,
    other.session? number = (client.session? number).map fun _ => (⟨number⟩ : Transaction)
  staged : ∀ number session, client.session? number = some session →
    other.world.state.server.written ⟨number⟩ = some (inserts session.outbox)
  keeps : ∀ number session, client.session? number = some session →
    ⟨number⟩ ∈ other.world.state.ongoing
  ongoing : other.world.state.ongoing.length = client.openCount

/-- A pool of that many connections has one for a call that needs one: fewer of them are kept by
the sessions that are open when the call is made. -/
def Roomy {ω : Type} (capacity : Option Nat) (client : Client Memory Session) (call : Call ω) :
    Prop :=
  ∀ size, capacity = some size → call.connects = true → client.openCount < size

section

variable {ω : Type} {client : Client Memory Session} {other : Client (Link Tables) Transaction}
  {calls : List (Call ω)} {scan : Scan}

theorem Alike.free {call : Call ω} (alike : Alike client other)
    (roomy : Roomy other.world.state.capacity client call) (connects : call.connects = true) :
    other.world.state.hasFree = true := by
  unfold Link.hasFree
  cases limited : other.world.state.capacity with
  | none => rfl
  | some size =>
    rw [Option.all_some, decide_eq_true_eq, alike.ongoing]
    exact roomy size limited connects

/-- What both stores give and leave when they simulate each other. -/
structure Matches (other : Client (Link Tables) Transaction)
    (first : Answer × Client Memory Session)
    (second : Answer × Client (Link Tables) Transaction) : Prop where
  answer : first.1 = second.1
  alike : Alike first.2 second.2
  capacity : second.2.world.state.capacity = other.world.state.capacity

/-- Calls outside the sessions. -/
theorem Alike.ask {α : Type} {inMemory : Effect (World Memory) Error α}
    {inDatabase : Effect (World (Link Tables)) Error α} (alike : Alike client other)
    (simulates : Simulates inMemory inDatabase client.world other.world)
    (give : Except Error α → Answer) :
    Matches other (client.ask inMemory give) (other.ask inDatabase give) where
  answer := congrArg give simulates.answer
  alike := {
    agree := simulates.agree
    opened := simulates.keeps.opened.trans alike.opened
    length := alike.length
    sessions := alike.sessions
    staged := fun number session here =>
      (congrFun simulates.keeps.written _).trans (alike.staged number session here)
    keeps := fun number session here =>
      simulates.keeps.ongoing ▸ alike.keeps number session here
    ongoing := (congrArg List.length simulates.keeps.ongoing).trans alike.ongoing }
  capacity := simulates.keeps.capacity

/-- A call within a session that is gone does nothing on either side. -/
theorem Alike.within_gone {number : Nat} (alike : Alike client other)
    (gone : client.session? number = none) (inMemory : InSession Memory Session Unit)
    (inDatabase : InSession (Link Tables) Transaction Unit) :
    Matches other (client.within number inMemory) (other.within number inDatabase) := by
  have goneOther : other.session? number = none := by
    rw [alike.sessions, gone]
    rfl
  rw [Client.within_missing gone, Client.within_missing goneOther]
  exact ⟨rfl, alike, rfl⟩

theorem Alike.finish_gone {number : Nat} (alike : Alike client other)
    (gone : client.session? number = none)
    (inMemory : Session → Effect (World Memory) Error Unit)
    (inDatabase : Transaction → Effect (World (Link Tables)) Error Unit) :
    Matches other (client.finish number inMemory) (other.finish number inDatabase) := by
  have goneOther : other.session? number = none := by
    rw [alike.sessions, gone]
    rfl
  rw [Client.finish_missing gone, Client.finish_missing goneOther]
  exact ⟨rfl, alike, rfl⟩

/-! ### Sessions and transactions -/

variable {write : ω → Session → Session}
  {unsupported : ω → Transaction → Transaction} {number : Nat} {session : Session}

theorem Alike.transaction (alike : Alike client other)
    (here : client.session? number = some session) :
    other.session? number = some ⟨number⟩ := by
  rw [alike.sessions, here]
  rfl

/-- A session that was replaced or ended on both sides. -/
theorem Alike.set (alike : Alike client other) (here : client.session? number = some session)
    {changed : Option Session} {world : World Memory} {database : World (Link Tables)}
    (agree : Agree world database)
    (opened : database.state.opened = other.world.state.opened)
    (written : ∀ transaction, database.state.server.written transaction =
      if transaction = ⟨number⟩ then changed.map fun session => inserts session.outbox
      else other.world.state.server.written transaction)
    (ongoing : database.state.ongoing =
      if changed.isSome then other.world.state.ongoing
      else other.world.state.ongoing.erase ⟨number⟩) :
    Alike { world, sessions := client.sessions.set number changed }
      { world := database
        sessions := other.sessions.set number (changed.map fun _ => ⟨number⟩) } := by
  have inside := Client.lt_of_session? here
  have insideOther : number < other.sessions.length := alike.length ▸ inside
  refine ⟨agree, ?_, ?_, fun asked => ?_, fun asked session there => ?_,
    fun asked session there => ?_, ?_⟩
  · rw [opened, alike.opened, List.length_set]
  · rw [List.length_set, List.length_set, alike.length]
  · rw [Client.session?_set inside, Client.session?_set insideOther]
    split
    · next same => rw [same]
    · exact alike.sessions asked
  · rw [Client.session?_set inside] at there
    rw [written]
    split at there
    · next same => rw [if_pos (congrArg Transaction.mk same), there, Option.map_some]
    · next different =>
      rw [if_neg (mt (congrArg Transaction.number) different)]
      exact alike.staged asked session there
  · rw [Client.session?_set inside] at there
    rw [ongoing]
    split at there
    · next same =>
      rw [there, same]
      exact alike.keeps number _ here
    · next different =>
      have kept := alike.keeps asked session there
      split
      · exact kept
      · exact (List.mem_erase_of_ne (mt (congrArg Transaction.number) different)).mpr kept
  · have counted := Client.openCount_set here world changed
    rw [ongoing]
    cases changed with
    | some changed => exact alike.ongoing.trans (Nat.add_right_cancel counted).symm
    | none =>
      have one := List.length_erase_of_mem (alike.keeps number session here)
      rw [alike.ongoing] at one
      exact one.trans (Nat.sub_eq_of_eq_add counted.symm)

theorem Alike.begin (alike : Alike client other) (free : other.world.state.hasFree = true) :
    Matches other (client.perform Memory.store write .begin)
      (other.perform (Database.store (Tables.server scan)) unsupported .begin) := by
  have opened : (Database.store (Tables.server scan)).begin.perform other.world =
      (.ok ⟨other.world.state.opened⟩,
        { other.world with state := {
          other.world.state with
          opened := other.world.state.opened + 1
          ongoing := other.world.state.ongoing ++ [⟨other.world.state.opened⟩]
          server :=
            other.world.state.server.setWritten ⟨other.world.state.opened⟩ (some []) } }) := by
    unfold Database.store
    rw [Database.perform_onLink, Tables.perform_openTransaction free]
    rfl
  have begun : (Memory.store.begin).perform client.world = (.ok {}, client.world) := rfl
  have numbered : other.world.state.opened = other.sessions.length :=
    alike.opened.trans alike.length.symm
  rw [Client.perform, Client.perform, opened, begun]
  refine ⟨rfl, ⟨?_, ?_, ?_, fun asked => ?_, fun asked session there => ?_,
    fun asked session there => ?_, ?_⟩, rfl⟩
  · exact alike.agree.congr rfl rfl rfl
  · rw [List.length_append, ← alike.opened]
    rfl
  · rw [List.length_append, List.length_append, alike.length]
    rfl
  · rw [Client.session?_append, Client.session?_append, alike.length]
    split
    · next last => rw [last, alike.opened, Option.map_some]
    · exact alike.sessions asked
  · rw [Client.session?_append] at there
    dsimp only
    rw [Tables.written_setWritten]
    split at there
    · next last =>
      cases there
      rw [if_pos (congrArg Transaction.mk (last.trans alike.opened.symm))]
      rfl
    · next earlier =>
      have apart : (⟨asked⟩ : Transaction) ≠ ⟨other.world.state.opened⟩ := fun same =>
        earlier ((congrArg Transaction.number same).trans alike.opened)
      rw [if_neg apart]
      exact alike.staged asked session there
  · rw [Client.session?_append] at there
    refine List.mem_append.mpr ?_
    split at there
    · next last => exact .inr (List.mem_singleton.mpr (congrArg _ (last.trans alike.opened.symm)))
    · exact .inl (alike.keeps asked session there)
  · rw [List.length_append, alike.ongoing, Client.openCount_append]
    rfl

theorem Alike.abandon (alike : Alike client other)
    (here : client.session? number = some session) :
    Matches other
      (client.perform Memory.store write (.abandon number))
      (other.perform (Database.store (Tables.server scan)) unsupported (.abandon number)) := by
  have ended : ((Database.store (Tables.server scan)).abandon ⟨number⟩).perform other.world =
      (.ok (),
        { other.world with state := {
          other.world.state with
          ongoing := other.world.state.ongoing.erase ⟨number⟩
          server := other.world.state.server.setWritten ⟨number⟩ none } }) := by
    unfold Database.store
    rw [Database.perform_onLink, Tables.perform_rollBack]
    rfl
  rw [Memory.perform_abandon here, Client.perform,
    Client.finish_open (alike.transaction here) ended]
  exact ⟨rfl, alike.set here (alike.agree.congr rfl rfl rfl) rfl (fun _ => rfl) rfl, rfl⟩

/-- What a transaction inserted stands behind what was committed. -/
theorem applyAll_inserts (messages : List Message) (records : String → List Record) :
    Write.applyAll (inserts messages) records table =
      records table ++ messages.map Message.record := by
  induction messages generalizing records with
  | nil => exact (List.append_nil _).symm
  | cons message rest inductionHypothesis =>
    change Write.applyAll (inserts rest) ((Write.insert table message.record).apply records) table =
      _
    rw [inductionHypothesis, Write.apply_insert, List.map_cons, List.append_assoc]
    rfl

/-- An identifier that no message has is no key of a record. -/
theorem any_key_eq_false {messages : List Message} {records : List Record} {id : Identifier}
    (same : records.Perm (messages.map Message.record)) (fresh : id ∉ messages.map (·.id)) :
    (records.any fun record => record Sql.keyColumn = .id id) = false := by
  rw [List.any_eq_false]
  intro record among taken
  obtain ⟨message, here, rfl⟩ := List.mem_map.mp (same.subset among)
  refine fresh (List.mem_map.mpr ⟨message, here, ?_⟩)
  have key : message.record Sql.keyColumn = .id message.id := rfl
  simpa [key] using taken

theorem Alike.commit (alike : Alike client other) (here : client.session? number = some session)
    (fresh : ∀ message ∈ session.outbox, message.id ∉ client.world.state.outbox.map (·.id)) :
    Matches other
      (client.perform Memory.store write (.commit number))
      (other.perform (Database.store (Tables.server scan)) unsupported (.commit number)) := by
  have accepted :
      client.world.state.commit session = (.ok (), client.world.state.apply session) := by
    have clash : client.world.state.clash? session = none := by
      refine List.find?_eq_none.mpr fun message among taken => fresh message among ?_
      obtain ⟨old, there, same⟩ := List.any_eq_true.mp taken
      exact List.mem_map.mpr ⟨old, there, eq_of_beq same⟩
    rw [Memory.commit, alike.agree.commits, clash]
    rfl
  have free : other.world.state.server.clashes (inserts session.outbox) = false := by
    rw [Tables.clashes, inserts, List.any_map, List.any_eq_false]
    intro message among
    rw [Bool.not_eq_true]
    exact any_key_eq_false alike.agree.rows (fresh message among)
  have ended : ((Database.store (Tables.server scan)).commit ⟨number⟩).perform other.world =
      (.ok (),
        { other.world with state := {
          other.world.state with
          ongoing := other.world.state.ongoing.erase ⟨number⟩
          server := { other.world.state.server.setWritten ⟨number⟩ none with
            records :=
              Write.applyAll (inserts session.outbox) other.world.state.server.records } } }) := by
    unfold Database.store
    dsimp only
    rw [Database.perform_onLink,
      Tables.perform_commitTransaction (alike.staged number session here) free]
    rfl
  rw [Memory.perform_commit here, accepted, Client.perform,
    Client.finish_open (alike.transaction here) ended]
  refine ⟨rfl, alike.set here ⟨alike.agree.commits, alike.agree.polls, alike.agree.clock,
    alike.agree.readings, ?_⟩ rfl (fun _ => rfl) rfl, rfl⟩
  change (Write.applyAll _ _ table).Perm ((client.world.state.outbox ++ session.outbox).map _)
  rw [applyAll_inserts, List.map_append]
  exact alike.agree.rows.append_right _

theorem Alike.add (alike : Alike client other) (here : client.session? number = some session)
    {message : Message}
    (fresh : message.id ∉ (client.world.state.outbox ++ session.outbox).map (·.id)) :
    Matches other
      (client.perform Memory.store write (.add number message))
      (other.perform (Database.store (Tables.server scan)) unsupported (.add number message)) := by
  have ongoing := alike.staged number session here
  have seen : (other.world.state.server.seen (.transaction ⟨number⟩) table).Perm
      ((client.world.state.outbox ++ session.outbox).map Message.record) := by
    rw [Tables.seen, ongoing, Option.getD_some, applyAll_inserts, List.map_append]
    exact alike.agree.rows.append_right _
  let after := (other.world.state.server.count (Query.add message).command).write
    (.transaction ⟨number⟩) (.insert table message.asAdded.record)
  have inserted : other.world.state.server.run scan (.transaction ⟨number⟩) (Query.add message) =
      (.ok (.affected 1), after) := by
    change (if (other.world.state.server.seen (.transaction ⟨number⟩) table).any
      (fun record => record Sql.keyColumn = .id message.id) = true then _ else _) = _
    rw [any_key_eq_false seen fresh]
    rfl
  have added : ((Database.store (Tables.server scan)).add message).perform
      (other.world, ⟨number⟩) =
      (.ok (),
        { other.world with state := { other.world.state with server := after } }, ⟨number⟩) := by
    have executed : (Database.onLink ((Tables.server scan).execute (.transaction ⟨number⟩)
        (Query.add message))).perform other.world =
        (.ok 1, { other.world with state := { other.world.state with server := after } }) := by
      rw [Database.perform_onLink, Tables.perform_execute_within ongoing, inserted]
      rfl
    have outside := (World.perform_outside (Database.onLink ((Tables.server scan).execute
      (.transaction ⟨number⟩) (Query.add message))) other.world
      (⟨number⟩ : Transaction)).trans (by rw [executed])
    have read : (get : InSession (Link Tables) Transaction _).perform (other.world, ⟨number⟩) =
      (.ok (other.world, ⟨number⟩), other.world, ⟨number⟩) := rfl
    unfold Database.store
    dsimp only
    rw [Effect.perform_bind_ok read]
    dsimp only
    rw [Effect.perform_bind_ok outside]
    rfl
  rw [Memory.perform_add here, Client.perform,
    Client.within_open (alike.transaction here) added]
  refine ⟨rfl, alike.set here (alike.agree.congr rfl rfl rfl) rfl (fun asked => ?_) rfl, rfl⟩
  dsimp only [after, Tables.write]
  rw [Tables.written_setWritten]
  split
  · change (other.world.state.server.written ⟨number⟩).map _ = _
    rw [ongoing]
    simp [inserts, Session.add]
  · rfl

end

/-! ### Runs -/

section

variable {client : Client Memory Session} {other : Client (Link Tables) Transaction}
  {calls : List (Call Empty)} {scan : Scan}

/-- Two clients that make no business writes. -/
theorem Alike.step {call : Call Empty} (alike : Alike client other)
    (roomy : Roomy other.world.state.capacity client call)
    (ids : ((Memory.messages client).map (·.id) ++
      ((call :: calls).flatMap Call.added).map (·.id)).Nodup)
    (times : ((Memory.messages client).map (·.occurredOn)).Nodup) :
    Matches other (client.perform Memory.store nofun call)
      (other.perform (Database.store (Tables.server scan)) nofun call) := by
  have free := alike.free roomy
  have inOutbox : client.world.state.outbox.Sublist (Memory.messages client) :=
    List.sublist_append_left _ _
  have outboxIds := (ids.sublist (List.sublist_append_left _ _)).sublist (inOutbox.map (·.id))
  have outboxTimes := times.sublist (inOutbox.map (·.occurredOn))
  cases call with
  | begin => exact alike.begin (free rfl)
  | add number message =>
    cases here : client.session? number with
    | none => exact alike.within_gone here _ _
    | some session =>
      refine alike.add here fun taken => ?_
      have among := ((Memory.sublist_messages here).map (·.id)).subset taken
      exact (List.nodup_append.mp ids).2.2 message.id among message.id List.mem_cons_self rfl
  | write number written => exact nomatch written
  | commit number =>
    cases here : client.session? number with
    | none => exact alike.finish_gone here _ _
    | some session =>
      have apart := (ids.sublist (List.sublist_append_left _ _)).sublist
        ((Memory.sublist_messages here).map (·.id))
      rw [List.map_append] at apart
      refine alike.commit here fun message among taken => ?_
      have staged : message.id ∈ session.outbox.map (·.id) := List.mem_map_of_mem among
      exact (List.nodup_append.mp apart).2.2 message.id taken message.id staged rfl
  | abandon number =>
    cases here : client.session? number with
    | none => exact alike.finish_gone here _ _
    | some session => exact alike.abandon here
  | getUnprocessed limit =>
    exact alike.ask (simulates_getUnprocessed alike.agree (free rfl) outboxTimes limit) _
  | getRetryable limit ceiling =>
    exact alike.ask (simulates_getRetryable alike.agree (free rfl) outboxTimes limit ceiling) _
  | getExhausted limit ceiling =>
    exact alike.ask (simulates_getExhausted alike.agree (free rfl) outboxTimes limit ceiling) _
  | markAsProcessed id =>
    exact alike.ask (simulates_markAsProcessed alike.agree (free rfl) outboxIds id) _
  | markAsFailed id error retryCount =>
    exact alike.ask (simulates_markAsFailed alike.agree (free rfl) outboxIds id error retryCount) _
  | resetRetries id =>
    exact alike.ask (simulates_resetRetries alike.agree (free rfl) outboxIds id) _

end

/-- A step of the client of the store in memory and one of the client of the database: the same
answer, and the same messages in both stores after it. -/
def Agrees (first : Client.Step Empty Memory Session)
    (second : Client.Step Empty (Link Tables) Transaction) : Prop :=
  first.answer = second.answer ∧
    (second.after.world.state.server.records table).Perm
      (first.after.world.state.outbox.map Message.record)

/-- Clients that begin alike agree in every step. -/
theorem Alike.steps {scan : Scan} {client : Client Memory Session}
    {other : Client (Link Tables) Transaction} {calls : List (Call Empty)}
    (alike : Alike client other)
    (roomy : ∀ step ∈ client.steps Memory.store nofun calls,
      Roomy other.world.state.capacity step.before step.call)
    (ids : ((Memory.messages client).map (·.id) ++
      (calls.flatMap Call.added).map (·.id)).Nodup)
    (times : ((Memory.messages client).map (·.occurredOn) ++
      (calls.flatMap Call.added).map (·.occurredOn)).Nodup) :
    List.Forall₂ Agrees (client.steps Memory.store nofun calls)
      (other.steps (Database.store (Tables.server scan)) nofun calls) := by
  induction calls generalizing client other with
  | nil => exact .nil
  | cons call calls inductionHypothesis =>
    have step : Matches other (client.perform Memory.store nofun call)
        (other.perform (Database.store (Tables.server scan)) nofun call) :=
      alike.step (roomy _ List.mem_cons_self) ids
        (times.sublist (List.sublist_append_left _ _))
    refine .cons ⟨step.answer, step.alike.agree.rows⟩ (inductionHypothesis step.alike
      (fun later among => ?_) ?_ ?_)
    · exact step.capacity ▸ roomy later (List.mem_cons_of_mem _ among)
    · exact Memory.nodup_perform (fun _ => rfl) nofun ids
    · exact Memory.nodup_perform (fun _ => rfl) nofun times

/-- For every sequence of calls in which identifiers and times are added only once, the store in
memory and the one in a database give the same answers and hold the same messages after each of
them, whatever order the server comes across its rows in, as long as its pool has a connection
left whenever one is needed: fewer sessions are open at that time than it has connections.

Proof: by induction on the calls, with `Alike` as the invariant, which `Alike.step` keeps call by
call. Distinct identifiers and times are carried along with the messages that there are so far
(`Memory.nodup_perform`), so that a change concerns one row only and a selection has one order
only. -/
theorem stores_agree (scan : Scan) (ids : Nat → Identifier) (clock : Nat → Instant)
    (capacity : Option Nat) (calls : List (Call Empty))
    (room : ∀ size, capacity = some size →
      ∀ step ∈ Client.steps Memory.store nofun { world := { ids, clock, state := {} } } calls,
        step.call.connects = true → step.before.openCount < size)
    (distinctIds : ((calls.flatMap Call.added).map (·.id)).Nodup)
    (distinctTimes : ((calls.flatMap Call.added).map (·.occurredOn)).Nodup) :
    List.Forall₂ Agrees
      (Client.steps Memory.store nofun { world := { ids, clock, state := {} } } calls)
      (Client.steps (Database.store (Tables.server scan)) nofun
        { world := { ids, clock, state := { capacity, server := { clock } } } } calls) := by
  have alike : Alike { world := { ids, clock, state := {} } }
      { world := { ids, clock, state := { capacity, server := { clock } } } } := by
    refine ⟨⟨rfl, rfl, rfl, rfl, List.Perm.refl _⟩, rfl, rfl, fun _ => rfl,
      fun _ _ here => (nomatch here), fun _ _ here => (nomatch here), rfl⟩
  exact alike.steps (fun step among size limited => room size limited step among) distinctIds
    distinctTimes

/-- A server that comes across its rows from the last one to the first one. -/
def backwards : Scan where
  order _ records := records.reverse
  perm _ records := records.reverse_perm

/-- Two sessions overlap, of whose messages one fails and the other one is published twice; one
message is never there. A pool of two connections is enough, since a poll is made only after one of
the sessions is gone. -/
def overlappingSessions : List (Call Empty) :=
  [.begin, .begin, .add 0 (.numbered 2), .add 1 (.numbered 1), .commit 0, .getUnprocessed 5,
    .commit 1, .getUnprocessed 5, .markAsFailed ⟨1⟩ "down" 3, .markAsProcessed ⟨2⟩,
    .markAsProcessed ⟨2⟩, .markAsProcessed ⟨7⟩, .getRetryable (-1) 3, .getExhausted 5 3,
    .resetRetries ⟨1⟩, .getRetryable 5 3]

/-- A client of an empty store in memory. -/
def memoryClient : Client Memory Session where
  world := { ids := fun _ => default, clock := fun reading => ⟨reading, 0⟩, state := {} }

/-- A client of an empty database that has a pool of two connections. -/
def databaseClient : Client (Link Tables) Transaction where
  world := {
    ids := fun _ => default
    clock := fun reading => ⟨reading, 0⟩
    state := { capacity := some 2, server := { clock := fun reading => ⟨reading, 0⟩ } } }

theorem stores_agree_overlappingSessions :
    (∀ size, some 2 = some size →
      ∀ step ∈ memoryClient.steps Memory.store nofun overlappingSessions,
        step.call.connects = true → step.before.openCount < size) ∧
      ((overlappingSessions.flatMap Call.added).map (·.id)).Nodup ∧
      ((overlappingSessions.flatMap Call.added).map (·.occurredOn)).Nodup ∧
      List.Forall₂ Agrees (memoryClient.steps Memory.store nofun overlappingSessions)
        (databaseClient.steps (Database.store (Tables.server backwards)) nofun
          overlappingSessions) := by
  have room : ∀ size, some 2 = some size →
      ∀ step ∈ memoryClient.steps Memory.store nofun overlappingSessions,
        step.call.connects = true → step.before.openCount < size := by
    rintro size ⟨⟩
    decide
  have ids : ((overlappingSessions.flatMap Call.added).map (·.id)).Nodup := by decide
  have times : ((overlappingSessions.flatMap Call.added).map (·.occurredOn)).Nodup := by decide
  exact ⟨room, ids, times, stores_agree backwards _ _ (some 2) overlappingSessions room ids times⟩

end OutboxRelay.Outbox

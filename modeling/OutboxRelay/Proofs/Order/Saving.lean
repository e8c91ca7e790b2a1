import OutboxRelay.Proofs.Order.Rows
import OutboxRelay.Proofs.Order.Service
import OutboxRelay.Proofs.Outbox.Agreement
import OutboxRelay.Proofs.UnitOfWork.Course

/-!
# Saving an order

Saving an order is opening a session, writing the order, adding the message of its event and closing
the session. The storage in memory stages the row and the message and applies both at once. The
storage in a database sends two statements within a transaction and commits it. Neither can fail as
long as the order can be written, the identifier of the message is not taken and the server has a
free connection, and then both leave the same order and the same message behind.
-/

namespace OutboxRelay.Order

open Outbox (InSession Memory Message Session)
open Sql (Link Scan Tables Transaction Write)
open UnitOfWork (stampedWorld)

/-- An order as saving it leaves it, which is the same for every storage. -/
def kept (change : Change) (user : String) (now : Instant) (order : Order) : Order :=
  (order.stamped change user now).clearPending

section

variable {σ S : Type} {change : Change} {order : Order} {event : Event}

/-- Whatever the storage, saving an order with one event takes four steps, and if all of them
succeed, then it gives the order back as it was written. A storage only has to say what each of the
four steps does to its worlds. -/
theorem perform_save_steps (service : Service σ S) (single : order.pending = [event])
    {world begun persisted reached after : World σ} {session staged left : S} {rows : UInt64}
    (opened : service.storage.store.begin.perform (stampedWorld world) = (.ok session, begun))
    (persists : (service.storage.persist change
      (order.kept change service.user (world.clock world.readings))).perform (begun, session) =
        (.ok rows, persisted, staged))
    (added : (service.storage.store.add
      (messageOf (persisted.ids persisted.drawn) event.kind event.fact)).perform
        ({ persisted with drawn := persisted.drawn + 1 }, staged) = (.ok (), reached, left))
    (closed : (service.storage.store.commit left).perform reached = (.ok (), after)) :
    (service.save change order).perform world =
      (.ok (order.kept change service.user (world.clock world.readings)), after) := by
  obtain ⟨id, customerId, totalCents, status, cancelReason, audit, pending⟩ := order
  subst single
  let settled : Order := kept change service.user (world.clock world.readings)
    ⟨id, customerId, totalCents, status, cancelReason, audit, [event]⟩
  have wrote : (service.work.persistAll [⟨change, settled⟩]).perform (begun, session) =
      (.ok rows, persisted, staged) :=
    (Effect.perform_bind_ok persists _).trans
      (congrArg (fun sum => (Except.ok sum, persisted, staged)) (UInt64.add_zero rows))
  have staging : (service.work.stage [⟨change, settled⟩] [event]).perform (begun, session) =
      (.ok rows, reached, left) := by
    have dispatched := (perform_dispatch service.storage.store event persisted staged).trans added
    rw [UnitOfWork.stage, Effect.perform_bind_ok wrote]
    exact Effect.perform_bind_ok dispatched _
  have written : (service.work.write [⟨change, settled⟩] [event]).perform (stampedWorld world) =
      (.ok rows, after) := by
    have whole := UnitOfWork.perform_inSession_ok opened staging
    rwa [closed] at whole
  have committed : StateT.run (service.work.commit
      [⟨change, ⟨id, customerId, totalCents, status, cancelReason, audit, [event]⟩⟩]) world =
      ((((service.work.write [⟨change, settled⟩] [event]).perform (stampedWorld world)).1,
        [⟨change, settled⟩]),
        ((service.work.write [⟨change, settled⟩] [event]).perform (stampedWorld world)).2) := rfl
  rw [Service.save, Effect.perform_bind, Effect.perform_ofState, committed, written]
  rfl

end

/-! ### In memory -/

/-- The service over a store in memory. -/
def memoryService (user : String) : Service Memory Session := ⟨memoryStorage, user⟩

/-- A store in memory that was not told to fail saves an order as long as the identifier of the
message is not taken. It applies the row and the message at once. -/
theorem save_in_memory {user : String} {change : Change} {order : Order} {event : Event}
    (single : order.pending = [event]) {world : World Memory}
    (accepts : world.state.failNextCommit = false)
    (fresh : world.ids world.drawn ∉ world.state.outbox.map (·.id)) :
    ((memoryService user).save change order).perform world =
      (.ok (order.kept change user (world.clock world.readings)),
        { world with
          readings := world.readings + 1
          drawn := world.drawn + 1
          state := world.state.apply
            (sessionOf (order.kept change user (world.clock world.readings))
              (messageOf (world.ids world.drawn) event.kind event.fact)) }) := by
  let message := messageOf (world.ids world.drawn) event.kind event.fact
  have untaken : message.id ∉ world.state.outbox.map (·.id) := fresh
  have closed := commit_sessionOf (order.kept change user (world.clock world.readings)) accepts
    untaken
  refine perform_save_steps (memoryService user) single rfl rfl rfl ?_
  exact congrArg (fun given => (given.1, ({ world with
    readings := world.readings + 1
    drawn := world.drawn + 1
    state := given.2 } : World Memory))) closed

/-! ### In a database -/

section

variable {scan : Scan} {change : Change} {record : Record} {records : List Record}

/-- The server that the tables of the application are kept on, with the checks that they make on
orders. -/
abbrev tableServer (scan : Scan) : Sql.Server Tables := Tables.constrainedServer allows scan

/-- The service over a database. -/
def databaseService (scan : Scan) (user : String) : Service (Link Tables) Transaction :=
  ⟨Database.storage (tableServer scan), user⟩

/-- A statement within a transaction that keeps to the constraints and succeeds. It changes the
tables of the server and nothing else in the world. -/
theorem perform_outside_execute {world : World (Link Tables)} {transaction : Transaction}
    {query : Sql.Query} {writes : List Write} {count : UInt64} {after : Tables}
    (ongoing : world.state.server.written transaction = some writes)
    (kept : world.state.server.violates allows (.transaction transaction) query = false)
    (ran : world.state.server.run scan (.transaction transaction) query =
      (.ok (.affected count), after)) :
    (World.outside (Outbox.Database.onLink
      ((tableServer scan).execute (.transaction transaction) query)) :
        InSession (Link Tables) Transaction UInt64).perform (world, transaction) =
      (.ok count, { world with state := { world.state with server := after } }, transaction) := by
  have executed : (Outbox.Database.onLink
      ((tableServer scan).execute (.transaction transaction) query)).perform world =
      (.ok count, { world with state := { world.state with server := after } }) := by
    rw [Outbox.Database.perform_onLink, Tables.perform_execute_constrained kept,
      Tables.perform_execute_within ongoing, ran]
    rfl
  rw [World.perform_outside, executed]

/-- Within a transaction its own statements are known. -/
theorem perform_get_session {world : World (Link Tables)} {transaction : Transaction} :
    (get : InSession (Link Tables) Transaction _).perform (world, transaction) =
      (.ok (world, transaction), world, transaction) := rfl

/-- Opening a transaction on a free connection. It is numbered behind those opened before, and has
written nothing yet. -/
theorem begin_in_database (scan : Scan) {world : World (Link Tables)}
    (free : world.state.hasFree = true) :
    (Outbox.Database.store (tableServer scan)).begin.perform world =
      (.ok ⟨world.state.opened⟩, { world with state := { world.state with
        opened := world.state.opened + 1
        ongoing := world.state.ongoing ++ [⟨world.state.opened⟩]
        server := world.state.server.setWritten ⟨world.state.opened⟩ (some []) } }) := by
  unfold Outbox.Database.store
  rw [Outbox.Database.perform_onLink, Tables.openTransaction_constrained,
    Tables.perform_openTransaction free]
  rfl

/-- Writing an order within a transaction that wrote nothing before. One row is affected, what is
committed stays as it is, and the transaction has written just this row. -/
theorem persist_in_database (scan : Scan) {world : World (Link Tables)} {transaction : Transaction}
    {order : Order} (ongoing : world.state.server.written transaction = some [])
    (canWrite : CanWrite change order.toRecord records) (once : (records.map (·.id)).Nodup)
    (holds : world.state.server.records table = records.map Record.row)
    (positive : 0 < order.totalCents) :
    ∃ after moment,
      (Database.persist (tableServer scan) change order).perform (world, transaction) =
        (.ok 1, { world with state := { world.state with server := after } }, transaction) ∧
      after.records = world.state.server.records ∧
      after.written transaction = some [write change order.toRecord moment] := by
  have seen :
      world.state.server.seen (.transaction transaction) table = records.map Record.row := by
    rw [Tables.seen, ongoing]
    exact holds
  have ran := run_write scan canWrite once seen
  have kept := violates_write canWrite once seen positive
  refine ⟨(world.state.server.count (Query.write change order.toRecord).command).write
    (.transaction transaction) (write change order.toRecord
      (world.state.server.clock world.state.server.readings)),
    world.state.server.clock world.state.server.readings, ?_, rfl, ?_⟩
  · rw [Database.persist, Effect.perform_bind_ok perform_get_session]
    dsimp only
    rw [Effect.perform_bind_ok (perform_outside_execute ongoing kept ran)]
    rfl
  · exact Tables.written_write ongoing _ _

/-- Adding a message within a transaction that wrote an order. The insert finds no record with the
same key, neither among those committed nor among those that the transaction wrote. -/
theorem add_in_database (scan : Scan) (world : World (Link Tables)) {transaction : Transaction}
    (message : Message) {messages : List Message} {moment : Instant}
    (ongoing : world.state.server.written transaction = some [write change record moment])
    (holds : world.state.server.records Outbox.table = messages.map Message.record)
    (fresh : message.id ∉ messages.map (·.id)) (unattempted : message.asAdded = message) :
    ∃ after, ((Outbox.Database.store (tableServer scan)).add message).perform (world, transaction) =
        (.ok (), { world with state := { world.state with server := after } }, transaction) ∧
      after.records = world.state.server.records ∧
      after.written transaction =
        some [write change record moment, .insert Outbox.table message.record] := by
  have other : Outbox.table ≠ table := by decide
  have seen : world.state.server.seen (.transaction transaction) Outbox.table =
      messages.map Message.record := by
    rw [Tables.seen, ongoing]
    exact (apply_write_ne other moment).trans holds
  have free := Outbox.any_key_eq_false (List.Perm.of_eq seen) fresh
  let after := (world.state.server.count (Outbox.Query.add message).command).write
    (.transaction transaction) (.insert Outbox.table message.asAdded.record)
  have ran : world.state.server.run scan (.transaction transaction) (Outbox.Query.add message) =
      (.ok (.affected 1), after) := by
    change (if (world.state.server.seen (.transaction transaction) Outbox.table).any
      (fun record => record Sql.keyColumn = .id message.id) = true then _ else _) = _
    rw [free]
    rfl
  have kept : world.state.server.violates allows (.transaction transaction)
      (Outbox.Query.add message) = false := by
    change (!allows Outbox.table message.asAdded.record) = false
    rw [allows_message]
    rfl
  refine ⟨after, ?_, rfl, ?_⟩
  · unfold Outbox.Database.store
    dsimp only
    rw [Effect.perform_bind_ok perform_get_session]
    dsimp only
    rw [Effect.perform_bind_ok (perform_outside_execute ongoing kept ran)]
    rfl
  · rw [← unattempted]
    exact Tables.written_write ongoing _ _

/-- An order that can be written and a message under an identifier that is not taken clash with
nothing that is committed, so that the keys of both tables are respected. -/
theorem clashes_eq_false {tables : Tables} {message : Message} {messages : List Message}
    (canWrite : CanWrite change record records)
    (orders : tables.records table = records.map Record.row)
    (holds : tables.records Outbox.table = messages.map Message.record)
    (fresh : message.id ∉ messages.map (·.id)) (moment : Instant) :
    tables.clashes [write change record moment, .insert Outbox.table message.record] = false := by
  have freeMessage : ((tables.records Outbox.table).any fun row =>
      row Sql.keyColumn = .id message.id) = false :=
    Outbox.any_key_eq_false (List.Perm.of_eq holds) fresh
  have key : message.record Sql.keyColumn = .id message.id := rfl
  cases change with
  | added =>
    have freeOrder := any_key_eq_false orders canWrite
    simp only [Tables.clashes, write, List.any_cons, List.any_nil, key, freeMessage, Bool.or_false]
    exact freeOrder
  | modified =>
    simp only [Tables.clashes, write, List.any_cons, List.any_nil, key, freeMessage, Bool.or_false]

/-- Committing a transaction that wrote an order and a message. Its connection is free again, and
both writes are applied to what was committed, in this order. -/
theorem commit_in_database (scan : Scan) (world : World (Link Tables)) {transaction : Transaction}
    {message : Message} {messages : List Message} {moment : Instant}
    (ongoing : world.state.server.written transaction =
      some [write change record moment, .insert Outbox.table message.record])
    (canWrite : CanWrite change record records) (once : (records.map (·.id)).Nodup)
    (orders : world.state.server.records table = records.map Record.row)
    (holds : world.state.server.records Outbox.table = messages.map Message.record)
    (fresh : message.id ∉ messages.map (·.id)) :
    ∃ after : Tables,
      ((Outbox.Database.store (tableServer scan)).commit transaction).perform world =
        (.ok (), { world with state := { world.state with
          ongoing := world.state.ongoing.erase transaction
          server := after } }) ∧
      after.records table = (written change record records).map Record.row ∧
      after.records Outbox.table = (messages ++ [message]).map Message.record := by
  have other : Outbox.table ≠ table := by decide
  let writes : List Write := [write change record moment, .insert Outbox.table message.record]
  have free : world.state.server.clashes writes = false :=
    clashes_eq_false canWrite orders holds fresh moment
  refine ⟨{ world.state.server.setWritten transaction none with
    records := Write.applyAll writes world.state.server.records }, ?_, ?_, ?_⟩
  · unfold Outbox.Database.store
    dsimp only
    rw [Outbox.Database.perform_onLink, Tables.commitTransaction_constrained,
      Tables.perform_commitTransaction ongoing free]
    rfl
  · change (Write.insert Outbox.table message.record).apply
      ((write change record moment).apply world.state.server.records) table = _
    rw [← apply_write canWrite once orders moment]
    simp [Write.apply, other.symm]
  · change (Write.insert Outbox.table message.record).apply
      ((write change record moment).apply world.state.server.records) Outbox.table = _
    rw [Write.apply_insert, apply_write_ne other, holds, List.map_append]
    rfl

/-- Saving an order in a database: it gives the order back as it was written and leaves the order
and the message of its event behind, and no transaction. The four steps of saving are given one
after the other, each in the world that the one before it left. -/
theorem save_in_database (scan : Scan) (user : String) {order : Order} {event : Event}
    (single : order.pending = [event]) {world : World (Link Tables)} {messages : List Message}
    (free : world.state.hasFree = true) (rest : world.state.ongoing = [])
    (canWrite : CanWrite change
      (order.kept change user (world.clock world.readings)).toRecord records)
    (once : (records.map (·.id)).Nodup)
    (orders : world.state.server.records table = records.map Record.row)
    (positive : 0 < order.totalCents)
    (holds : world.state.server.records Outbox.table = messages.map Message.record)
    (fresh : world.ids world.drawn ∉ messages.map (·.id)) :
    ∃ after : Tables,
      ((databaseService scan user).save change order).perform world =
        (.ok (order.kept change user (world.clock world.readings)),
          { world with
            readings := world.readings + 1
            drawn := world.drawn + 1
            state := { world.state with
              opened := world.state.opened + 1
              ongoing := []
              server := after } }) ∧
      after.records table = (written change
        (order.kept change user (world.clock world.readings)).toRecord records).map Record.row ∧
      after.records Outbox.table = (messages ++
        [messageOf (world.ids world.drawn) event.kind event.fact]).map Message.record := by
  let transaction : Transaction := ⟨world.state.opened⟩
  let begun : World (Link Tables) := { stampedWorld world with state := { world.state with
    opened := world.state.opened + 1
    ongoing := world.state.ongoing ++ [transaction]
    server := world.state.server.setWritten transaction (some []) } }
  have connected : (stampedWorld world).state.hasFree = true := free
  have opened := begin_in_database scan connected
  have ongoing : begun.state.server.written transaction = some [] := by
    simp [begun]
  obtain ⟨persisted, moment, persists, samePersisted, writtenOrder⟩ :=
    persist_in_database scan ongoing canWrite once orders positive
  let message := messageOf (world.ids world.drawn) event.kind event.fact
  obtain ⟨added, adds, sameAdded, writtenBoth⟩ := add_in_database scan
    { begun with
      drawn := begun.drawn + 1
      state := { begun.state with server := persisted } }
    message writtenOrder
    ((congrFun samePersisted Outbox.table).trans holds) fresh rfl
  obtain ⟨after, closes, afterOrders, afterMessages⟩ := commit_in_database scan
    { begun with
      drawn := begun.drawn + 1
      state := { begun.state with server := added } }
    writtenBoth canWrite once
    ((congrFun (sameAdded.trans samePersisted) table).trans orders)
    ((congrFun (sameAdded.trans samePersisted) Outbox.table).trans holds) fresh
  refine ⟨after, ?_, afterOrders, afterMessages⟩
  have saved := perform_save_steps (databaseService scan user) single opened persists adds
    closes
  have ended : begun.state.ongoing.erase transaction = [] := by
    simp [begun, rest]
  rw [saved]
  simp only [ended]
  rfl

end

end OutboxRelay.Order

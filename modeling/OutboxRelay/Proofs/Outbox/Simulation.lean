import OutboxRelay.Proofs.Outbox.Rows
import OutboxRelay.Proofs.Outbox.Transcript

/-!
# Calls of both stores

A store in memory next to one over a server with tables. Both hold the same messages, the one as a
list and the other as records in any order. Every call outside the sessions gives the same on both
sides and keeps them in agreement, provided that the identifiers of the messages are distinct and so
are their times: a change then concerns one message at most, and there is one order only in which
messages can be selected.
-/

namespace OutboxRelay.Outbox

open Sql (Link Record Scan Tables Transaction Write)

/-- Both stores hold the same messages and are about to read the same time, and the one in memory is
not told to fail. The records of the table stand in any order; a heap promises none. -/
structure Agree (inMemory : World Memory) (inDatabase : World (Link Tables)) : Prop where
  commits : inMemory.state.failNextCommit = false
  polls : inMemory.state.failNextFetch = false
  clock : inDatabase.state.server.clock = inMemory.clock
  readings : inDatabase.state.server.readings = inMemory.readings
  rows : (inDatabase.state.server.records table).Perm (inMemory.state.outbox.map Message.record)

/-- A step of the database that leaves all sessions alone: it opens none, ends none and keeps what
they have written. -/
structure Keeps (before after : World (Link Tables)) : Prop where
  opened : after.state.opened = before.state.opened
  ongoing : after.state.ongoing = before.state.ongoing
  capacity : after.state.capacity = before.state.capacity
  written : after.state.server.written = before.state.server.written

/-- A call gives the same on both sides and keeps them in agreement. It is one step of the
simulation; the run is an induction on the calls. -/
structure Simulates {α : Type} (inMemory : Effect (World Memory) Error α)
    (inDatabase : Effect (World (Link Tables)) Error α) (memory : World Memory)
    (database : World (Link Tables)) : Prop where
  answer : (inMemory.perform memory).1 = (inDatabase.perform database).1
  agree : Agree (inMemory.perform memory).2 (inDatabase.perform database).2
  keeps : Keeps database (inDatabase.perform database).2

section

variable {scan : Scan} {memory : World Memory} {database : World (Link Tables)}

/-- Of a database, agreement looks at the clock and at the records alone. Its transactions and what
they have written are not seen. -/
theorem Agree.congr (agree : Agree memory database) {other : World (Link Tables)}
    (clock : other.state.server.clock = database.state.server.clock)
    (readings : other.state.server.readings = database.state.server.readings)
    (records : other.state.server.records = database.state.server.records) :
    Agree memory other :=
  ⟨agree.commits, agree.polls, clock.trans agree.clock, readings.trans agree.readings,
    records ▸ agree.rows⟩

/-! ### Selections -/

/-- Counting a statement that does not ask for the time changes nothing that matters. -/
theorem Agree.count (agree : Agree memory database) {command : Sql.Command}
    (silent : command.readsClock = false) :
    Agree memory { database with state.server := database.state.server.count command } := by
  refine agree.congr rfl ?_ rfl
  change database.state.server.readings + (if command.readsClock then 1 else 0) = _
  rw [silent]
  rfl

/-- A selection gives what the oldest eligible messages read as. The columns, the conditions and
what is read of a row are parameters, and the polls are three cases of this. -/
theorem simulates_selection {α : Type} {inMemory : Effect (World Memory) Error (List α)}
    {columns : List Sql.Column} {conditions : List Sql.Condition}
    {parameters : List Sql.Value} {eligible : Message → Bool} {limit : Int}
    {read : Sql.Row → Except Sql.Failure α} {value : Message → α}
    (agree : Agree memory database) (free : database.state.hasFree = true)
    (times : (memory.state.outbox.map (·.occurredOn)).Nodup)
    (found : inMemory.perform memory =
      (.ok ((oldestFirst eligible limit memory.state.outbox).map value), memory))
    (readable : ∀ message : Message, read (columns.map message.record) = .ok (value message)) :
    let query : Sql.Query :=
      ⟨.select columns table conditions (some Column.occurredOn) (some 1), parameters⟩
    query.parameter 1 = Query.limitValue limit →
    (∀ message : Message, conditions.all (·.holds query message.record) = eligible message) →
    Simulates inMemory (Database.onLink ((Tables.server scan).select query read))
      memory database := by
  intro query limited holds
  have answered : (database.state.server.run scan .pool query).1 =
      .ok (.rows ((oldestFirst eligible limit memory.state.outbox).map
        fun message => columns.map message.record)) := by
    change Tables.limited query (some 1) _ = _
    rw [limited_eq limited, Tables.seen, found_eq scan agree.rows times holds]
    simp only [oldestFirst, List.map_take, List.map_map]
    rfl
  have selected :
      (Database.onLink ((Tables.server scan).select query read)).perform database =
        (.ok ((oldestFirst eligible limit memory.state.outbox).map value),
          { database with state.server := database.state.server.count query.command }) := by
    rw [Database.perform_onLink, Tables.perform_select free answered, mapM_ok readable]
    rfl
  constructor
  · rw [found, selected]
  · rw [found, selected]
    exact agree.count rfl
  · rw [selected]
    exact ⟨rfl, rfl, rfl, rfl⟩

/-- A poll in memory that is not told to fail. -/
theorem perform_poll (agree : Agree memory database) (limit : Int) (eligible : Message → Bool) :
    (World.onState (.ofPair (Memory.poll limit eligible)) :
        Effect (World Memory) Error (List Pending)).perform memory =
      (.ok ((oldestFirst eligible limit memory.state.outbox).map (·.toPending)), memory) := by
  rw [World.perform_onState, Effect.perform_ofPair, Memory.poll, agree.polls]
  rfl

section

variable (agree : Agree memory database) (free : database.state.hasFree = true)
  (times : (memory.state.outbox.map (·.occurredOn)).Nodup)

include agree free times

theorem simulates_getUnprocessed (limit : Int) :
    Simulates (Memory.store.getUnprocessed limit)
      ((Database.store (Tables.server scan)).getUnprocessed limit) memory database := by
  refine simulates_selection agree free times (perform_poll agree limit _)
    Message.ofRow_pendingColumns rfl fun message => ?_
  rw [List.all_cons, holds_unprocessed, List.all_nil, Bool.and_true]

theorem simulates_getRetryable (limit ceiling : Int) :
    Simulates (Memory.store.getRetryable limit ceiling)
      ((Database.store (Tables.server scan)).getRetryable limit ceiling) memory database :=
  simulates_selection agree free times (perform_poll agree limit (·.isRetryable ceiling))
    Message.ofRow_pendingColumns rfl fun message => holds_retryable message limit ceiling

theorem simulates_getExhausted (limit ceiling : Int) :
    Simulates (Memory.store.getExhausted limit ceiling)
      ((Database.store (Tables.server scan)).getExhausted limit ceiling) memory database := by
  have found : (Memory.store.getExhausted limit ceiling).perform memory =
      (.ok ((oldestFirst (·.isExhausted ceiling) limit memory.state.outbox).map id), memory) := by
    rw [List.map_id]
    rfl
  exact simulates_selection agree free times found Message.ofRow_messageColumns rfl
    fun message => holds_exhausted message limit ceiling

end

/-! ### Updates -/

/-- An update affects as many records as there are messages that it concerns, and leaves the records
of the changed messages. Here every record under the condition is changed, where the memory changes
the first message. -/
theorem run_update {assignments : List (Sql.Column × Sql.Expression)}
    {conditions : List Sql.Condition} {parameters : List Sql.Value} {condition : Message → Bool}
    (change : Message → Message) (agree : Agree memory database) :
    let query : Sql.Query := ⟨.update table assignments conditions, parameters⟩
    let moment := memory.clock memory.readings
    (∀ message : Message, conditions.all (·.holds query message.record) = condition message) →
    (∀ message : Message, condition message = true →
      Record.assign query moment assignments message.record = (change message).record) →
    (database.state.server.run scan .pool query).1 =
        .ok (.affected (.ofNat (memory.state.outbox.countP condition))) ∧
      ((database.state.server.run scan .pool query).2.records table).Perm
        ((memory.state.outbox.map fun message =>
          if condition message then change message else message).map Message.record) := by
  intro query moment holds assigned
  have same : database.state.server.clock database.state.server.readings = moment := by
    rw [agree.clock, agree.readings]
  rw [← same] at assigned
  obtain ⟨records, count⟩ := update_records
    (fun record => conditions.all (·.holds query record)) _ agree.rows holds assigned
  refine ⟨congrArg (fun number => Except.ok (Sql.Reply.affected (.ofNat number))) count, ?_⟩
  change ((Write.update table _ _).apply database.state.server.records table).Perm _
  rw [Write.apply_update]
  exact records

/-- What concerns one identifier alone concerns one message at most. Changing all of them and
changing the first one are then the same. -/
theorem countP_le_one {messages : List Message} {condition : Message → Bool} {id : Identifier}
    (ids : (messages.map (·.id)).Nodup)
    (only : ∀ message, condition message = true → message.id = id) :
    messages.countP condition ≤ 1 :=
  calc messages.countP condition
    _ ≤ messages.countP (·.id == id) :=
      List.countP_mono_left fun message _ holds => beq_iff_eq.mpr (only message holds)
    _ = (messages.map (·.id)).count id := by rw [List.count, List.countP_map]; rfl
    _ ≤ 1 := List.nodup_iff_count_le_one.mp ids id

/-- One row or none is told apart in words as it is in numbers. -/
theorem ofNat_eq_zero_iff {number : Nat} (few : number ≤ 1) :
    UInt64.ofNat number = 0 ↔ number = 0 := by
  obtain rfl | rfl : number = 0 ∨ number = 1 := by omega
  · simp
  · decide

/-- A change that has to find its message. On both sides the answer tells whether it did, by the
number of records on the one and by the search on the other. -/
theorem simulates_update {assignments : List (Sql.Column × Sql.Expression)}
    {conditions : List Sql.Condition} {parameters : List Sql.Value} {condition : Message → Bool}
    {change : Message → Message} {id : Identifier} (agree : Agree memory database)
    (free : database.state.hasFree = true) (ids : (memory.state.outbox.map (·.id)).Nodup)
    (only : ∀ message, condition message = true → message.id = id)
    (silent : assignments.any (·.2 = .now) = false) :
    let query : Sql.Query := ⟨.update table assignments conditions, parameters⟩
    (∀ message : Message, conditions.all (·.holds query message.record) = condition message) →
    (∀ (message : Message) (moment : Instant), condition message = true →
      Record.assign query moment assignments message.record = (change message).record) →
    Simulates (World.onState (.ofPair (Memory.update id condition change)))
      (Database.changing (Tables.server scan) id query) memory database := by
  intro query holds assigned
  let after := (database.state.server.run scan .pool query).2
  obtain ⟨answered, records⟩ : (database.state.server.run scan .pool query).1 = _ ∧ _ :=
    run_update change agree holds fun message => assigned message _
  have executed : (Database.onLink ((Tables.server scan).execute .pool query)).perform database =
      (.ok (.ofNat (memory.state.outbox.countP condition)),
        { database with state.server := after }) := by
    rw [Database.perform_onLink, Tables.perform_execute free, answered]
    rfl
  have changed : (Database.changing (Tables.server scan) id query).perform database =
      (if memory.state.outbox.countP condition = 0 then .error (.notFound id) else .ok (),
        { database with state.server := after }) := by
    rw [Database.changing, Effect.perform_bind_ok executed,
      if_congr (ofNat_eq_zero_iff (countP_le_one ids only)).symm rfl rfl]
    split <;> rfl
  have readings : after.readings = database.state.server.readings := by
    change database.state.server.readings + (if query.command.readsClock then 1 else 0) = _
    rw [show query.command.readsClock = false from silent]
    rfl
  have updated := Memory.update_eq change ids only
  constructor
  · rw [changed, World.perform_onState, Effect.perform_ofPair, updated]
  · rw [changed, World.perform_onState, Effect.perform_ofPair, updated]
    exact ⟨agree.commits, agree.polls, agree.clock, readings.trans agree.readings, records⟩
  · rw [changed]
    exact ⟨rfl, rfl, rfl, rfl⟩

theorem simulates_markAsFailed (agree : Agree memory database)
    (free : database.state.hasFree = true) (ids : (memory.state.outbox.map (·.id)).Nodup)
    (id : Identifier) (error : String) (retryCount : Int) :
    Simulates (Memory.store.markAsFailed id error retryCount)
      ((Database.store (Tables.server scan)).markAsFailed id error retryCount) memory database := by
  refine simulates_update agree free ids (fun _ => eq_of_beq) rfl (fun message => ?_)
    fun message moment _ => assign_failed message moment id error retryCount
  rw [List.all_cons, List.all_nil, Bool.and_true]
  exact holds_id message id rfl

theorem simulates_resetRetries (agree : Agree memory database)
    (free : database.state.hasFree = true) (ids : (memory.state.outbox.map (·.id)).Nodup)
    (id : Identifier) :
    Simulates (Memory.store.resetRetries id)
      ((Database.store (Tables.server scan)).resetRetries id) memory database := by
  have only (message : Message) (holds : (message.id == id && !message.isProcessed) = true) :
      message.id = id := eq_of_beq (Bool.and_eq_true_iff.mp holds).1
  exact simulates_update agree free ids only rfl (fun message => holds_waiting message id rfl)
    fun message moment _ => assign_reset message moment id

/-- The query that looks for a message gives its identifier, as often as it is there. -/
theorem run_find (scan : Scan) {tables : Tables} {messages : List Message}
    (same : (tables.records table).Perm (messages.map Message.record)) (id : Identifier) :
    ∃ rows, (tables.run scan .pool (Query.find id)).1 = .ok (.rows rows) ∧
      rows.length = messages.countP (·.id == id) ∧
      ∀ row ∈ rows, idOfRow row = .ok id := by
  let found := Tables.found scan (Query.find id) [.equals Column.id 1] none tables.statements
    (tables.records table)
  have eligible : found.Perm ((messages.map Message.record).filter fun record =>
      [Sql.Condition.equals Column.id 1].all (·.holds (Query.find id) record)) :=
    ((scan.perm _ _).trans same).filter _
  refine ⟨found.map fun record => [Column.id].map record, rfl, ?_, ?_⟩
  · rw [List.length_map, eligible.length_eq, ← List.countP_eq_length_filter, List.countP_map]
    refine List.countP_congr fun message _ => ?_
    have parameter : (Query.find id).parameter 1 = .id id := rfl
    simp [holds_id message id parameter]
  · intro row among
    obtain ⟨record, here, rfl⟩ := List.mem_map.mp among
    obtain ⟨inRecords, holds⟩ := List.mem_filter.mp (eligible.subset here)
    obtain ⟨message, _, rfl⟩ := List.mem_map.mp inRecords
    rw [List.all_cons, List.all_nil, Bool.and_true, holds_id message id rfl] at holds
    rw [List.map_singleton, Message.record_id, eq_of_beq holds]
    rfl

theorem perform_find (scan : Scan) (database : World (Link Tables)) {messages : List Message}
    (same : (database.state.server.records table).Perm (messages.map Message.record))
    (free : database.state.hasFree = true) (id : Identifier) :
    (Database.onLink ((Tables.server scan).selectFirst (Query.find id) idOfRow)).perform database =
      (.ok (if messages.countP (·.id == id) = 0 then none else some id),
        { database with
          state.server := database.state.server.count (Query.find id).command }) := by
  obtain ⟨rows, answered, length, readable⟩ := run_find scan same id
  rw [Database.perform_onLink, Tables.perform_selectFirst free answered, ← length]
  cases rows with
  | nil => rfl
  | cons row rows =>
    dsimp only
    rw [readable row List.mem_cons_self]
    rfl

/-- A message that is done is not changed by another publish. -/
theorem Message.processedAt_of_isProcessed {message : Message} (done : message.isProcessed = true)
    (moment : Instant) : message.processedAt moment = message := by
  obtain ⟨first, same⟩ := Option.isSome_iff_exists.mp done
  rw [processedAt, same, Option.getD_some, ← same]

/-- Marking the messages under an identifier marks those of them that are not done. -/
theorem map_processedAt (messages : List Message) (id : Identifier) (moment : Instant) :
    (messages.map fun message =>
        if message.id == id && !message.isProcessed then message.processedAt moment else message) =
      messages.map fun message =>
        if message.id == id then message.processedAt moment else message := by
  refine List.map_congr_left fun message _ => ?_
  cases done : message.isProcessed with
  | true => simp [Message.processedAt_of_isProcessed done]
  | false => simp

/-- Recording a publish in memory. -/
theorem perform_markAsProcessed (ids : (memory.state.outbox.map (·.id)).Nodup) (id : Identifier) :
    (Memory.store.markAsProcessed id).perform memory =
      (if memory.state.outbox.countP (·.id == id) = 0 then .error (.notFound id) else .ok (),
        { memory with
          readings := memory.readings + 1
          state.outbox := memory.state.outbox.map fun message =>
            if message.id == id then message.processedAt (memory.clock memory.readings)
            else message }) := by
  have only (message : Message) (same : (message.id == id) = true) : message.id = id :=
    eq_of_beq same
  have updated := Memory.update_eq (·.processedAt (memory.clock memory.readings)) ids only
  have marked : (Memory.store.markAsProcessed id).perform memory =
      ((memory.state.update id (·.id == id)
          (·.processedAt (memory.clock memory.readings))).1,
        { memory with
          readings := memory.readings + 1
          state := (memory.state.update id (·.id == id)
            (·.processedAt (memory.clock memory.readings))).2 }) := rfl
  rw [marked, updated]

/-- Recording a publish in the database. Where the update marks nothing, the database looks whether
the message is there. -/
theorem perform_marking {id : Identifier} {marked present : Nat} {first : Tables}
    (executed : (Database.onLink ((Tables.server scan).execute .pool
      (Query.markAsProcessed id))).perform database =
        (.ok (.ofNat marked), { database with state.server := first }))
    (looked : (Database.onLink ((Tables.server scan).selectFirst (Query.find id)
      idOfRow)).perform { database with state.server := first } =
        (.ok (if present = 0 then none else some id),
          { database with state.server := first.count (Query.find id).command }))
    (few : marked ≤ 1) (fewer : marked ≤ present) :
    ((Database.store (Tables.server scan)).markAsProcessed id).perform database =
      (if present = 0 then .error (.notFound id) else .ok (),
        { database with
          state.server := if marked = 0 then first.count (Query.find id).command else first }) := by
  unfold Database.store
  dsimp only
  rw [Effect.perform_bind_ok executed]
  by_cases none : marked = 0
  · rw [if_pos ((ofNat_eq_zero_iff few).mpr none), if_pos none, Effect.perform_bind_ok looked]
    by_cases absent : present = 0
    · rw [if_pos absent, if_pos absent]
      rfl
    · rw [if_neg absent, if_neg absent]
      rfl
  · rw [if_neg (mt (ofNat_eq_zero_iff few).mp none), if_neg none, if_neg (by omega)]
    rfl

/-- Recording a publish twice changes nothing. -/
theorem simulates_markAsProcessed (agree : Agree memory database)
    (free : database.state.hasFree = true) (ids : (memory.state.outbox.map (·.id)).Nodup)
    (id : Identifier) :
    Simulates (Memory.store.markAsProcessed id)
      ((Database.store (Tables.server scan)).markAsProcessed id) memory database := by
  let waiting (message : Message) : Bool := message.id == id && !message.isProcessed
  let moment := memory.clock memory.readings
  let first := (database.state.server.run scan .pool (Query.markAsProcessed id)).2
  obtain ⟨answered, records⟩ :
      (database.state.server.run scan .pool (Query.markAsProcessed id)).1 =
          .ok (.affected (.ofNat (memory.state.outbox.countP waiting))) ∧ _ :=
    run_update (·.processedAt moment) agree
      (fun message => holds_waiting message id rfl) fun message holds =>
        assign_processed message moment id
          (by simpa [waiting] using (Bool.and_eq_true_iff.mp holds).2)
  rw [map_processedAt] at records
  have executed : (Database.onLink ((Tables.server scan).execute .pool
      (Query.markAsProcessed id))).perform database =
      (.ok (.ofNat (memory.state.outbox.countP waiting)),
        { database with state.server := first }) := by
    rw [Database.perform_onLink, Tables.perform_execute free, answered]
    rfl
  have looked := perform_find scan { database with state.server := first } records free id
  have kept : (memory.state.outbox.map fun message =>
      if message.id == id then message.processedAt moment else message).countP (·.id == id) =
        memory.state.outbox.countP (·.id == id) := by
    rw [List.countP_map]
    refine List.countP_congr fun message _ => ?_
    dsimp only [Function.comp]
    split <;> rfl
  rw [kept] at looked
  have fewer : memory.state.outbox.countP waiting ≤ memory.state.outbox.countP (·.id == id) :=
    List.countP_mono_left fun message _ holds => (Bool.and_eq_true_iff.mp holds).1
  have few : memory.state.outbox.countP waiting ≤ 1 :=
    countP_le_one ids fun message holds => eq_of_beq (Bool.and_eq_true_iff.mp holds).1
  have marked := perform_marking executed looked few fewer
  constructor
  · rw [marked, perform_markAsProcessed ids]
  · rw [marked, perform_markAsProcessed ids]
    have readings : first.readings = memory.readings + 1 := congrArg (· + 1) agree.readings
    dsimp only
    split <;> exact ⟨agree.commits, agree.polls, agree.clock, readings, records⟩
  · rw [marked]
    dsimp only
    split <;> exact ⟨rfl, rfl, rfl, rfl⟩

end

end OutboxRelay.Outbox

import OutboxRelay.Proofs.Order.Consistency
import OutboxRelay.Proofs.Order.Saving

/-!
# Agreement of the storages of orders

The same requests are made of two services, one over a store in memory and the other over a
database. Both draw the same identifiers and read the same clock. They give the same answers, and
after every request both keep the same order under every identifier.

A list of stored orders stands between the two. The memory has the JSON form of each under its
identifier, the table has the record of each; both outboxes have the same messages. A request reads
the list, and if it changes it, then by one order that both storages write: a new order under an
identifier just drawn, or an order that was read before and changed in what an update assigns. That
cancelling and stamping change nothing else is why an update loses nothing against a row that is
replaced as a whole.
-/

namespace OutboxRelay.Order

open Outbox (Memory Message Session)
open Rehearsal (Site)
open Sql (Link Scan Tables Transaction)

/-! ### Requests -/

/-- What is asked of the service. A total is a word of sixty-four bits, as it is for the callers of
the service. -/
inductive Request where
  | place (customerId : String) (totalCents : Int64)
  | cancel (id : Identifier) (reason : String)
  | get (id : Identifier)

section

variable {σ S : Type}

/-- What a service does for a request. -/
def Request.perform (service : Service σ S) : Request → Effect (World σ) Error Order
  | place customerId totalCents => service.placeOrder customerId totalCents.toInt
  | cancel id reason => service.cancelOrder id reason
  | get id => service.getOrder id

/-- Answers and worlds of requests that are made one after the other, each on behalf of a user. The
worlds are kept along with the answers, so that storages can be compared after every single
request. -/
def serve (storage : Storage σ S) : World σ → List (String × Request) →
    List (Except Error Order × World σ)
  | _, [] => []
  | world, (user, request) :: rest =>
    let served := (request.perform ⟨storage, user⟩).perform world
    served :: serve storage served.2 rest

end

/-! ### Stored orders -/

/-- What the table of orders has under an identifier: all the records with this key, as an order
that is looked for is read from them. -/
def tableRecords (tables : Tables) (id : Identifier) : List (Except Sql.Failure Record) :=
  ((tables.records table).filter fun row => row Sql.keyColumn = .id id).map fun row =>
    Record.ofRow (columns.map row)

/-- What a store in memory has under an identifier. -/
def memoryRecord (memory : Memory) (id : Identifier) : Option (Except Json.DecodeError Record) :=
  (memory.rows table id.toText).map Record.ofJson

/-- Both storages keep the same order under an identifier, or none. The order is compared as it is
read back, since one storage keeps JSON and the other a record. -/
def SameRecord (memory : Memory) (tables : Tables) (id : Identifier) : Prop :=
  ∃ stored : Option Record,
    memoryRecord memory id = stored.map .ok ∧ tableRecords tables id = stored.toList.map .ok

/-- A stored order that the service could have written: its fields can be kept, its total is
positive, as the table demands, and its status is one of those known. -/
structure Record.Sound (record : Record) : Prop where
  storable : record.IsStorable
  positive : 0 < record.totalCents
  known : ∃ status : Status, record.status = status.name

/-- Such an order is given back as it was written. -/
theorem Record.Sound.exists_order {record : Record} (sound : record.Sound) :
    ∃ order, record.toOrder = .ok order ∧ order.toRecord = record ∧ order.pending = [] := by
  obtain ⟨status, named⟩ := sound.known
  cases restored : record.toOrder with
  | error error => simp [Record.toOrder, named] at restored
  | ok order =>
    obtain ⟨whole, settled⟩ := toRecord_of_toOrder restored
    exact ⟨order, rfl, whole, settled⟩

/-- Two worlds whose storages keep the same orders and messages, none of which fails to take more.
The list of orders stands between the two: the memory has the JSON form of each, the table its
record. This is the relation that every request keeps. -/
structure Alike (records : List Record) (inMemory : World Memory)
    (inDatabase : World (Link Tables)) : Prop where
  ids : inDatabase.ids = inMemory.ids
  drawn : inDatabase.drawn = inMemory.drawn
  clock : inDatabase.clock = inMemory.clock
  readings : inDatabase.readings = inMemory.readings
  accepts : inMemory.state.failNextCommit = false
  free : inDatabase.state.hasFree = true
  rest : inDatabase.state.ongoing = []
  once : (records.map (·.id)).Nodup
  sound : ∀ record ∈ records, record.Sound
  kept : ∀ id, inMemory.state.rows table id.toText = (recordOf? id records).map Record.toJson
  orders : inDatabase.state.server.records table = records.map Record.row
  messages : inDatabase.state.server.records Outbox.table =
    inMemory.state.outbox.map Message.record
  drawnOrders : ∀ record ∈ records, Drawn inMemory.ids inMemory.drawn record.id
  drawnMessages : ∀ message ∈ inMemory.state.outbox, Drawn inMemory.ids inMemory.drawn message.id

/-- What two services give and leave that did the same in a world: equal answers, none of which is a
failure of the storage, and storages that are alike again. It also bounds the identifiers drawn, so
that requests can follow upon each other. -/
structure Parallel (draws : Nat) (world : World Memory)
    (first : Except Error Order × World Memory)
    (second : Except Error Order × World (Link Tables)) : Prop where
  answer : first.1 = second.1
  untroubled : ∀ cause, first.1 ≠ .error (.outbox cause)
  alike : ∃ records, Alike records first.2 second.2
  ids : first.2.ids = world.ids
  clock : first.2.clock = world.clock
  few : first.2.drawn ≤ world.drawn + draws

section

variable {records : List Record} {world : World Memory} {other : World (Link Tables)}

/-- Stored orders are read alike. Under an identifier the list has one order or none, and each
storage reads back from its own form what stands in the list. -/
theorem Alike.sameRecord (alike : Alike records world other) (id : Identifier) :
    SameRecord world.state other.state.server id := by
  refine ⟨recordOf? id records, ?_, ?_⟩
  · rw [memoryRecord, alike.kept]
    cases found : recordOf? id records with
    | none => simp
    | some record =>
      have sound := alike.sound record (mem_of_recordOf? found)
      simp [Record.ofJson_toJson sound.storable]
  · have keyed : (other.state.server.records table).filter (fun row => row Sql.keyColumn = .id id) =
        (recordOf? id records).toList.map Record.row := by
      rw [alike.orders, List.filter_map, ← filter_id_eq alike.once]
      refine congrArg _ (List.filter_congr fun record _ => ?_)
      simp [Record.row_key, Function.comp, Bool.beq_eq_decide_eq]
    rw [tableRecords, keyed, List.map_map]
    exact List.map_congr_left fun record _ => record.ofRow_row

/-- Drawing identifiers and reading the clock on both sides changes nothing that matters. What was
drawn before is still among what was drawn. -/
theorem Alike.advance (alike : Alike records world other) (draws reads : Nat) :
    Alike records { world with drawn := world.drawn + draws, readings := world.readings + reads }
      { other with drawn := other.drawn + draws, readings := other.readings + reads } where
  ids := alike.ids
  drawn := congrArg (· + draws) alike.drawn
  clock := alike.clock
  readings := congrArg (· + reads) alike.readings
  accepts := alike.accepts
  free := alike.free
  rest := alike.rest
  once := alike.once
  sound := alike.sound
  kept := alike.kept
  orders := alike.orders
  messages := alike.messages
  drawnOrders record member := (alike.drawnOrders record member).mono (Nat.le_add_right _ _)
  drawnMessages message member := (alike.drawnMessages message member).mono (Nat.le_add_right _ _)

/-- Neither does a server that comes to other tables with the same records. -/
theorem Alike.withTables (alike : Alike records world other) {tables : Tables}
    (same : tables.records = other.state.server.records) :
    Alike records world { other with state := { other.state with server := tables } } :=
  { alike with
    orders := (congrFun same table).trans alike.orders
    messages := (congrFun same Outbox.table).trans alike.messages }

/-- A link at rest has a free connection, whatever else it has come to. Only transactions that go on
keep connections, and none does between two requests. -/
theorem Alike.free_at_rest (alike : Alike records world other) (opened : Nat) (server : Tables) :
    Link.hasFree { other.state with opened, ongoing := [], server } = true := by
  have free := alike.free
  rw [Link.hasFree, alike.rest] at free
  exact free

/-! ### Finding -/

/-- What both storages find under an identifier, said of the list that stands between them. -/
def foundIn (id : Identifier) (records : List Record) : Except Error (Option Order) :=
  match recordOf? id records with
  | none => .ok none
  | some record => record.toOrder.map some

/-- Under an identifier there is no order or one that is stored under it. A corrupt row is never
found, since the service writes none. -/
theorem foundIn_cases (sound : ∀ record ∈ records, record.Sound) (id : Identifier) :
    foundIn id records = .ok none ∨
      ∃ order, foundIn id records = .ok (some order) ∧ order.toRecord ∈ records ∧
        order.pending = [] := by
  cases there : recordOf? id records with
  | none => exact Or.inl (by rw [foundIn, there])
  | some record =>
    have member := mem_of_recordOf? there
    obtain ⟨order, read, whole, settled⟩ := (sound record member).exists_order
    refine Or.inr ⟨order, ?_, whole.symm ▸ member, settled⟩
    simp only [foundIn, there, read]
    rfl

theorem Alike.find_in_memory (alike : Alike records world other) (user : String)
    (id : Identifier) :
    ((memoryService user).storage.find id).perform world = (foundIn id records, world) := by
  have found : findIn world.state id = foundIn id records := by
    rw [findIn, alike.kept, foundIn]
    cases there : recordOf? id records with
    | none => rfl
    | some record =>
      have sound := alike.sound record (mem_of_recordOf? there)
      simp [ofRow, Record.ofJson_toJson sound.storable]
  exact congrArg (fun given => (given, world)) found

theorem Alike.find_in_database (alike : Alike records world other) (scan : Scan) (user : String)
    (id : Identifier) :
    ∃ after : Tables, ((databaseService scan user).storage.find id).perform other =
        (foundIn id records, { other with state := { other.state with server := after } }) ∧
      after.records = other.state.server.records := by
  have answered := run_find scan alike.once alike.orders id
  have selected :
      ((tableServer scan).selectFirst (Query.find id) Record.ofRow).perform other.state =
        (.ok (recordOf? id records),
          { other.state with server := other.state.server.count (Query.find id).command }) := by
    refine (Tables.perform_selectFirst_constrained alike.free Record.ofRow).trans ?_
    cases there : recordOf? id records with
    | none =>
      rw [there] at answered
      exact Tables.perform_selectFirst alike.free answered Record.ofRow
    | some record =>
      rw [there] at answered
      refine (Tables.perform_selectFirst alike.free answered Record.ofRow).trans ?_
      exact Prod.ext (congrArg (Except.map some) record.ofRow_row) rfl
  have asked : (World.onState (((tableServer scan).selectFirst (Query.find id)
      Record.ofRow).mapError Error.database)).perform other =
        (.ok (recordOf? id records), { other with state := { other.state with
          server := other.state.server.count (Query.find id).command } }) := by
    rw [World.perform_onState, Effect.perform_mapError, selected]
    rfl
  refine ⟨other.state.server.count (Query.find id).command, ?_, rfl⟩
  change (Database.find (tableServer scan) id).perform other = _
  rw [Database.find, Effect.perform_bind_ok asked, foundIn]
  cases there : recordOf? id records with
  | none => rfl
  | some record =>
    obtain ⟨order, read, _⟩ := (alike.sound record (mem_of_recordOf? there)).exists_order
    simp only [read]
    rfl

/-! ### Saving -/

/-- A memory that keeps some orders keeps the order that it writes with them: under the identifier
of that order stands what was written, and under any other what stood there before. -/
theorem kept_apply {memory : Memory} {change : Change} {order : Order} (message : Message)
    (canWrite : CanWrite change order.toRecord records)
    (kept : ∀ id : Identifier,
      memory.rows table id.toText = (recordOf? id records).map Record.toJson)
    (id : Identifier) :
    (memory.apply (sessionOf order message)).rows table id.toText =
      (recordOf? id (written change order.toRecord records)).map Record.toJson := by
  rw [rows_apply, recordOf?_written canWrite]
  by_cases same : id = order.toRecord.id
  · rw [if_pos ⟨rfl, congrArg Identifier.toText same⟩, if_pos same]
    rfl
  · rw [if_neg fun both => same (Identifier.toText_injective both.2), if_neg same]
    exact kept id

/-- The next identifier is not that of anything whose identifier was drawn before. So neither an
order nor a message that is written under it can meet another one there. -/
theorem DistinctDraws.not_mem_map {α : Type} {ids : Nat → Identifier} {count bound : Nat}
    {key : α → Identifier} {taken : List α} (distinct : DistinctDraws ids bound)
    (drawn : ∀ old ∈ taken, Drawn ids count (key old)) (next : count < bound) :
    ids count ∉ taken.map key := by
  intro among
  obtain ⟨old, member, same⟩ := List.mem_map.mp among
  exact distinct.ne_of_drawn (drawn old member) (Nat.le_refl _) next same

/-- Storages are alike again once both have written an order and a message under the next
identifier. The list of orders is that of before with the order put in, and both storages are shown
to have become what this list says. -/
theorem Alike.written (alike : Alike records world other) {change : Change} {order : Order}
    {message : Message} (canWrite : CanWrite change order.toRecord records)
    (sound : order.toRecord.Sound) (drawn : Drawn world.ids world.drawn order.id)
    (next : message.id = world.ids world.drawn) {tables : Tables}
    (orders : tables.records table = (written change order.toRecord records).map Record.row)
    (messages : tables.records Outbox.table =
      (world.state.outbox ++ [message]).map Message.record) :
    Alike (written change order.toRecord records)
      { world with
        readings := world.readings + 1
        drawn := world.drawn + 1
        state := world.state.apply (sessionOf order message) }
      { other with
        readings := other.readings + 1
        drawn := other.drawn + 1
        state := { other.state with
          opened := other.state.opened + 1
          ongoing := []
          server := tables } } where
  ids := alike.ids
  drawn := congrArg (· + 1) alike.drawn
  clock := alike.clock
  readings := congrArg (· + 1) alike.readings
  accepts := alike.accepts
  free := alike.free_at_rest _ _
  rest := rfl
  once := nodup_written canWrite alike.once
  sound := forall_mem_written alike.sound sound
  kept := kept_apply message canWrite alike.kept
  orders := orders
  messages := messages
  drawnOrders := forall_mem_written
    (fun record member => (alike.drawnOrders record member).mono (Nat.le_succ _))
    (drawn.mono (Nat.le_succ _))
  drawnMessages old among := by
    rcases List.mem_append.mp among with before | new
    · exact (alike.drawnMessages old before).mono (Nat.le_succ _)
    · rw [List.mem_singleton.mp new]
      exact ⟨world.drawn, Nat.lt_succ_self _, next⟩

/-- Both services save an order alike, if it can be written and the next identifier is not taken.
Each side is performed by its own lemma down to the world that it leaves, and these two worlds are
alike by `Alike.written`. -/
theorem Alike.save (alike : Alike records world other) (scan : Scan) (user : String)
    (change : Change) (order : Order) {event : Event} (single : order.pending = [event])
    (canWrite : CanWrite change
      (order.kept change user (world.clock world.readings)).toRecord records)
    (sound : (order.kept change user (world.clock world.readings)).toRecord.Sound)
    (drawn : Drawn world.ids world.drawn order.id)
    (fresh : DistinctDraws world.ids (world.drawn + 1)) :
    Parallel 1 world (((memoryService user).save change order).perform world)
      (((databaseService scan user).save change order).perform other) := by
  have untaken : world.ids world.drawn ∉ world.state.outbox.map (·.id) :=
    fresh.not_mem_map alike.drawnMessages (Nat.lt_succ_self _)
  have sameDraw : other.ids other.drawn = world.ids world.drawn := by
    rw [alike.ids, alike.drawn]
  have sameMoment : other.clock other.readings = world.clock world.readings := by
    rw [alike.clock, alike.readings]
  obtain ⟨tables, savedInDatabase, orders, messages⟩ := save_in_database scan user
    single alike.free alike.rest (sameMoment.symm ▸ canWrite)
    alike.once alike.orders sound.positive alike.messages (sameDraw.symm ▸ untaken)
  rw [sameMoment] at savedInDatabase orders
  rw [sameDraw] at messages
  rw [save_in_memory single alike.accepts untaken, savedInDatabase]
  exact ⟨rfl, nofun, ⟨_, alike.written canWrite sound drawn rfl orders messages⟩, rfl, rfl,
    Nat.le_refl _⟩

/-! ### Requests on both sides -/

/-- A world in which identifiers were drawn and the clock was read before. So a request can be
followed from the first draw to the point at which it saves. -/
theorem Parallel.behind {draws more reads : Nat} {first : Except Error Order × World Memory}
    {second : Except Error Order × World (Link Tables)}
    (parallel : Parallel more
      { world with drawn := world.drawn + draws, readings := world.readings + reads }
      first second) :
    Parallel (draws + more) world first second :=
  { parallel with few := Nat.le_trans parallel.few (Nat.le_of_eq (Nat.add_assoc _ _ _)) }

/-- A request that both refuse alike. -/
theorem Alike.refuses (alike : Alike records world other) {draws : Nat} {error : Error}
    (untroubled : ∀ cause, error ≠ .outbox cause) :
    Parallel draws world (.error error, world) (.error error, other) := by
  refine ⟨rfl, ?_, ⟨records, alike⟩, rfl, rfl, Nat.le_add_right _ _⟩
  intro cause same
  injection same with same
  exact untroubled cause same

/-- An order that is accepted has a positive total. -/
theorem positive_of_acceptCustomer {customerId kept : String} {totalCents : Int}
    (accepted : acceptCustomer customerId totalCents = .ok kept) : 0 < totalCents := by
  unfold acceptCustomer at accepted
  dsimp only at accepted
  split at accepted
  · cases accepted
  · split at accepted
    · cases accepted
    · omega

/-- A check does not fail for the storage. Its failures name what is wrong with the order. -/
theorem untroubled_of_acceptCustomer {customerId : String} {totalCents : Int} {error : Error}
    (refused : acceptCustomer customerId totalCents = .error error) (cause : Outbox.Error) :
    error ≠ .outbox cause := by
  rintro rfl
  unfold acceptCustomer at refused
  dsimp only at refused
  split at refused
  · cases refused
  · split at refused <;> cases refused

theorem untroubled_of_acceptReason {reason : String} {order : Order} {error : Error}
    (refused : order.acceptReason reason = .error error) (cause : Outbox.Error) :
    error ≠ .outbox cause := by
  rintro rfl
  unfold acceptReason at refused
  dsimp only at refused
  split at refused
  · cases refused
  · split at refused <;> cases refused

/-- Both services place an order alike: the one that they save is new, since its identifier is.
Neither does an insert meet a record with the same key, nor does a put replace a row. -/
theorem Alike.place (alike : Alike records world other) (scan : Scan)
    (valid : ∀ n, (world.clock n).IsValid) (fresh : DistinctDraws world.ids (world.drawn + 2))
    (user customerId : String) (totalCents : Int64) :
    Parallel 2 world
      (((memoryService user).placeOrder customerId totalCents.toInt).perform world)
      (((databaseService scan user).placeOrder customerId totalCents.toInt).perform other) := by
  cases accepted : acceptCustomer customerId totalCents.toInt with
  | error error =>
    rw [perform_placeOrder_error accepted, perform_placeOrder_error accepted]
    exact alike.refuses (untroubled_of_acceptCustomer accepted)
  | ok kept =>
    let order := placed (world.ids world.drawn) kept totalCents.toInt (world.clock world.readings)
    have same : placed (other.ids other.drawn) kept totalCents.toInt
        (other.clock other.readings) = order := by
      rw [alike.ids, alike.drawn, alike.clock, alike.readings]
    rw [perform_placeOrder accepted, perform_placeOrder accepted, same]
    have positive := positive_of_acceptCustomer accepted
    have untaken : world.ids world.drawn ∉ records.map (·.id) :=
      fresh.not_mem_map alike.drawnOrders (by omega)
    have sound : (order.kept .added user (world.clock (world.readings + 1))).toRecord.Sound := by
      refine ⟨⟨admits_toInt totalCents, ?_, ?_⟩, positive, .placed, rfl⟩
      · rintro instant ⟨⟩
        exact valid _
      · rintro instant ⟨⟩
    exact ((alike.advance 1 1).save scan user .added order rfl untaken sound
      ⟨world.drawn, Nat.lt_succ_self _, rfl⟩ fresh).behind

/-- Both services give the same order to who asks for it. Nothing is written by this, and the server
has only counted one more statement. -/
theorem Alike.get (alike : Alike records world other) (scan : Scan) (user : String)
    (id : Identifier) :
    Parallel 0 world (((memoryService user).getOrder id).perform world)
      (((databaseService scan user).getOrder id).perform other) := by
  obtain ⟨tables, found, same⟩ := alike.find_in_database scan user id
  rw [perform_getOrder_found (alike.find_in_memory user id), perform_getOrder_found found]
  have reached := alike.withTables same
  rcases foundIn_cases alike.sound id with none | ⟨order, some, _⟩
  · rw [none]
    exact reached.refuses fun _ equal => Error.noConfusion equal
  · rw [some]
    exact ⟨rfl, nofun, ⟨records, reached⟩, rfl, rfl, Nat.le_refl _⟩

/-- Both services cancel an order alike: the one that they save has the origin of the one that they
found. An update assigns only what cancelling and stamping change, and so it leaves the same record
behind as a row that is replaced as a whole. -/
theorem Alike.cancel (alike : Alike records world other) (scan : Scan)
    (valid : ∀ n, (world.clock n).IsValid) (fresh : DistinctDraws world.ids (world.drawn + 1))
    (user : String) (id : Identifier) (reason : String) :
    Parallel 1 world (((memoryService user).cancelOrder id reason).perform world)
      (((databaseService scan user).cancelOrder id reason).perform other) := by
  obtain ⟨tables, found, same⟩ := alike.find_in_database scan user id
  have reached := alike.withTables same
  have first := perform_getOrder_found (alike.find_in_memory user id)
  have second := perform_getOrder_found found
  rcases foundIn_cases alike.sound id with none | ⟨order, some, member, settled⟩
  · rw [none] at first second
    rw [Service.cancelOrder, Service.cancelOrder, Effect.perform_bind_error first,
      Effect.perform_bind_error second]
    exact reached.refuses fun _ equal => Error.noConfusion equal
  · rw [some] at first second
    cases accepted : order.acceptReason reason with
    | error error =>
      rw [perform_cancelOrder_refused first accepted, perform_cancelOrder_refused second accepted]
      exact reached.refuses (untroubled_of_acceptReason accepted)
    | ok kept =>
      have moment : other.clock other.readings = world.clock world.readings := by
        rw [alike.clock, alike.readings]
      have cancels := perform_cancelOrder_accepted second accepted
      dsimp only at cancels
      rw [moment] at cancels
      rw [perform_cancelOrder_accepted first accepted, cancels]
      have old := alike.sound _ member
      let changed := order.cancelledFor kept (world.clock world.readings)
      have sound : (changed.kept .modified user
          (world.clock (world.readings + 1))).toRecord.Sound := by
        refine ⟨⟨old.storable.total, old.storable.createdOn, ?_⟩, old.positive, .cancelled, rfl⟩
        rintro instant ⟨⟩
        exact valid _
      have saved := (reached.advance 0 1).save scan user .modified changed
        (pending_cancelledFor settled kept _)
        ⟨order.toRecord, member, rfl, rfl, rfl, rfl, rfl⟩ sound (alike.drawnOrders _ member) fresh
      exact saved.behind

/-- Both services do the same for every request. The cases are the three requests; each draws two
identifiers at most. -/
theorem Alike.perform (alike : Alike records world other) (scan : Scan)
    (valid : ∀ n, (world.clock n).IsValid) (fresh : DistinctDraws world.ids (world.drawn + 2))
    (user : String) (request : Request) :
    Parallel 2 world ((request.perform (memoryService user)).perform world)
      ((request.perform (databaseService scan user)).perform other) := by
  cases request with
  | place customerId totalCents => exact alike.place scan valid fresh user customerId totalCents
  | cancel id reason =>
    have parallel := alike.cancel scan valid (fresh.mono (Nat.le_succ _)) user id reason
    exact { parallel with few := Nat.le_succ_of_le parallel.few }
  | get id =>
    have parallel := alike.get scan user id
    exact { parallel with few := Nat.le_trans parallel.few (Nat.le_add_right _ _) }

/-! ### Sequences of requests -/

/-- A request to the service in memory and one to the service in the database: the same answer,
which is no failure of the storage, and the same order under every identifier after it. -/
def Agrees (first : Except Error Order × World Memory)
    (second : Except Error Order × World (Link Tables)) : Prop :=
  first.1 = second.1 ∧ (∀ cause, first.1 ≠ .error (.outbox cause)) ∧
    ∀ id, SameRecord first.2.state second.2.state.server id

/-- Services that begin alike agree in every request, by induction on the requests. What a request
leaves is alike again, and of the distinct identifiers enough are left for the requests behind
it. -/
theorem Alike.serve (alike : Alike records world other) (scan : Scan)
    (valid : ∀ n, (world.clock n).IsValid) {calls : List (String × Request)}
    (fresh : DistinctDraws world.ids (world.drawn + 2 * calls.length)) :
    List.Forall₂ Agrees (serve memoryStorage world calls)
      (serve (Database.storage (tableServer scan)) other calls) := by
  induction calls generalizing records world other with
  | nil => exact .nil
  | cons call rest inductionHypothesis =>
    obtain ⟨user, request⟩ := call
    rw [List.length_cons] at fresh
    have parallel := alike.perform scan valid (fresh.mono (by omega)) user request
    obtain ⟨later, alikeAfter⟩ := parallel.alike
    have few : ((request.perform ⟨memoryStorage, user⟩).perform world).2.drawn ≤ world.drawn + 2 :=
      parallel.few
    refine .cons ⟨parallel.answer, parallel.untroubled, alikeAfter.sameRecord⟩
      (inductionHypothesis alikeAfter ?_ ?_)
    · exact parallel.clock.symm ▸ valid
    · exact parallel.ids.symm ▸ fresh.mono (by omega)

end

/-- For every sequence of requests, whoever makes them, the service over a store in memory and the
one over a database that begin without orders give the same answers, and after each request both
keep the same order under every identifier, whatever order the server comes across its rows in.

Proof: two empty storages are alike, and every request keeps them so (`Alike.perform`, and
`Alike.serve` for a sequence). What a request saves either is new under an identifier just drawn, or
has the origin of a stored order; in the first case an insert puts the record where the memory puts
its row, in the second an update changes just what the new row has changed. -/
theorem storages_agree (scan : Scan) (ids : Nat → Identifier) (clock moments : Nat → Instant)
    (capacity : Option Nat) (calls : List (String × Request)) (room : capacity ≠ some 0)
    (valid : ∀ n, (clock n).IsValid) (distinct : DistinctDraws ids (2 * calls.length)) :
    List.Forall₂ Agrees
      (serve memoryStorage { ids, clock, state := {} } calls)
      (serve (Database.storage (tableServer scan))
        { ids, clock, state := { capacity, server := { clock := moments } } } calls) := by
  have free : Link.hasFree ({ capacity, server := { clock := moments } } : Link Tables) = true := by
    cases capacity with
    | none => rfl
    | some size =>
      have positive : 0 < size := Nat.pos_of_ne_zero fun zero => room (congrArg some zero)
      simpa [Link.hasFree] using positive
  have alike : Alike [] { ids, clock, state := {} }
      { ids, clock, state := { capacity, server := { clock := moments } } } :=
    { ids := rfl
      drawn := rfl
      clock := rfl
      readings := rfl
      accepts := rfl
      free
      rest := rfl
      once := List.nodup_nil
      sound := List.forall_mem_nil _
      kept _ := rfl
      orders := rfl
      messages := rfl
      drawnOrders := List.forall_mem_nil _
      drawnMessages := List.forall_mem_nil _ }
  refine alike.serve scan valid ?_
  rwa [Nat.zero_add]

/-- One user places an order, another one cancels it, and it cannot be cancelled again. What else is
asked for is refused or is not there. -/
def errands : List (String × Request) :=
  [("ann", .place " c-1 " 500), ("bob", .place "c-2" 0), ("bob", .get (Site.quietWorld.ids 0)),
    ("bob", .cancel (Site.quietWorld.ids 0) " "), ("bob", .cancel (Site.quietWorld.ids 0) "late"),
    ("ann", .cancel (Site.quietWorld.ids 0) "again"), ("ann", .get (Site.quietWorld.ids 0)),
    ("ann", .cancel (Site.quietWorld.ids 9) "late"), ("ann", .place "c-1" 250)]

theorem storages_agree_errands :
    some 1 ≠ some 0 ∧ (∀ n, (Site.quietWorld.clock n).IsValid) ∧
      DistinctDraws Site.quietWorld.ids (2 * errands.length) ∧
      List.Forall₂ Agrees
        (serve memoryStorage
          { ids := Site.quietWorld.ids, clock := Site.quietWorld.clock, state := {} } errands)
        (serve (Database.storage (tableServer Outbox.backwards))
          { ids := Site.quietWorld.ids
            clock := Site.quietWorld.clock
            state := { capacity := some 1, server := { clock := fun reading => ⟨reading, 0⟩ } } }
          errands) := by
  have room : some 1 ≠ some 0 := by decide
  have distinct : DistinctDraws Site.quietWorld.ids (2 * errands.length) :=
    distinctDraws_quietWorld (by decide)
  exact ⟨room, valid_quietWorld, distinct,
    storages_agree Outbox.backwards Site.quietWorld.ids Site.quietWorld.clock
      (fun reading => ⟨reading, 0⟩) (some 1) errands room valid_quietWorld distinct⟩

end OutboxRelay.Order

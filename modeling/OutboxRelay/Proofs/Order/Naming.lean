import OutboxRelay.Proofs.Delivery.Independence
import OutboxRelay.Proofs.Order.Calls
import OutboxRelay.Proofs.Order.Ledger

/-!
# Where the acting user is named

The same calls are made twice in the same world, by other users the second time. Both runs give the
same answers and publish the same messages. Only the audit fields of stored orders name who placed
and who cancelled them, and nothing that is done with an order later depends on that.

What ties the two runs together is that the second world is the first with the users of some rows
renamed. An order that is read from such a row is the order of the other one, renamed. It raises the
same events, so that the sessions which both runs commit differ in the row of the order at most.
Delivery looks at no row.
-/

namespace OutboxRelay

/-- The audit fields with other users in them. -/
def Audit.renamed (createdBy modifiedBy : Option String) (audit : Audit) : Audit :=
  { audit with createdBy, modifiedBy }

namespace Order

open Outbox (Memory Message)
open Rehearsal (Faults Site)
open UnitOfWork (clocked)

/-! ### Renaming -/

/-- The order with other users in its audit fields. The times beside them stay, as both runs read
the same clock. -/
def renamed (createdBy modifiedBy : Option String) (order : Order) : Order :=
  { order with audit := order.audit.renamed createdBy modifiedBy }

/-- The stored order with other users in its audit fields. -/
def Record.renamed (createdBy modifiedBy : Option String) (record : Record) : Record :=
  { record with createdBy, modifiedBy }

/-- A row, if there is one, and the same row with the users of an order renamed. Rows that are no
orders are equal in both worlds. -/
inductive RenamedRow : Option Json → Option Json → Prop where
  | same (row : Option Json) : RenamedRow row row
  | record (record : Record) (createdBy modifiedBy : Option String)
    (storable : record.IsStorable) :
    RenamedRow (some record.toJson) (some (record.renamed createdBy modifiedBy).toJson)

/-- What is given of an order, and the same with its users renamed. What fails is the same, since no
error names a user. -/
def RenamedGiven (first second : Except Error Order) : Prop :=
  ∃ createdBy modifiedBy, second = first.map (·.renamed createdBy modifiedBy)

section

variable {createdBy modifiedBy : Option String} {order : Order} {first second : Except Error Order}

/-- Whatever is given is itself with its own users. -/
theorem renamedGiven_refl (given : Except Error Order) : RenamedGiven given given := by
  cases given with
  | error error => exact ⟨none, none, rfl⟩
  | ok order => exact ⟨order.audit.createdBy, order.audit.modifiedBy, rfl⟩

/-- Whether a row is an order does not depend on its users, and neither does anything else in the
order. -/
theorem toOrder_renamed (record : Record) :
    (record.renamed createdBy modifiedBy).toOrder =
      record.toOrder.map (·.renamed createdBy modifiedBy) := by
  have same : (record.renamed createdBy modifiedBy).status = record.status := rfl
  unfold Record.toOrder
  rw [same]
  split <;> rfl

theorem isStorable_renamed {record : Record} (storable : record.IsStorable) :
    (record.renamed createdBy modifiedBy).IsStorable :=
  ⟨storable.total, storable.createdOn, storable.modifiedOn⟩

/-- A commit stamps one user; with another one it stamps the same order, renamed. Whichever field is
stamped, only names of users differ. -/
theorem exists_renamed_stamped (change : Change) (user other : String) (now : Instant)
    (order : Order) (createdBy modifiedBy : Option String) :
    ∃ createdBy' modifiedBy', (order.renamed createdBy modifiedBy).stamped change other now =
      (order.stamped change user now).renamed createdBy' modifiedBy' := by
  cases change with
  | added => exact ⟨some other, modifiedBy, rfl⟩
  | modified => exact ⟨createdBy, some other, rfl⟩

end

/-- Two worlds that differ in the users of stored orders at most. The second one is the first with
other rows, so that outbox, bus, clock and identifiers are the same by definition. -/
structure RenamedWorld (first second : World Site) : Prop where
  whole : second = Site.withRows second.state.memory.rows first
  rows : ∀ name key,
    RenamedRow (first.state.memory.rows name key) (second.state.memory.rows name key)

/-- What two calls give and leave that differ in users at most. This is what each call of the
service is shown to do. -/
structure RenamedDone (first second : Except Error Order × World Site) : Prop where
  given : RenamedGiven first.1 second.1
  world : RenamedWorld first.2 second.2

/-- Every world is itself with nobody renamed. -/
theorem renamedWorld_refl (world : World Site) : RenamedWorld world world :=
  ⟨rfl, fun _ _ => .same _⟩

section

variable {first second : World Site}

/-- Whatever ignores rows leaves worlds alike, with the same outcome. In this way the cycles of
processors and resets are dealt with, of which nothing else has to be known. -/
theorem RenamedWorld.ignoring {ε α : Type} (renamed : RenamedWorld first second)
    {effect : Effect (World Site) ε α}
    (ignores : ∀ rows, Effect.Ignores (Site.withRows rows) effect)
    (leaves : (effect.perform first).2.state.memory.rows = first.state.memory.rows) :
    (effect.perform second).1 = (effect.perform first).1 ∧
      RenamedWorld (effect.perform first).2 (effect.perform second).2 := by
  have done := ignores second.state.memory.rows first
  rw [← renamed.whole] at done
  rw [done]
  refine ⟨rfl, rfl, fun name key => ?_⟩
  rw [leaves]
  exact renamed.rows name key

/-! ### Finding -/

/-- An order that is given was found. -/
theorem findIn_of_given {id : Identifier} {found : Except Error (Option Order)} {order : Order}
    (gives : Order.given id found = .ok order) : found = .ok (some order) := by
  rcases found with error | _ | other
  · cases gives
  · cases gives
  · cases gives
    rfl

/-- What is found under an identifier is the same, renamed. The key of a row does not depend on
users. -/
theorem RenamedWorld.given (renamed : RenamedWorld first second) (id : Identifier) :
    RenamedGiven (Order.given id (findIn first.state.memory id))
      (Order.given id (findIn second.state.memory id)) := by
  have rows := renamed.rows table id.toText
  generalize stands : first.state.memory.rows table id.toText = row at rows
  generalize standsToo : second.state.memory.rows table id.toText = other at rows
  cases rows with
  | same row =>
    have equal : findIn second.state.memory id = findIn first.state.memory id := by
      rw [findIn, findIn, stands, standsToo]
    rw [equal]
    exact renamedGiven_refl _
  | record record createdBy modifiedBy storable =>
    rw [findIn_row stands, findIn_row standsToo, ofRow, ofRow, Record.ofJson_toJson storable,
      Record.ofJson_toJson (isStorable_renamed storable)]
    dsimp only
    rw [toOrder_renamed]
    refine ⟨createdBy, modifiedBy, ?_⟩
    cases record.toOrder <;> rfl

/-! ### Saving -/

/-- A commit over other rows, of the same order renamed, has the same outcome and leaves rows alike.
It is refused for messages only, and these are the same. -/
theorem commit_renamed {memory : Memory} {rows : String → String → Option Json}
    (alike : ∀ name key, RenamedRow (memory.rows name key) (rows name key)) {order : Order}
    (storable : order.toRecord.IsStorable) (createdBy modifiedBy : Option String)
    (message : Message) :
    let done := memory.commit (sessionOf order message)
    let again := (memory.withRows rows).commit
      (sessionOf (order.renamed createdBy modifiedBy) message)
    again.1 = done.1 ∧ again.2 = done.2.withRows again.2.rows ∧
      ∀ name key, RenamedRow (done.2.rows name key) (again.2.rows name key) := by
  have told : (memory.withRows rows).failNextCommit = memory.failNextCommit := rfl
  have clash : (memory.withRows rows).clash?
      (sessionOf (order.renamed createdBy modifiedBy) message) =
        memory.clash? (sessionOf order message) := rfl
  unfold Memory.commit
  rw [told, clash]
  by_cases fails : memory.failNextCommit = true
  · rw [if_pos fails, if_pos fails]
    exact ⟨rfl, rfl, alike⟩
  · rw [if_neg fails, if_neg fails]
    cases memory.clash? (sessionOf order message) with
    | some taken => exact ⟨rfl, rfl, alike⟩
    | none =>
      refine ⟨rfl, rfl, fun name key => ?_⟩
      have own : (order.renamed createdBy modifiedBy).id = order.id := rfl
      dsimp only
      rw [rows_apply, rows_apply, own]
      by_cases written : name = table ∧ key = order.id.toText
      · rw [if_pos written, if_pos written]
        exact .record _ createdBy modifiedBy storable
      · rw [if_neg written, if_neg written]
        exact alike name key

/-- Both runs write an order alike that is the same but renamed, with the same event. The message of
the event is equal in both runs, since no message names a user. -/
theorem RenamedWorld.write (renamed : RenamedWorld first second) (user other : String)
    (change : Change) {order : Order} (storable : order.toRecord.IsStorable)
    (createdBy modifiedBy : Option String) (event : Event) :
    let done := ((siteService user).work.write [⟨change, order⟩] [event]).perform first
    let again := ((siteService other).work.write
      [⟨change, order.renamed createdBy modifiedBy⟩] [event]).perform second
    again.1 = done.1 ∧ RenamedWorld done.2 again.2 := by
  obtain ⟨whole, alike⟩ := renamed
  generalize second.state.memory.rows = rows at whole alike
  subst whole
  have told : (Site.withRows rows first).state.faults = first.state.faults := rfl
  dsimp only
  rw [perform_write, perform_write, told]
  by_cases ready : first.state.faults .begin = 0
  · rw [if_pos ready, if_pos ready]
    by_cases free : first.state.faults .add = 0
    · rw [if_pos free, if_pos free]
      obtain ⟨outcome, left, rowsAlike⟩ := commit_renamed alike storable createdBy modifiedBy
        (messageOf (first.ids first.drawn) event.kind event.fact)
      exact ⟨congrArg (Except.map fun _ => 1) outcome,
        congrArg (Site.withMemory · { first with drawn := first.drawn + 1 }) left, rowsAlike⟩
    · rw [if_neg free, if_neg free]
      exact ⟨rfl, rfl, alike⟩
  · rw [if_neg ready, if_neg ready]
    exact ⟨rfl, rfl, alike⟩

/-- Reading the clock in both worlds leaves them alike. -/
theorem RenamedWorld.clocked (renamed : RenamedWorld first second) :
    RenamedWorld (clocked first) (clocked second) :=
  ⟨congrArg UnitOfWork.clocked renamed.whole, renamed.rows⟩

/-- Both runs save an order alike that is the same but renamed, and has one event pending. They
stamp it at the same time, each with its own user. -/
theorem RenamedWorld.save (renamed : RenamedWorld first second) (user other : String)
    (change : Change) {order : Order} {event : Event} (single : order.pending = [event])
    (storable : (order.stamped change user
      (first.clock first.readings)).clearPending.toRecord.IsStorable)
    (createdBy modifiedBy : Option String) :
    RenamedDone (((siteService user).save change order).perform first)
      (((siteService other).save change (order.renamed createdBy modifiedBy)).perform second) := by
  have now : second.clock second.readings = first.clock first.readings := by
    rw [renamed.whole]
    rfl
  have singleToo : (order.renamed createdBy modifiedBy).pending = [event] := single
  obtain ⟨created, modified, stamp⟩ := exists_renamed_stamped change user other
    (first.clock first.readings) order createdBy modifiedBy
  have kept : ((order.renamed createdBy modifiedBy).stamped change other
      (second.clock second.readings)).clearPending =
        ((order.stamped change user
          (first.clock first.readings)).clearPending).renamed created modified :=
    now ▸ congrArg clearPending stamp
  obtain ⟨outcome, worlds⟩ :=
    renamed.clocked.write user other change storable created modified event
  have saved := perform_save user change single first
  have savedToo := perform_save other change singleToo second
  dsimp only at saved savedToo
  rw [kept] at savedToo
  rw [saved, savedToo]
  -- From here on the writes count by their outcome and the world that they reach alone.
  revert outcome worlds
  generalize ((siteService user).work.write [⟨change, _⟩] [event]).perform
    (UnitOfWork.clocked first) = written
  generalize ((siteService other).work.write [⟨change, _⟩] [event]).perform
    (UnitOfWork.clocked second) = writtenToo
  rcases written with ⟨error | rows, reached⟩ <;> rcases writtenToo with ⟨result, reachedToo⟩
  · rintro rfl worlds
    exact ⟨⟨none, none, rfl⟩, worlds⟩
  · rintro rfl worlds
    exact ⟨⟨created, modified, rfl⟩, worlds⟩

/-! ### Calls -/

/-- Placing an order in both worlds. The identifier and the times are drawn and read alike, so that
the orders differ in the user who placed them at most. -/
theorem RenamedWorld.place (renamed : RenamedWorld first second)
    (valid : ∀ n, (first.clock n).IsValid) (user other customerId : String) {totalCents : Int}
    (total : (Text.IntegerBounds.signed 64).admits totalCents = true) :
    RenamedDone (((siteService user).placeOrder customerId totalCents).perform first)
      (((siteService other).placeOrder customerId totalCents).perform second) := by
  cases accepted : acceptCustomer customerId totalCents with
  | error error =>
    rw [perform_placeOrder_error accepted, perform_placeOrder_error accepted]
    exact ⟨renamedGiven_refl _, renamed⟩
  | ok kept =>
    have drawing : RenamedWorld
        { first with drawn := first.drawn + 1, readings := first.readings + 1 }
        { second with drawn := second.drawn + 1, readings := second.readings + 1 } :=
      ⟨congrArg (fun world => { world with
        drawn := world.drawn + 1, readings := world.readings + 1 }) renamed.whole, renamed.rows⟩
    have own : placed (second.ids second.drawn) kept totalCents (second.clock second.readings) =
        (placed (first.ids first.drawn) kept totalCents
          (first.clock first.readings)).renamed none none := by
      rw [renamed.whole]
      rfl
    rw [perform_placeOrder accepted, perform_placeOrder accepted, own]
    exact drawing.save user other .added rfl (storable_placedOrder valid user kept total) none none

/-- Cancelling an order in both worlds. Whether it can be cancelled has nothing to do with its
users, so that both runs are refused or both save. -/
theorem RenamedWorld.cancel (renamed : RenamedWorld first second)
    (valid : ∀ n, (first.clock n).IsValid) (user other : String) (id : Identifier)
    (reason : String) :
    RenamedDone (((siteService user).cancelOrder id reason).perform first)
      (((siteService other).cancelOrder id reason).perform second) := by
  obtain ⟨createdBy, modifiedBy, found⟩ := renamed.given id
  have answered := perform_getOrder user id first
  have answeredToo := perform_getOrder other id second
  rw [found] at answeredToo
  cases gives : Order.given id (findIn first.state.memory id) with
  | error error =>
    rw [gives] at answered answeredToo
    rw [Service.cancelOrder, Service.cancelOrder, Effect.perform_bind_error answered,
      Effect.perform_bind_error answeredToo]
    exact ⟨renamedGiven_refl _, renamed⟩
  | ok order =>
    rw [gives] at answered answeredToo
    cases accepted : order.acceptReason reason with
    | error error =>
      rw [perform_cancelOrder_refused answered accepted,
        perform_cancelOrder_refused answeredToo accepted]
      exact ⟨renamedGiven_refl _, renamed⟩
    | ok kept =>
      have there : findIn first.state.memory id = .ok (some order) := findIn_of_given gives
      have now : second.clock second.readings = first.clock first.readings := by
        rw [renamed.whole]
        rfl
      have cancels := perform_cancelOrder_accepted answeredToo
        (accepted : (order.renamed createdBy modifiedBy).acceptReason reason = .ok kept)
      rw [perform_cancelOrder_accepted answered accepted, cancels, now]
      exact renamed.clocked.save user other .modified
        (pending_cancelledFor (pending_of_findIn there) kept _)
        (storable_cancelledOrder valid user kept (isStorable_of_findIn there)) createdBy modifiedBy

end

/-! ### Runs -/

/-- What a call answers, as far as its caller is told anything. -/
inductive Answer where
  | order (given : Except Error Order)
  | report (given : Except Outbox.Error Delivery.Report)
  | reset (given : Except Outbox.Error Unit)
  /-- Switches are set in silence. -/
  | set

/-- What a call answers in a world, and the world after it. -/
def Call.perform (world : World Site) : Call → Answer × World Site
  | .place user customerId totalCents =>
    let done := ((siteService user).placeOrder customerId totalCents.toInt).perform world
    (.order done.1, done.2)
  | .cancel user id reason =>
    let done := ((siteService user).cancelOrder id reason).perform world
    (.order done.1, done.2)
  | .cycle config =>
    let done := (Site.processor config).processBatch.perform world
    (.report done.1, done.2)
  | .reset id =>
    let done := (Site.store.resetRetries id).perform world
    (.reset done.1, done.2)
  | .disturb faults failNextCommit failNextFetch refused unavailable =>
    (.set, Site.disturbed faults failNextCommit failNextFetch refused unavailable world)

/-- Answers and worlds of calls that are made one after the other. Every answer is kept, so that the
two runs can be compared call by call. -/
def Call.performAll (world : World Site) : List Call → List (Answer × World Site)
  | [] => []
  | call :: rest =>
    let done := call.perform world
    done :: performAll done.2 rest

/-- The same call, on behalf of whichever users. Everything else about it is the same, down to the
switches that are set. -/
inductive Call.Same : Call → Call → Prop where
  | place (user other customerId : String) (totalCents : Int64) :
    Same (.place user customerId totalCents) (.place other customerId totalCents)
  | cancel (user other : String) (id : Identifier) (reason : String) :
    Same (.cancel user id reason) (.cancel other id reason)
  | cycle (config : Delivery.Config) : Same (.cycle config) (.cycle config)
  | reset (id : Identifier) : Same (.reset id) (.reset id)
  | disturb (faults : Faults) (failNextCommit failNextFetch : Bool) (refused : List String)
    (unavailable : Bool) :
    Same (.disturb faults failNextCommit failNextFetch refused unavailable)
      (.disturb faults failNextCommit failNextFetch refused unavailable)

/-- An answer, and the same with the users of an order renamed. -/
inductive RenamedAnswer : Answer → Answer → Prop where
  | same (answer : Answer) : RenamedAnswer answer answer
  | order {first second : Except Error Order} (renamed : RenamedGiven first second) :
    RenamedAnswer (.order first) (.order second)

/-- What two runs show after a call each that differ in the users of orders at most. Subscribers and
operators see outbox and bus, which are equal. -/
structure NamesApart (first second : Answer × World Site) : Prop where
  answer : RenamedAnswer first.1 second.1
  outbox : second.2.state.memory.outbox = first.2.state.memory.outbox
  bus : second.2.state.bus = first.2.state.bus
  rows : ∀ name key,
    RenamedRow (first.2.state.memory.rows name key) (second.2.state.memory.rows name key)

section

variable {first second : World Site} {call other : Call} {calls others : List Call}

/-- Two worlds that differ in users alone show the same outbox and the same bus, as only their rows
differ. -/
theorem RenamedWorld.namesApart (renamed : RenamedWorld first second) {answer again : Answer}
    (alike : RenamedAnswer answer again) : NamesApart (answer, first) (again, second) := by
  refine ⟨alike, ?_, ?_, renamed.rows⟩
  · rw [renamed.whole]
    rfl
  · rw [renamed.whole]
    rfl

/-- Every call does the same in both worlds, up to users. Calls of the service have lemmas of their
own, and all others ignore rows. -/
theorem RenamedWorld.perform (renamed : RenamedWorld first second)
    (valid : ∀ n, (first.clock n).IsValid) (same : call.Same other) :
    RenamedAnswer (call.perform first).1 (other.perform second).1 ∧
      RenamedWorld (call.perform first).2 (other.perform second).2 := by
  cases same with
  | place user other customerId totalCents =>
    have done := renamed.place valid user other customerId (admits_toInt totalCents)
    simp only [Call.perform]
    exact ⟨.order done.given, done.world⟩
  | cancel user other id reason =>
    have done := renamed.cancel valid user other id reason
    exact ⟨.order done.given, done.world⟩
  | cycle config =>
    have left := (Delivery.processBatch_delivers config first).memory.rows
    obtain ⟨outcome, worlds⟩ := renamed.ignoring (Delivery.ignores_processBatch · config) left
    refine ⟨?_, worlds⟩
    simp only [Call.perform, outcome]
    exact .same _
  | reset id =>
    have left := (Delivery.reset_delivers id first).1.memory.rows
    obtain ⟨outcome, worlds⟩ := renamed.ignoring (Site.ignores_resetRetries · id) left
    refine ⟨?_, worlds⟩
    simp only [Call.perform, outcome]
    exact .same _
  | disturb faults failNextCommit failNextFetch refused unavailable =>
    exact ⟨.same _, congrArg
      (Site.disturbed faults failNextCommit failNextFetch refused unavailable) renamed.whole,
      renamed.rows⟩

/-- No call changes the readings to come. -/
theorem Call.clock_perform (call : Call) (world : World Site) :
    (call.perform world).2.clock = world.clock := by
  cases call with
  | place user customerId totalCents =>
    simp only [Call.perform]
    exact (called_place user customerId totalCents.toInt world).passes.clock
  | cancel user id reason => exact (called_cancel user id reason world).passes.clock
  | cycle config => exact (Delivery.processBatch_delivers config world).clock
  | reset id => exact (Delivery.reset_delivers id world).1.clock
  | disturb => rfl

/-- So two runs differ in users alone after every call: each call begins where the ones before it
have led both runs. The induction is on the two lists at once. -/
theorem RenamedWorld.performAll (renamed : RenamedWorld first second)
    (valid : ∀ n, (first.clock n).IsValid) (same : List.Forall₂ Call.Same calls others) :
    List.Forall₂ NamesApart (Call.performAll first calls) (Call.performAll second others) := by
  induction same generalizing first second with
  | nil => exact .nil
  | cons head _ inductionHypothesis =>
    obtain ⟨answer, worlds⟩ := renamed.perform valid head
    refine .cons (worlds.namesApart answer) (inductionHypothesis worlds fun n => ?_)
    rw [Call.clock_perform]
    exact valid n

end

/-- Whatever a world holds, the same calls on behalf of other users give the same answers and leave
the same outbox and the same bus after each call. Orders that are given or stored differ in the two
audit fields that name users at most.

Proof: a world is itself with nobody renamed, and every call keeps two worlds the same up to users
(`RenamedWorld.perform`). An order that was read from a renamed row is the order renamed; it raises
the same events, so that the two commits differ in the row of the order at most. -/
theorem users_confined {calls others : List Call} (same : List.Forall₂ Call.Same calls others)
    {world : World Site} (valid : ∀ n, (world.clock n).IsValid) :
    List.Forall₂ NamesApart (Call.performAll world calls) (Call.performAll world others) :=
  (renamedWorld_refl world).performAll valid same

/-- One user places an order that the other one cancels, after a commit of that failed; the bus
refuses one of the two messages at first. What else they ask for is refused. -/
def sharedDay (first second : String) : List Call :=
  [.place first " c-1 " 500, .disturb Faults.none true false ["orders.order_placed.v1"] false,
    .cycle {}, .cancel second (Site.quietWorld.ids 0) "late",
    .cancel second (Site.quietWorld.ids 0) "late", .cancel first (Site.quietWorld.ids 0) "again",
    .disturb Faults.none false false [] false, .place second " " 700,
    .reset (Site.quietWorld.ids 1), .cancel first (Site.quietWorld.ids 9) "unknown", .cycle {}]

theorem users_confined_sharedDay :
    List.Forall₂ Call.Same (sharedDay "ann" "bob") (sharedDay "eve" "") ∧
      (∀ n, (Site.quietWorld.clock n).IsValid) ∧
      List.Forall₂ NamesApart (Call.performAll Site.quietWorld (sharedDay "ann" "bob"))
        (Call.performAll Site.quietWorld (sharedDay "eve" "")) := by
  have same : List.Forall₂ Call.Same (sharedDay "ann" "bob") (sharedDay "eve" "") :=
    .cons (.place ..) <| .cons (.disturb ..) <| .cons (.cycle _) <| .cons (.cancel ..) <|
      .cons (.cancel ..) <| .cons (.cancel ..) <| .cons (.disturb ..) <| .cons (.place ..) <|
      .cons (.reset _) <| .cons (.cancel ..) <| .cons (.cycle _) .nil
  exact ⟨same, valid_quietWorld, users_confined same valid_quietWorld⟩

end Order

end OutboxRelay

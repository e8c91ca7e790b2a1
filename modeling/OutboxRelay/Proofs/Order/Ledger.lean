import OutboxRelay.Proofs.Delivery.Steps
import OutboxRelay.Proofs.Order.Consistency

/-!
# The ledger of a site

Calls on a site one after the other, and what the successful ones among them did. The table of
orders and the outbox are two accounts of the same deeds. Every stored order was placed once, which
one message says, and was cancelled at most once, which one message says if and only if it was. No
message says anything else. The audit fields of the order name the users of just these two deeds.

The messages about an order are those of the type of a kind whose envelope names the order. What
delivery does to a message changes neither, so that only commits of the service add to the accounts.
-/

namespace OutboxRelay

namespace Order

open Rehearsal (Faults Site)

/-! ### Calls and deeds -/

/-- One call on a site: of the service by some user, of a processor, or of an operator who gives a
message its retries back or changes what will fail. -/
inductive Call where
  | place (user customerId : String) (totalCents : Int64)
  | cancel (user : String) (id : Identifier) (reason : String)
  /-- One cycle of a processor. -/
  | cycle (config : Delivery.Config)
  | reset (id : Identifier)
  /-- The switches that make calls of the store and attempts fail are set anew. -/
  | disturb (faults : Faults) (failNextCommit failNextFetch : Bool) (refused : List String)
    (unavailable : Bool)

/-- A call of the service that succeeded: on behalf of whom, and the order that it gave back. A deed
is known from the answer alone, so that it is an account of its own beside table and outbox. -/
structure Deed where
  kind : Kind
  user : String
  order : Order

/-- A world and the deeds that were done in it, the first one first. The deeds are only noted: no
call depends on them. -/
structure Ledger where
  world : World Site
  deeds : List Deed := []

/-- What the answer to a call adds to the deeds. -/
def deedsOf (kind : Kind) (user : String) : Except Error Order → List Deed
  | .ok order => [⟨kind, user, order⟩]
  | .error _ => []

/-- What one call does. Only the answers of the service are noted as deeds, since delivery does
nothing to orders. -/
def Ledger.enter (ledger : Ledger) : Call → Ledger
  | .place user customerId totalCents =>
    let done := ((siteService user).placeOrder customerId totalCents.toInt).perform ledger.world
    { world := done.2, deeds := ledger.deeds ++ deedsOf .placed user done.1 }
  | .cancel user id reason =>
    let done := ((siteService user).cancelOrder id reason).perform ledger.world
    { world := done.2, deeds := ledger.deeds ++ deedsOf .cancelled user done.1 }
  | .cycle config =>
    { ledger with world := ((Site.processor config).processBatch.perform ledger.world).2 }
  | .reset id => { ledger with world := ((Site.store.resetRetries id).perform ledger.world).2 }
  | .disturb faults failNextCommit failNextFetch refused unavailable =>
    { ledger with
      world := Site.disturbed faults failNextCommit failNextFetch refused unavailable ledger.world }

/-- What calls do one after the other, each of them in the world that the calls before it have
left. -/
def Ledger.enterAll (ledger : Ledger) (calls : List Call) : Ledger :=
  calls.foldl enter ledger

/-- The deeds of a kind done to an order, in the order in which they were done. -/
def deedsAbout (kind : Kind) (id : Identifier) (deeds : List Deed) : List Deed :=
  deeds.filter fun deed => deed.kind = kind ∧ deed.order.id = id

end Order

/-- Whether a message says of an order that something of a kind happened to it. This is read off its
type and its envelope, as a subscriber would read it, and not off the fact that it was made from. -/
def Outbox.Message.concerns (kind : Order.Kind) (id : Identifier) (message : Message) : Bool :=
  message.eventType == Order.integrationType kind &&
    message.envelope?.map (·.aggregateId) == some id.toText

/-- The messages of the outbox that say so. -/
def Outbox.Memory.about (kind : Order.Kind) (id : Identifier) (memory : Memory) : List Message :=
  memory.outbox.filter (·.concerns kind id)

/-- These messages as they were added. -/
def Outbox.Memory.addedAbout (kind : Order.Kind) (id : Identifier) (memory : Memory) :
    List Message :=
  memory.added.filter (·.concerns kind id)

namespace Order

open Delivery (Delivers)
open Outbox (Memory Message)
open Rehearsal (Site)

theorem addedAbout_eq (kind : Kind) (id : Identifier) (memory : Memory) :
    memory.addedAbout kind id = (memory.about kind id).map (·.asAdded) :=
  List.filter_map

/-- A message about an order is one of a fact about it. The types of the kinds differ, and
identifiers that are written alike are the same, so that no message concerns two orders or two
kinds. -/
theorem concerns_messageOf (kind : Kind) (id : Identifier) (messageId : Identifier) {other : Kind}
    {fact : EventFamily.Fact other} (happens : Happens other fact) :
    (messageOf messageId other fact).concerns kind id = true ↔
      other = kind ∧ subject other fact = id := by
  have named : (envelope messageId other fact).aggregateId = (subject other fact).toText := by
    cases other <;> rfl
  have types : integrationType other = integrationType kind ↔ other = kind := by
    cases other <;> cases kind <;> decide
  rw [Message.concerns, envelope?_messageOf messageId happens, Option.map_some, named,
    Bool.and_eq_true, beq_iff_eq, beq_iff_eq, Option.some_inj]
  constructor
  · rintro ⟨eventType, same⟩
    exact ⟨types.mp eventType, Identifier.toText_injective same⟩
  · rintro ⟨sameKind, rfl⟩
    exact ⟨types.mpr sameKind, rfl⟩

/-! ### Accounts of one order -/

section

variable {memory : Memory} {deeds : List Deed} {kind : Kind} {id : Identifier}

/-- Both accounts name one deed of a kind done to an order: there is one message of the fact, and
one call that succeeded. -/
structure Once (memory : Memory) (deeds : List Deed) (kind : Kind) (id : Identifier)
    (fact : EventFamily.Fact kind) (deed : Deed) : Prop where
  message : ∃ messageId, memory.addedAbout kind id = [messageOf messageId kind fact]
  happens : Happens kind fact
  deed : deedsAbout kind id deeds = [deed]

/-- Neither account names a deed of a kind done to an order. -/
structure Never (memory : Memory) (deeds : List Deed) (kind : Kind) (id : Identifier) : Prop where
  messages : memory.addedAbout kind id = []
  deeds : deedsAbout kind id deeds = []

/-- A commit adds its message to the account of what it is about, and to no other. This is what
keeps the accounts of different orders apart from each other. -/
theorem addedAbout_apply (memory : Memory) (order : Order) (messageId : Identifier) {other : Kind}
    {fact : EventFamily.Fact other} (happens : Happens other fact) (kind : Kind)
    (id : Identifier) :
    (memory.apply (sessionOf order (messageOf messageId other fact))).addedAbout kind id =
      memory.addedAbout kind id ++
        if other = kind ∧ subject other fact = id then [messageOf messageId other fact]
        else [] := by
  rw [Memory.addedAbout, Memory.added_apply, List.filter_append]
  refine congrArg (memory.addedAbout kind id ++ ·) ?_
  have whole : (sessionOf order (messageOf messageId other fact)).outbox.map (·.asAdded) =
      [messageOf messageId other fact] := rfl
  rw [whole]
  by_cases concerned : other = kind ∧ subject other fact = id
  · rw [if_pos concerned]
    exact List.filter_cons_of_pos ((concerns_messageOf kind id messageId happens).mpr concerned)
  · rw [if_neg concerned]
    have silent := mt (concerns_messageOf kind id messageId happens).mp concerned
    exact List.filter_cons_of_neg silent

/-- In the same way a deed is added to the account of its kind and order only. -/
theorem deedsAbout_append (deeds : List Deed) (deed : Deed) (kind : Kind) (id : Identifier) :
    deedsAbout kind id (deeds ++ [deed]) =
      deedsAbout kind id deeds ++ if deed.kind = kind ∧ deed.order.id = id then [deed] else [] := by
  rw [deedsAbout, List.filter_append]
  refine congrArg (deedsAbout kind id deeds ++ ·) ?_
  by_cases concerned : deed.kind = kind ∧ deed.order.id = id
  · rw [if_pos concerned]
    exact List.filter_cons_of_pos (decide_eq_true concerned)
  · rw [if_neg concerned]
    exact List.filter_cons_of_neg (mt of_decide_eq_true concerned)

/-- A deed and the commit that did it, with the message of its fact. The row and the message were
written together, and they are about the same order. -/
structure Records (deed : Deed) (fact : EventFamily.Fact deed.kind) (before after : Memory) :
    Prop where
  memory : ∃ messageId,
    after = before.apply (sessionOf deed.order (messageOf messageId deed.kind fact))
  happens : Happens deed.kind fact
  about : deed.order.id = subject deed.kind fact

variable {after : Memory} {new : Deed} {newFact : EventFamily.Fact new.kind}

/-- A deed leaves the account of other deeds alone, of another kind or of another order. -/
theorem Once.keep {fact : EventFamily.Fact kind} {deed : Deed}
    (once : Once memory deeds kind id fact deed) (records : Records new newFact memory after)
    (other : ¬(new.kind = kind ∧ new.order.id = id)) :
    Once after (deeds ++ [new]) kind id fact deed := by
  obtain ⟨messageId, rfl⟩ := records.memory
  refine ⟨?_, once.happens, ?_⟩
  · rw [addedAbout_apply _ _ _ records.happens, ← records.about, if_neg other, List.append_nil]
    exact once.message
  · rw [deedsAbout_append, if_neg other, List.append_nil]
    exact once.deed

/-- Neither does it put anything into an account that was empty, unless it is its own. -/
theorem Never.keep (never : Never memory deeds kind id) (records : Records new newFact memory after)
    (other : ¬(new.kind = kind ∧ new.order.id = id)) : Never after (deeds ++ [new]) kind id := by
  obtain ⟨messageId, rfl⟩ := records.memory
  constructor
  · rw [addedAbout_apply _ _ _ records.happens, ← records.about, if_neg other, List.append_nil]
    exact never.messages
  · rw [deedsAbout_append, if_neg other, List.append_nil]
    exact never.deeds

/-- A deed that was never done before is now done once, and both accounts say so. -/
theorem Never.once (never : Never memory deeds new.kind new.order.id)
    (records : Records new newFact memory after) :
    Once after (deeds ++ [new]) new.kind new.order.id newFact new := by
  obtain ⟨messageId, rfl⟩ := records.memory
  refine ⟨⟨messageId, ?_⟩, records.happens, ?_⟩
  · rw [addedAbout_apply _ _ _ records.happens, ← records.about, if_pos ⟨rfl, rfl⟩,
      never.messages, List.nil_append]
  · rw [deedsAbout_append, if_pos ⟨rfl, rfl⟩, never.deeds, List.nil_append]

/-- What both accounts say of a stored order is so, and is all that there is to say. A standing
order has one deed behind it and a cancelled one has two, and the audit fields name their users. -/
structure Told (memory : Memory) (deeds : List Deed) (order : Order) : Prop where
  placed : ∃ deed time stamp,
    Once memory deeds .placed order.id
      (⟨order.id, order.customerId, order.totalCents, time⟩ : Placed) deed ∧
    deed.order.audit = ⟨some deed.user, some stamp, none, none⟩ ∧
    order.audit.createdBy = some deed.user ∧ order.audit.createdOn = some stamp
  standing : order.status = .placed → Never memory deeds .cancelled order.id ∧
    order.audit.modifiedBy = none ∧ order.audit.modifiedOn = none
  cancelled : order.status = .cancelled → ∃ deed reason time stamp,
    Once memory deeds .cancelled order.id (⟨order.id, reason, time⟩ : Cancelled) deed ∧
    order.cancelReason = some reason ∧ deed.order = order ∧
    order.audit.modifiedBy = some deed.user ∧ order.audit.modifiedOn = some stamp

/-- What is told of an order rests on nothing but the two accounts of it. -/
theorem Told.imp {order : Order} {deedsAfter : List Deed} (told : Told memory deeds order)
    (once : ∀ kind fact deed, Once memory deeds kind order.id fact deed →
      Once after deedsAfter kind order.id fact deed)
    (never : Never memory deeds .cancelled order.id → Never after deedsAfter .cancelled order.id) :
    Told after deedsAfter order where
  placed := by
    obtain ⟨deed, time, stamp, placed, rest⟩ := told.placed
    exact ⟨deed, time, stamp, once _ _ _ placed, rest⟩
  standing standing := by
    obtain ⟨absent, rest⟩ := told.standing standing
    exact ⟨never absent, rest⟩
  cancelled cancelled := by
    obtain ⟨deed, reason, time, stamp, ended, rest⟩ := told.cancelled cancelled
    exact ⟨deed, reason, time, stamp, once _ _ _ ended, rest⟩

end

/-! ### A ledger that is kept -/

/-- A ledger whose accounts tell of all stored orders and of nothing else. This is the invariant of
all calls; that a deed is always one of a stored order is part of it, since otherwise a new order
might find deeds under its identifier. -/
structure Kept (ledger : Ledger) : Prop where
  consistent : Consistent ledger.world.ids ledger.world.drawn ledger.world.state.memory
  told : ∀ order, Stored ledger.world.state.memory order →
    Told ledger.world.state.memory ledger.deeds order
  deeds : ∀ deed ∈ ledger.deeds, ∃ order, Stored ledger.world.state.memory order ∧
    order.id = deed.order.id

/-- Nothing is told of what is not stored. A message or a deed about an order would make the order a
stored one. -/
theorem Kept.never {ledger : Ledger} (kept : Kept ledger) {id : Identifier}
    (absent : ∀ order, Stored ledger.world.state.memory order → order.id ≠ id) (kind : Kind) :
    Never ledger.world.state.memory ledger.deeds kind id := by
  constructor
  · refine List.filter_eq_nil_iff.mpr ?_
    intro message member concerned
    obtain ⟨other, fact, order, written, happens, stored, about, _⟩ :=
      kept.consistent.announced message member
    rw [written, concerns_messageOf kind id _ happens] at concerned
    exact absent order stored (about.trans concerned.2)
  · refine List.filter_eq_nil_iff.mpr ?_
    intro deed member concerned
    obtain ⟨order, stored, same⟩ := kept.deeds deed member
    exact absent order stored (same.trans (of_decide_eq_true concerned).2)

/-- A call that changes no row and adds no message keeps a ledger, since all that is told rests on
rows and on messages as they were added. -/
theorem Kept.congr {ledger : Ledger} {world : World Site} (kept : Kept ledger)
    (consistent : Consistent world.ids world.drawn world.state.memory)
    (rows : world.state.memory.rows = ledger.world.state.memory.rows)
    (added : world.state.memory.added = ledger.world.state.memory.added) :
    Kept { ledger with world } := by
  have stored (order : Order) :
      Stored world.state.memory order ↔ Stored ledger.world.state.memory order := by
    apply stored_congr
    rw [rows]
  have about (kind : Kind) (id : Identifier) :
      world.state.memory.addedAbout kind id = ledger.world.state.memory.addedAbout kind id := by
    rw [Memory.addedAbout, added]
    rfl
  refine ⟨consistent, ?_, ?_⟩
  · intro order standing
    refine (kept.told order ((stored order).mp standing)).imp ?_ ?_
    · intro _ _ _ once
      exact ⟨about _ _ ▸ once.message, once.happens, once.deed⟩
    · intro never
      exact ⟨about _ _ ▸ never.messages, never.deeds⟩
  · intro deed member
    obtain ⟨order, standing, same⟩ := kept.deeds deed member
    exact ⟨order, (stored order).mpr standing, same⟩

/-- A deed that is told as it was done keeps a ledger. Only one order is written, so what is told of
all others stays as it was, and no other order gets the same identifier. -/
theorem Kept.record {ledger : Ledger} {world : World Site} {new : Deed}
    {fact : EventFamily.Fact new.kind} (kept : Kept ledger)
    (consistent : Consistent world.ids world.drawn world.state.memory)
    (records : Records new fact ledger.world.state.memory world.state.memory)
    (stored : Stored world.state.memory new.order)
    (told : Told world.state.memory (ledger.deeds ++ [new]) new.order) :
    Kept { world, deeds := ledger.deeds ++ [new] } := by
  obtain ⟨messageId, after⟩ := records.memory
  have others {order : Order} (different : order.id ≠ new.order.id) :
      Stored world.state.memory order ↔ Stored ledger.world.state.memory order := by
    rw [after]
    exact stored_apply_ne _ different
  refine ⟨consistent, ?_, ?_⟩
  · intro order standing
    by_cases own : order.id = new.order.id
    · exact standing.unique stored own ▸ told
    · have apart (kind : Kind) : ¬(new.kind = kind ∧ new.order.id = order.id) :=
        fun both => own both.2.symm
      exact (kept.told order ((others own).mp standing)).imp
        (fun _ _ _ once => once.keep records (apart _)) (fun never => never.keep records (apart _))
  · intro deed member
    rcases List.mem_append.mp member with earlier | last
    · obtain ⟨order, standing, same⟩ := kept.deeds deed earlier
      by_cases own : order.id = new.order.id
      · exact ⟨new.order, stored, own.symm.trans same⟩
      · exact ⟨order, (others own).mpr standing, same⟩
    · rw [List.mem_singleton.mp last]
      exact ⟨new.order, stored, rfl⟩

/-- A delivery keeps a ledger: it changes the marks of messages, and these belong to no account. -/
theorem Kept.deliver {ledger : Ledger} {world : World Site} {mayMark : Identifier → Prop}
    (kept : Kept ledger) (delivers : Delivers mayMark ledger.world world) :
    Kept { ledger with world } := by
  refine kept.congr ?_ delivers.memory.rows delivers.memory.added
  rw [delivers.ids]
  exact kept.consistent.congr (Nat.le_of_eq delivers.drawn.symm) delivers.memory.rows
    delivers.memory.added

/-- A failed call of the service keeps a ledger, since all that it leaves behind is identifiers
drawn and readings of the clock. -/
theorem Kept.rests {ledger : Ledger} {world : World Site} {draws : Nat} (kept : Kept ledger)
    (rests : Rests draws ledger.world world) : Kept { ledger with world } := by
  refine kept.congr (kept.consistent.rests rests) rests.memory.rows ?_
  rw [Memory.added, rests.memory.outbox]
  rfl

theorem enter_place (ledger : Ledger) (user customerId : String) (totalCents : Int64) :
    let done := ((siteService user).placeOrder customerId totalCents.toInt).perform ledger.world
    ledger.enter (.place user customerId totalCents) =
      { world := done.2, deeds := ledger.deeds ++ deedsOf .placed user done.1 } := by
  simp only [Ledger.enter]

theorem enter_cancel (ledger : Ledger) (user : String) (id : Identifier) (reason : String) :
    let done := ((siteService user).cancelOrder id reason).perform ledger.world
    ledger.enter (.cancel user id reason) =
      { world := done.2, deeds := ledger.deeds ++ deedsOf .cancelled user done.1 } := by
  simp only [Ledger.enter]

/-- Placing an order keeps a ledger. The order is new, because its identifier is, so that nothing
was told under that identifier; now one deed and one message are. -/
theorem Kept.place {ledger : Ledger} (kept : Kept ledger)
    (valid : ∀ n, (ledger.world.clock n).IsValid) (user customerId : String) (totalCents : Int64)
    (distinct : DistinctDraws ledger.world.ids
      (ledger.enter (.place user customerId totalCents)).world.drawn) :
    Kept (ledger.enter (.place user customerId totalCents)) := by
  rw [enter_place] at distinct ⊢
  dsimp only at distinct
  have consistent := kept.consistent.placeOrder valid user customerId (admits_toInt totalCents)
    distinct
  have cases := placeOrder_cases user customerId totalCents.toInt ledger.world
  generalize ((siteService user).placeOrder customerId totalCents.toInt).perform ledger.world =
    done at cases consistent distinct ⊢
  obtain ⟨answer, world⟩ := done
  rcases cases with ⟨error, failed, rests⟩ | ⟨name, _, answered, commits⟩
  · rw [show answer = _ from failed, deedsOf, List.append_nil]
    exact kept.rests rests
  · rw [show answer = _ from answered]
    have drawn : world.drawn = ledger.world.drawn + 2 := commits.drawn
    rw [drawn] at distinct
    let order := placedOrder user name totalCents.toInt ledger.world
    let fact : Placed :=
      ⟨order.id, name, totalCents.toInt, ledger.world.clock ledger.world.readings⟩
    have records : Records ⟨.placed, user, order⟩ fact ledger.world.state.memory
        world.state.memory := ⟨⟨_, commits.memory⟩, ⟨valid _, admits_toInt totalCents⟩, rfl⟩
    have stored : Stored world.state.memory order := commits.memory ▸
      stored_apply_self _ (storable_placedOrder valid user name (admits_toInt totalCents)) rfl
    have absent : ∀ other, Stored ledger.world.state.memory other → other.id ≠ order.id :=
      fun other standing => distinct.ne_of_drawn (kept.consistent.orders other standing)
        (Nat.le_refl _) (by omega)
    refine kept.record consistent records stored ⟨?_, ?_, ?_⟩
    · exact ⟨_, _, _, (kept.never absent .placed).once records, rfl, rfl, rfl⟩
    · intro _
      exact ⟨(kept.never absent .cancelled).keep records fun both => Kind.noConfusion both.1,
        rfl, rfl⟩
    · intro cancelled
      exact Status.noConfusion cancelled

/-- Only an order that stands is accepted for cancellation, so that nothing was said yet of a
cancellation. -/
theorem standing_of_acceptReason {order : Order} {reason kept : String}
    (accepted : order.acceptReason reason = .ok kept) : order.status = .placed := by
  unfold acceptReason at accepted
  split at accepted
  · cases accepted
  · next standing =>
    cases status : order.status with
    | placed => rfl
    | cancelled => exact absurd status standing

/-- Cancelling an order keeps a ledger. What was told of its placing stays, as that is a deed of the
other kind; of a cancellation nothing was told, since the order stood when it was found. -/
theorem Kept.cancel {ledger : Ledger} (kept : Kept ledger)
    (valid : ∀ n, (ledger.world.clock n).IsValid) (user : String) (id : Identifier)
    (reason : String)
    (distinct : DistinctDraws ledger.world.ids
      (ledger.enter (.cancel user id reason)).world.drawn) :
    Kept (ledger.enter (.cancel user id reason)) := by
  rw [enter_cancel] at distinct ⊢
  dsimp only at distinct
  have consistent := kept.consistent.cancelOrder valid user id reason distinct
  have cases := cancelOrder_cases user id reason ledger.world
  generalize ((siteService user).cancelOrder id reason).perform ledger.world =
    done at cases consistent ⊢
  obtain ⟨answer, world⟩ := done
  rcases cases with ⟨error, failed, rests⟩ | ⟨old, why, found, accepted, answered, commits⟩
  · rw [show answer = _ from failed, deedsOf, List.append_nil]
    exact kept.rests rests
  · rw [show answer = _ from answered]
    obtain ⟨standing, _⟩ := kept.consistent.stored_of_findIn found
    have told := kept.told old standing
    let order := cancelledOrder user why old ledger.world
    let fact : Cancelled := ⟨order.id, why, ledger.world.clock ledger.world.readings⟩
    have records : Records ⟨.cancelled, user, order⟩ fact ledger.world.state.memory
        world.state.memory := ⟨⟨_, commits.memory⟩, valid _, rfl⟩
    have stored : Stored world.state.memory order := commits.memory ▸
      stored_apply_self _ (storable_cancelledOrder valid user why standing.storable) rfl
    have never := (told.standing (standing_of_acceptReason accepted)).1
    refine kept.record consistent records stored ⟨?_, ?_, ?_⟩
    · obtain ⟨deed, time, stamp, once, rest⟩ := told.placed
      exact ⟨deed, time, stamp, once.keep records fun both => Kind.noConfusion both.1, rest⟩
    · intro standing
      exact Status.noConfusion standing
    · intro _
      exact ⟨_, _, _, _, never.once records, rfl, rfl, rfl, rfl⟩

/-! ### Calls one after the other -/

/-- A call draws two identifiers at most. -/
theorem enter_passes (ledger : Ledger) (call : Call) :
    Site.Passes 2 ledger.world (ledger.enter call).world := by
  cases call with
  | place user customerId totalCents =>
    rw [enter_place]
    dsimp only
    exact (called_place user customerId totalCents.toInt ledger.world).passes
  | cancel user id reason =>
    rw [enter_cancel]
    dsimp only
    exact (called_cancel user id reason ledger.world).passes
  | cycle config => exact (Delivery.processBatch_delivers config ledger.world).passes 2
  | reset id => exact (Delivery.reset_delivers id ledger.world).1.passes 2
  | disturb => exact Site.passes_withState 2 ledger.world _

theorem enterAll_passes (ledger : Ledger) (calls : List Call) :
    Site.Passes (2 * calls.length) ledger.world (ledger.enterAll calls).world := by
  induction calls generalizing ledger with
  | nil => exact Site.passes_refl _ _
  | cons call rest inductionHypothesis =>
    have both := (enter_passes ledger call).trans (inductionHypothesis (ledger.enter call))
    rw [List.length_cons, Nat.mul_succ, Nat.add_comm]
    exact both

/-- Every call keeps a ledger, as long as the identifiers that it draws are new. Delivery, resets
and changes of switches leave both accounts alone, and calls of the service add one deed or none. -/
theorem Kept.enter {ledger : Ledger} (kept : Kept ledger)
    (valid : ∀ n, (ledger.world.clock n).IsValid) (call : Call)
    (distinct : DistinctDraws ledger.world.ids (ledger.enter call).world.drawn) :
    Kept (ledger.enter call) := by
  cases call with
  | place user customerId totalCents => exact kept.place valid user customerId totalCents distinct
  | cancel user id reason => exact kept.cancel valid user id reason distinct
  | cycle config => exact kept.deliver (Delivery.processBatch_delivers config ledger.world)
  | reset id => exact kept.deliver (Delivery.reset_delivers id ledger.world).1
  | disturb faults failNextCommit failNextFetch refused unavailable =>
    exact kept.congr (kept.consistent.congr (Nat.le_refl _) rfl rfl) rfl rfl

/-- So do all calls one after the other, by induction on them. The identifiers that the first call
draws are among the distinct ones that the whole list draws. -/
theorem Kept.enterAll {ledger : Ledger} (kept : Kept ledger)
    (valid : ∀ n, (ledger.world.clock n).IsValid) (calls : List Call)
    (distinct : DistinctDraws ledger.world.ids (ledger.enterAll calls).world.drawn) :
    Kept (ledger.enterAll calls) := by
  induction calls generalizing ledger with
  | nil => exact kept
  | cons call rest inductionHypothesis =>
    have first := enter_passes ledger call
    have later := enterAll_passes (ledger.enter call) rest
    have entered := kept.enter valid call (distinct.mono later.drawn)
    refine inductionHypothesis entered ?_ ?_
    · exact first.clock ▸ valid
    · exact first.ids ▸ distinct

/-- Before the first call there is nothing to tell. -/
theorem kept_unused {world : World Site} (unused : Unused world.state.memory) :
    Kept { world } := by
  refine ⟨unused.consistent _ _, ?_, ?_⟩
  · intro order stored
    have found := stored.row
    rw [unused.rows] at found
    cases found
  · rintro deed ⟨⟩

/-! ### The two accounts -/

/-- What the outbox and the deeds say of a stored order. It is stated on the messages that are in
the outbox now, whatever delivery has marked on them. -/
structure Account (ledger : Ledger) (order : Order) : Prop where
  /-- One message says that the order was placed, for its customer and at its total. -/
  placed : ∃ message envelope, ledger.world.state.memory.about .placed order.id = [message] ∧
    message.envelope? = some envelope ∧
    envelope.payload.get? "customer_id" = some (.text order.customerId) ∧
    envelope.payload.get? "total_cents" = some (.integer order.totalCents)
  /-- One message says that it was cancelled, for its reason, if it was. -/
  cancelled : order.status = .cancelled → ∃ message envelope reason,
    ledger.world.state.memory.about .cancelled order.id = [message] ∧
    message.envelope? = some envelope ∧ order.cancelReason = some reason ∧
    envelope.payload.get? "reason" = some (.text reason)
  /-- No message says so if it was not. -/
  standing : order.status = .placed → ledger.world.state.memory.about .cancelled order.id = []
  /-- It was placed once, and still carries what that wrote. -/
  created : ∃ deed stamp, deedsAbout .placed order.id ledger.deeds = [deed] ∧
    deed.order.audit = ⟨some deed.user, some stamp, none, none⟩ ∧
    order.audit.createdBy = some deed.user ∧ order.audit.createdOn = some stamp
  /-- If it is cancelled, it was once, and is as that left it. -/
  modified : order.status = .cancelled → ∃ deed stamp,
    deedsAbout .cancelled order.id ledger.deeds = [deed] ∧ deed.order = order ∧
    order.audit.modifiedBy = some deed.user ∧ order.audit.modifiedOn = some stamp
  /-- If it stands, nobody changed it. -/
  unmodified : order.status = .placed → deedsAbout .cancelled order.id ledger.deeds = [] ∧
    order.audit.modifiedBy = none ∧ order.audit.modifiedOn = none

/-- A ledger in which the table of orders and the outbox agree: each row has its account, and no
message is about anything but a row. -/
structure Balanced (ledger : Ledger) : Prop where
  /-- Every row is that of an order, under the order's own identifier. -/
  rows : ∀ key row, ledger.world.state.memory.rows table key = some row →
    ∃ order, key = order.id.toText ∧ Record.ofJson row = .ok order.toRecord ∧ Account ledger order
  /-- Every message names a row. -/
  messages : ∀ message ∈ ledger.world.state.memory.outbox, ∃ envelope row,
    message.envelope? = some envelope ∧
    ledger.world.state.memory.rows table envelope.aggregateId = some row

/-- One message as it was added is one message of the outbox, with the envelope of its fact, because
delivery neither adds nor removes messages and leaves contents alone. -/
theorem Once.single {memory : Memory} {deeds : List Deed} {kind : Kind} {id : Identifier}
    {fact : EventFamily.Fact kind} {deed : Deed} (once : Once memory deeds kind id fact deed) :
    ∃ message messageId, memory.about kind id = [message] ∧
      message.envelope? = some (envelope messageId kind fact) := by
  obtain ⟨messageId, single⟩ := once.message
  rw [addedAbout_eq] at single
  obtain ⟨message, alone, same⟩ := List.map_eq_singleton_iff.mp single
  refine ⟨message, messageId, alone, ?_⟩
  have content : message.asAdded.content = (messageOf messageId kind fact).content :=
    congrArg Message.content same
  exact (congrArg Envelope.ofText? content).trans (envelope?_messageOf messageId once.happens)

theorem Never.none {memory : Memory} {deeds : List Deed} {kind : Kind} {id : Identifier}
    (never : Never memory deeds kind id) : memory.about kind id = [] :=
  List.map_eq_nil_iff.mp ((addedAbout_eq kind id memory).symm.trans never.messages)

/-- What is told of an order is its account. The payload of the one message repeats the facts of the
order, and these were never changed since. -/
theorem Told.account {ledger : Ledger} {order : Order}
    (told : Told ledger.world.state.memory ledger.deeds order) : Account ledger order := by
  refine ⟨?_, ?_, ?_, ?_, ?_, ?_⟩
  · obtain ⟨deed, time, stamp, once, _⟩ := told.placed
    obtain ⟨message, messageId, alone, read⟩ := once.single
    exact ⟨message, _, alone, read, get?_placed _⟩
  · intro cancelled
    obtain ⟨deed, reason, time, stamp, once, why, _⟩ := told.cancelled cancelled
    obtain ⟨message, messageId, alone, read⟩ := once.single
    exact ⟨message, _, reason, alone, read, why, get?_cancelled _⟩
  · intro standing
    exact (told.standing standing).1.none
  · obtain ⟨deed, time, stamp, once, audit, rest⟩ := told.placed
    exact ⟨deed, stamp, once.deed, audit, rest⟩
  · intro cancelled
    obtain ⟨deed, reason, time, stamp, once, _, last, rest⟩ := told.cancelled cancelled
    exact ⟨deed, stamp, once.deed, last, rest⟩
  · intro standing
    obtain ⟨never, rest⟩ := told.standing standing
    exact ⟨never.deeds, rest⟩

/-- A ledger that is kept is balanced: every row is that of a stored order, and every message was
added for a stored order. -/
theorem Kept.balanced {ledger : Ledger} (kept : Kept ledger) : Balanced ledger := by
  constructor
  · intro key row found
    obtain ⟨order, stored, same⟩ := kept.consistent.keyed key row found
    have written : some row = some order.toRecord.toJson := by
      rw [← found, same, stored.row]
    injection written with written
    exact ⟨order, same, written ▸ Record.ofJson_toJson stored.storable,
      (kept.told order stored).account⟩
  · intro message member
    obtain ⟨kind, fact, order, written, happens, stored, about, _⟩ :=
      kept.consistent.announced message.asAdded (List.mem_map_of_mem member)
    have content : message.asAdded.content = (messageOf message.id kind fact).content :=
      congrArg Message.content written
    have named : (envelope message.id kind fact).aggregateId = order.id.toText := by
      rw [about]
      cases kind <;> rfl
    refine ⟨envelope message.id kind fact, order.toRecord.toJson, ?_, named ▸ stored.row⟩
    exact (congrArg Envelope.ofText? content).trans (envelope?_messageOf message.id happens)

/-- From an unused store on, the table of orders and the outbox agree after any calls. Commits,
polls and attempts may fail at any time, and calls may come in any order.

Proof: `Kept` holds of an unused store (`kept_unused`) and is kept by every call, and so by every
list of calls (`Kept.enterAll`). A successful call of the service adds one deed and one message to
the same account, and nothing else does; what the ledger then says is `Kept.balanced`. -/
theorem ledger_balanced (calls : List Call) {world : World Site}
    (unused : Unused world.state.memory) (valid : ∀ n, (world.clock n).IsValid)
    (distinct : DistinctDraws world.ids (Ledger.enterAll { world } calls).world.drawn) :
    Balanced (Ledger.enterAll { world } calls) :=
  ((kept_unused unused).enterAll valid calls distinct).balanced

/-- One order is placed and cancelled between two cycles, after a commit of its cancellation failed;
another is placed and stands. Both cancellations that come too late are refused. -/
def busyDay : List Call :=
  [.place "ann" "c-1" 500, .cycle {}, .disturb Rehearsal.Faults.none true false [] false,
    .cancel "bob" (Site.quietWorld.ids 0) "late", .cancel "bob" (Site.quietWorld.ids 0) "late",
    .cancel "ann" (Site.quietWorld.ids 0) "again", .cancel "ann" (Site.quietWorld.ids 9) "unknown",
    .place "bob" "c-2" 700, .place "bob" " " 700, .reset (Site.quietWorld.ids 1), .cycle {}]

theorem ledger_balanced_busyDay :
    Unused Site.quietWorld.state.memory ∧ (∀ n, (Site.quietWorld.clock n).IsValid) ∧
      DistinctDraws Site.quietWorld.ids
        (Ledger.enterAll { world := Site.quietWorld } busyDay).world.drawn ∧
      Balanced (Ledger.enterAll { world := Site.quietWorld } busyDay) := by
  have few := (enterAll_passes { world := Site.quietWorld } busyDay).few
  have distinct := distinctDraws_quietWorld (Nat.le_trans few (by decide))
  exact ⟨unused_quietWorld, valid_quietWorld, distinct,
    ledger_balanced busyDay unused_quietWorld valid_quietWorld distinct⟩

end Order

end OutboxRelay

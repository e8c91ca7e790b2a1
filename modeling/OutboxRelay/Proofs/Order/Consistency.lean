import OutboxRelay.Proofs.Order.Service

/-!
# Orders and what is said of them

The table of orders and the outbox belong together. Every row of the table is the row of an order
under that order's identifier. Every message that was added says of an order of the table what
happened to it, and if it says that the order was cancelled, then it is. Orders and messages have
identifiers that were drawn, and no two messages have the same one.

All of this concerns messages as they were added, so that delivery has no part in it. A commit of
the service writes a row and a message about it, which is how both sides stay together.
-/

namespace OutboxRelay

namespace Order

open Outbox (Memory Message Session)
open Rehearsal (Site)

/-! ### Drawn identifiers -/

/-- An identifier that was among the first ones drawn. Whatever was drawn stays drawn, and so the
identifiers that are taken are never more than those counted by the world. -/
def Drawn (ids : Nat → Identifier) (count : Nat) (id : Identifier) : Prop :=
  ∃ n < count, id = ids n

/-- The first identifiers drawn are different from each other. This is all that is ever assumed of
random identifiers, and only of as many as a run really draws. -/
def DistinctDraws (ids : Nat → Identifier) (count : Nat) : Prop :=
  ∀ m < count, ∀ n < count, ids m = ids n → m = n

theorem Drawn.mono {ids : Nat → Identifier} {fewer more : Nat} {id : Identifier}
    (drawn : Drawn ids fewer id) (le : fewer ≤ more) : Drawn ids more id := by
  obtain ⟨n, bound, same⟩ := drawn
  exact ⟨n, Nat.lt_of_lt_of_le bound le, same⟩

theorem DistinctDraws.mono {ids : Nat → Identifier} {fewer more : Nat}
    (distinct : DistinctDraws ids more) (le : fewer ≤ more) : DistinctDraws ids fewer :=
  fun m first n second => distinct m (Nat.lt_of_lt_of_le first le) n (Nat.lt_of_lt_of_le second le)

/-- The identifiers of a quiet world count up. -/
theorem distinctDraws_quietWorld {count : Nat} (bound : count ≤ 2 ^ 128) :
    DistinctDraws Site.quietWorld.ids count := by
  intro m first n second same
  have bits : BitVec.ofNat 128 m = BitVec.ofNat 128 n := congrArg Identifier.bits same
  have numbers : m % 2 ^ 128 = n % 2 ^ 128 := by
    simpa only [BitVec.toNat_ofNat] using congrArg BitVec.toNat bits
  rwa [Nat.mod_eq_of_lt (by omega), Nat.mod_eq_of_lt (by omega)] at numbers

theorem valid_quietWorld (n : Nat) : (Site.quietWorld.clock n).IsValid := by
  have epoch : Instant.IsValid ⟨0, 0⟩ := ⟨by decide, Or.inl (by decide)⟩
  exact epoch

/-- An identifier drawn later is different from all before, so that what is put under it is new. -/
theorem DistinctDraws.ne_of_drawn {ids : Nat → Identifier} {count later more : Nat}
    {id : Identifier} (distinct : DistinctDraws ids more) (drawn : Drawn ids count id)
    (after : count ≤ later) (bound : later < more) : id ≠ ids later := by
  obtain ⟨n, before, rfl⟩ := drawn
  intro same
  have position : n = later := distinct n (by omega) later bound same
  omega

/-! ### Stored orders -/

/-- An order that stands in the table: its row is there under its own identifier, and the row can be
read back as the order. -/
structure Stored (memory : Memory) (order : Order) : Prop where
  row : memory.rows table order.id.toText = some order.toRecord.toJson
  storable : order.toRecord.IsStorable
  settled : order.pending = []

/-- A stored order is found, since its row is decoded as the record that it was written from. -/
theorem Stored.findIn {memory : Memory} {order : Order} (stored : Stored memory order) :
    findIn memory order.id = .ok (some order) := by
  rw [findIn_row stored.row, ofRow_toJson order.id stored.storable,
    clearPending_of_settled stored.settled]
  rfl

/-- Under one identifier stands one order, because there is one row under one key and a row is read
as one order. -/
theorem Stored.unique {memory : Memory} {first second : Order} (stored : Stored memory first)
    (other : Stored memory second) (same : first.id = second.id) : first = second := by
  have found := stored.findIn
  rw [same, other.findIn] at found
  injection found with same
  injection same with same
  exact same.symm

/-- The rows of a memory with one order and one message applied. Only the row of the order changes,
whatever the message is. -/
theorem rows_apply (memory : Memory) (order : Order) (message : Message) (name key : String) :
    (memory.apply (sessionOf order message)).rows name key =
      if name = table ∧ key = order.id.toText then some order.toRecord.toJson
      else memory.rows name key := rfl

/-- Whether an order is stored rests on its row alone, so that it cannot be lost by anything that
leaves this one row in place. -/
theorem stored_congr {before after : Memory} {order : Order}
    (same : after.rows table order.id.toText = before.rows table order.id.toText) :
    Stored after order ↔ Stored before order := by
  constructor
  · intro stored
    exact ⟨same ▸ stored.row, stored.storable, stored.settled⟩
  · intro stored
    exact ⟨same.symm ▸ stored.row, stored.storable, stored.settled⟩

/-- Another order keeps its place when one is written, as different identifiers are written
differently. -/
theorem stored_apply_ne {memory : Memory} {order other : Order} (message : Message)
    (different : other.id ≠ order.id) :
    Stored (memory.apply (sessionOf order message)) other ↔ Stored memory other := by
  apply stored_congr
  rw [rows_apply, if_neg]
  intro both
  exact different (Identifier.toText_injective both.2)

/-- The order that is written is stored, provided that its fields can be kept and no event of it is
left pending. -/
theorem stored_apply_self {memory : Memory} {order : Order} (message : Message)
    (storable : order.toRecord.IsStorable) (settled : order.pending = []) :
    Stored (memory.apply (sessionOf order message)) order := by
  refine ⟨?_, storable, settled⟩
  rw [rows_apply, if_pos ⟨rfl, rfl⟩]

/-! ### Consistency -/

/-- The order that a fact is about, whatever else the fact says. -/
def subject : (kind : Kind) → EventFamily.Fact kind → Identifier
  | .placed, fact => Placed.orderId fact
  | .cancelled, fact => Cancelled.orderId fact

/-- A message that says of a stored order what happened to it. A cancellation is announced only of
an order that is cancelled; that an order was placed stays true of it for good. -/
def Announces (memory : Memory) (message : Message) : Prop :=
  ∃ kind fact order, message = messageOf message.id kind fact ∧ Happens kind fact ∧
    Stored memory order ∧ order.id = subject kind fact ∧
    (kind = .cancelled → order.status = .cancelled)

/-- The table of orders and the outbox belong together. The messages are taken as they were added,
so that delivery changes nothing in what is said here. -/
structure Consistent (ids : Nat → Identifier) (drawn : Nat) (memory : Memory) : Prop where
  keyed : ∀ key row, memory.rows table key = some row →
    ∃ order, Stored memory order ∧ key = order.id.toText
  orders : ∀ order, Stored memory order → Drawn ids drawn order.id
  messages : ∀ message ∈ memory.added, Drawn ids drawn message.id
  distinct : (memory.added.map (·.id)).Nodup
  announced : ∀ message ∈ memory.added, Announces memory message

/-- A memory without orders and messages. -/
structure Unused (memory : Memory) : Prop where
  rows : ∀ key, memory.rows table key = none
  outbox : memory.outbox = []

theorem Unused.added {memory : Memory} (unused : Unused memory) : memory.added = [] := by
  rw [Memory.added, unused.outbox, List.map_nil]

theorem unused_quietWorld : Unused Site.quietWorld.state.memory :=
  ⟨fun _ => rfl, rfl⟩

/-- An unused memory is consistent. -/
theorem Unused.consistent {memory : Memory} (unused : Unused memory) (ids : Nat → Identifier)
    (drawn : Nat) : Consistent ids drawn memory := by
  have none : memory.added = [] := unused.added
  refine ⟨?_, ?_, ?_, ?_, ?_⟩
  · intro key row found
    rw [unused.rows key] at found
    cases found
  · intro order stored
    have found := stored.row
    rw [unused.rows] at found
    cases found
  · rw [none]
    rintro message ⟨⟩
  · rw [none]
    exact List.nodup_nil
  · rw [none]
    rintro message ⟨⟩

/-- An order that is found is stored, and it is stored under the identifier that was looked for: a
row that says otherwise never gets into the table. -/
theorem Consistent.stored_of_findIn {ids : Nat → Identifier} {drawn : Nat} {memory : Memory}
    {id : Identifier} {order : Order} (consistent : Consistent ids drawn memory)
    (found : findIn memory id = .ok (some order)) : Stored memory order ∧ order.id = id := by
  cases standing : memory.rows table id.toText with
  | none =>
    rw [findIn, standing] at found
    cases found
  | some row =>
    obtain ⟨other, stored, key⟩ := consistent.keyed _ _ standing
    have same : id = other.id := Identifier.toText_injective key
    rw [same, stored.findIn] at found
    injection found with found
    injection found with found
    subst found
    exact ⟨stored, same.symm⟩

/-- Consistency concerns only the table of orders and the messages as they were added. Drawing
further identifiers does it no harm. -/
theorem Consistent.congr {ids : Nat → Identifier} {drawn more : Nat} {before after : Memory}
    (consistent : Consistent ids drawn before) (le : drawn ≤ more)
    (rows : after.rows = before.rows) (added : after.added = before.added) :
    Consistent ids more after := by
  have kept (order : Order) : Stored after order ↔ Stored before order := by
    apply stored_congr
    rw [rows]
  refine ⟨?_, ?_, ?_, ?_, ?_⟩
  · intro key row found
    obtain ⟨order, stored, same⟩ := consistent.keyed key row (rows ▸ found)
    exact ⟨order, (kept order).mpr stored, same⟩
  · intro order stored
    exact (consistent.orders order ((kept order).mp stored)).mono le
  · rw [added]
    intro message member
    exact (consistent.messages message member).mono le
  · rw [added]
    exact consistent.distinct
  · rw [added]
    intro message member
    obtain ⟨kind, fact, order, written, happens, stored, about, status⟩ :=
      consistent.announced message member
    exact ⟨kind, fact, order, written, happens, (kept order).mpr stored, about, status⟩

/-- Writing an order together with a message about it keeps both sides together, as long as the
message is new and an order that was cancelled stays so. The last of these is needed for the
messages that there are already: one of them may have announced the cancellation. -/
theorem Consistent.apply {ids : Nat → Identifier} {drawn more : Nat} {memory : Memory}
    {order : Order} {id : Identifier} {kind : Kind} {fact : EventFamily.Fact kind}
    (consistent : Consistent ids drawn memory) (le : drawn ≤ more)
    (storable : order.toRecord.IsStorable) (settled : order.pending = [])
    (orderDrawn : Drawn ids more order.id) (messageDrawn : Drawn ids more id)
    (fresh : ∀ message ∈ memory.added, message.id ≠ id) (happens : Happens kind fact)
    (about : order.id = subject kind fact) (status : kind = .cancelled → order.status = .cancelled)
    (final : ∀ old, Stored memory old → old.id = order.id → old.status = .cancelled →
      order.status = .cancelled) :
    Consistent ids more (memory.apply (sessionOf order (messageOf id kind fact))) := by
  have placed : Stored (memory.apply (sessionOf order (messageOf id kind fact))) order :=
    stored_apply_self _ storable settled
  have kept {other : Order} (different : other.id ≠ order.id) :
      Stored (memory.apply (sessionOf order (messageOf id kind fact))) other ↔
        Stored memory other :=
    stored_apply_ne (messageOf id kind fact) different
  refine ⟨?_, ?_, ?_, ?_, ?_⟩
  · intro key row found
    rw [rows_apply] at found
    by_cases own : key = order.id.toText
    · exact ⟨order, placed, own⟩
    · rw [if_neg fun both => own both.2] at found
      obtain ⟨other, stored, same⟩ := consistent.keyed key row found
      have different : other.id ≠ order.id := fun equal => own (equal ▸ same)
      exact ⟨other, (kept different).mpr stored, same⟩
  · intro other stored
    by_cases same : other.id = order.id
    · exact same ▸ orderDrawn
    · exact (consistent.orders other ((kept same).mp stored)).mono le
  · rw [Memory.added_apply]
    intro message member
    rcases List.mem_append.mp member with old | new
    · exact (consistent.messages message old).mono le
    · rw [List.mem_singleton.mp new]
      exact messageDrawn
  · rw [Memory.added_apply, sessionOf, List.map_append, List.nodup_append]
    refine ⟨consistent.distinct, List.pairwise_singleton _ _, ?_⟩
    intro old member new last
    obtain ⟨message, among, rfl⟩ := List.mem_map.mp member
    rw [List.mem_singleton.mp last]
    exact fresh message among
  · rw [Memory.added_apply]
    intro message member
    rcases List.mem_append.mp member with old | new
    · obtain ⟨oldKind, oldFact, other, written, happened, stored, aboutOther, statusOther⟩ :=
        consistent.announced message old
      by_cases same : other.id = order.id
      · exact ⟨oldKind, oldFact, order, written, happened, placed, same ▸ aboutOther,
          fun cancelled => final other stored same (statusOther cancelled)⟩
      · exact ⟨oldKind, oldFact, other, written, happened, (kept same).mpr stored, aboutOther,
          statusOther⟩
    · rw [List.mem_singleton.mp new]
      exact ⟨kind, fact, order, rfl, happens, placed, about, status⟩

/-! ### Calls of the service -/

/-- A call at rest keeps both sides together: it may have drawn identifiers, but has written
nothing. -/
theorem Consistent.rests {draws : Nat} {before after : World Site}
    (consistent : Consistent before.ids before.drawn before.state.memory)
    (rests : Rests draws before after) : Consistent after.ids after.drawn after.state.memory := by
  rw [rests.ids]
  refine consistent.congr rests.drawn rests.memory.rows ?_
  rw [Memory.added, rests.memory.outbox]
  rfl

/-- Every total that a caller can give is a word of sixty-four bits. -/
theorem admits_toInt (totalCents : Int64) :
    (Text.IntegerBounds.signed 64).admits totalCents.toInt = true := by
  rw [Text.admits_signed_64]
  have low := totalCents.le_toInt
  have high := totalCents.toInt_lt
  omega

theorem storable_placedOrder {world : World Site} (valid : ∀ n, (world.clock n).IsValid)
    (user kept : String) {totalCents : Int}
    (total : (Text.IntegerBounds.signed 64).admits totalCents = true) :
    (placedOrder user kept totalCents world).toRecord.IsStorable := by
  refine ⟨total, ?_, ?_⟩
  · rintro instant ⟨⟩
    exact valid _
  · rintro instant ⟨⟩

theorem storable_cancelledOrder {world : World Site} (valid : ∀ n, (world.clock n).IsValid)
    (user reason : String) {order : Order} (storable : order.toRecord.IsStorable) :
    (cancelledOrder user reason order world).toRecord.IsStorable := by
  refine ⟨storable.total, storable.createdOn, ?_⟩
  rintro instant ⟨⟩
  exact valid _

/-- Placing an order keeps both sides together. The order is stored under an identifier just drawn,
so that it replaces no other one, and its message is drawn behind it. -/
theorem Consistent.placeOrder {world : World Site}
    (consistent : Consistent world.ids world.drawn world.state.memory)
    (valid : ∀ n, (world.clock n).IsValid) (user customerId : String) {totalCents : Int}
    (total : (Text.IntegerBounds.signed 64).admits totalCents = true) :
    let after := (((siteService user).placeOrder customerId totalCents).perform world).2
    DistinctDraws world.ids after.drawn → Consistent after.ids after.drawn after.state.memory := by
  intro after distinct
  rcases placeOrder_cases user customerId totalCents world with
    ⟨error, _, rests⟩ | ⟨kept, _, _, commits⟩
  · exact consistent.rests rests
  · have drawn : after.drawn = world.drawn + 2 := commits.drawn
    rw [commits.ids, commits.memory, drawn]
    rw [drawn] at distinct
    refine consistent.apply (Nat.le_add_right _ 2) (storable_placedOrder valid user kept total) rfl
      ⟨world.drawn, by omega, rfl⟩ ⟨world.drawn + 1, by omega, rfl⟩ ?_ ⟨valid _, total⟩ rfl ?_ ?_
    · intro message member
      exact distinct.ne_of_drawn (consistent.messages message member)
        (Nat.le_succ _) (Nat.lt_succ_self _)
    · intro cancelled
      exact Kind.noConfusion cancelled
    · intro old stored same _
      exact absurd same (distinct.ne_of_drawn (consistent.orders old stored) (Nat.le_refl _)
        (by omega))

/-- Cancelling an order keeps both sides together. The order replaces the one that it was made from,
which stood, and so no message has announced a cancellation before. -/
theorem Consistent.cancelOrder {world : World Site}
    (consistent : Consistent world.ids world.drawn world.state.memory)
    (valid : ∀ n, (world.clock n).IsValid) (user : String) (id : Identifier) (reason : String) :
    let after := (((siteService user).cancelOrder id reason).perform world).2
    DistinctDraws world.ids after.drawn → Consistent after.ids after.drawn after.state.memory := by
  intro after distinct
  rcases cancelOrder_cases user id reason world with
    ⟨error, _, rests⟩ | ⟨order, kept, found, _, _, commits⟩
  · exact consistent.rests rests
  · have drawn : after.drawn = world.drawn + 1 := commits.drawn
    rw [commits.ids, commits.memory, drawn]
    rw [drawn] at distinct
    obtain ⟨stored, _⟩ := consistent.stored_of_findIn found
    refine consistent.apply (Nat.le_succ _)
      (storable_cancelledOrder valid user kept stored.storable) rfl
      ((consistent.orders order stored).mono (Nat.le_succ _))
      ⟨world.drawn, Nat.lt_succ_self _, rfl⟩ ?_ (valid _) rfl (fun _ => rfl) (fun _ _ _ _ => rfl)
    · intro message member
      exact distinct.ne_of_drawn (consistent.messages message member)
        (Nat.le_refl _) (Nat.lt_succ_self _)

end Order

end OutboxRelay

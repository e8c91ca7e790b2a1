import OutboxRelay.Proofs.Contest.Steps
import Mathlib.Data.List.Forall2

/-!
# What a contest comes to

Calls that cancel one order, in any interleaving of their steps. Nothing keeps a call from
committing an order that another call cancelled since it was read: what decides is the read. Every
call that read the order while it stood succeeds, commits a message of its own, and overwrites the
row; every call that read it cancelled is refused. The row is that of the call that committed last.

So the order is cancelled once if no call reads it while another one is between its read and its
end, and may be cancelled any number of times otherwise.
-/

namespace OutboxRelay.Contest

open OutboxRelay.Order (Stored messageOf sessionOf)
open Outbox (Message Session)
open Rehearsal (Site)
open UnitOfWork (clocked)

/-! ### New identifiers -/

/-- Not among the next identifiers that will be drawn, up to a number of them. -/
def New (world : World Site) (draws : Nat) (id : Identifier) : Prop :=
  ∀ n < draws, id ≠ world.ids (world.drawn + n)

/-- The next identifiers are different from each other and from those of the outbox, up to as many
as the run at hand can draw. -/
structure Fresh (world : World Site) (draws : Nat) : Prop where
  distinct : ∀ m < draws, ∀ n < draws,
    world.ids (world.drawn + m) = world.ids (world.drawn + n) → m = n
  unused : ∀ message ∈ world.state.memory.outbox, New world draws message.id

/-- A world in which one identifier more was drawn, at most. -/
structure Draws (before after : World Site) : Prop where
  ids : after.ids = before.ids
  drawn : after.drawn = before.drawn ∨ after.drawn = before.drawn + 1

/-- What is new stays so while fewer identifiers are left to be drawn. -/
theorem New.later {before after : World Site} {draws : Nat} {id : Identifier}
    (new : New before (draws + 1) id) (later : Draws before after) : New after draws id := by
  intro n bound
  rw [later.ids]
  rcases later.drawn with same | more
  · rw [same]
    exact new n (by omega)
  · have position : after.drawn + n = before.drawn + (n + 1) := by omega
    rw [position]
    exact new (n + 1) (by omega)

/-- An identifier that was drawn is not drawn again, so that the message under it meets no other
one. -/
theorem Fresh.new {before after : World Site} {draws : Nat} (fresh : Fresh before (draws + 1))
    (ids : after.ids = before.ids) (drawn : after.drawn = before.drawn + 1) :
    New after draws (before.ids before.drawn) := by
  intro n bound same
  have position : after.drawn + n = before.drawn + (n + 1) := by omega
  rw [ids, position] at same
  have zero := fresh.distinct 0 (Nat.succ_pos _) (n + 1) (by omega) same
  omega

theorem Fresh.later {before after : World Site} {draws : Nat} (fresh : Fresh before (draws + 1))
    (later : Draws before after)
    (unused : ∀ message ∈ after.state.memory.outbox, New after draws message.id) :
    Fresh after draws := by
  refine ⟨?_, unused⟩
  intro m first n second same
  rw [later.ids] at same
  rcases later.drawn with kept | more
  · rw [kept] at same
    exact fresh.distinct m (by omega) n (by omega) same
  · have left : after.drawn + m = before.drawn + (m + 1) := by omega
    have right : after.drawn + n = before.drawn + (n + 1) := by omega
    rw [left, right] at same
    have positions := fresh.distinct (m + 1) (by omega) (n + 1) (by omega) same
    omega

/-! ### How far calls can get -/

/-- What an order is once it was cancelled for a reason. -/
structure CancelledFor (order : Order) (reason : String) (kept : Order) : Prop where
  id : kept.id = order.id
  status : kept.status = .cancelled
  reason : kept.cancelReason = some (Text.trim reason)

/-- A message that says so, of this order and for this reason, at a time that can be written. -/
def Reports (order : Order) (reason : String) (message : Message) : Prop :=
  ∃ time : Instant, time.IsValid ∧ message =
    messageOf message.id .cancelled (⟨order.id, Text.trim reason, time⟩ : Order.Cancelled)

/-- What calls that cancel a standing order work on. A call carries the order as it stood, or what
cancelling that order for the reason of the call makes of it, or it read a cancelled order and ends
by saying so. -/
def Fits (order : Order) (reason : String) : Progress → Prop
  | .waiting => True
  | .loaded read => read = order ∨ read.id = order.id ∧ read.status = .cancelled
  | .changed changed =>
    ∃ now : Instant, now.IsValid ∧ changed = order.cancelledFor (Text.trim reason) now
  | .staged kept session => CancelledFor order reason kept ∧ kept.toRecord.IsStorable ∧
    kept.pending = [] ∧ ∃ message, Reports order reason message ∧ session = sessionOf kept message
  | .ended (.ok kept) => CancelledFor order reason kept
  | .ended (.error error) => error = .alreadyCancelled order.id

/-- The identifier of the message that a call has staged. -/
def Progress.reserved? : Progress → Option Identifier
  | .staged _ session => session.outbox.head?.map (·.id)
  | _ => none

/-- A contest for a standing order, with the calls that succeeded so far in the order of their
commits. This is the invariant of all interleavings: it knows for each call what it works on, for
the table whose row stands in it, and for the outbox which messages the winners have put there. -/
structure Holds (requests : Nat → Request) (order : Order) (outbox : List Message) (draws : Nat)
    (contest : Contest) (winners : List Nat) : Prop where
  calm : Calm contest.world
  valid : ∀ n, (contest.world.clock n).IsValid
  fresh : Fresh contest.world draws
  fits : ∀ caller, Fits order (requests caller).reason (contest.calls caller)
  won : ∀ caller, caller ∈ winners ↔ ∃ kept, contest.calls caller = .ended (.ok kept)
  once : winners.Nodup
  current : ∃ current, Stored contest.world.state.memory current ∧ current.id = order.id ∧
    (winners = [] → current = order) ∧
    ∀ last ∈ winners.getLast?, contest.calls last = .ended (.ok current)
  reported : ∃ messages, contest.world.state.memory.outbox = outbox ++ messages ∧
    List.Forall₂ (fun caller => Reports order (requests caller).reason) winners messages
  reserved : ∀ caller id, (contest.calls caller).reserved? = some id →
    New contest.world draws id ∧ ∀ message ∈ contest.world.state.memory.outbox, message.id ≠ id
  apart : ∀ caller other id, (contest.calls caller).reserved? = some id →
    (contest.calls other).reserved? = some id → caller = other

section

variable {requests : Nat → Request} {order : Order} {outbox : List Message} {draws : Nat}
  {contest : Contest} {winners : List Nat}

/-- The order stands in the store as long as nobody won, and is cancelled from then on. Which call
won last decides what else is in its row. -/
theorem Holds.status (holds : Holds requests order outbox draws contest winners) :
    ∃ current, Order.findIn contest.world.state.memory order.id = .ok (some current) ∧
      current.id = order.id ∧ (winners = [] → current = order) ∧
      (winners ≠ [] → current.status = .cancelled) := by
  obtain ⟨current, stored, id, first, last⟩ := holds.current
  refine ⟨current, id ▸ stored.findIn, id, first, ?_⟩
  intro some
  have final := last _ (List.getLast?_eq_some_getLast some)
  have fits := holds.fits (winners.getLast some)
  rw [final] at fits
  exact fits.status

/-- Every step is one without faults, because a call that works on something of its own meets
nothing that could refuse it. -/
theorem Holds.advances (holds : Holds requests order outbox draws contest winners)
    (settled : order.pending = []) (spoken : ∀ caller, Text.trim (requests caller).reason ≠ "")
    (caller : Nat) :
    Advances (requests caller) order.id contest.world (contest.calls caller)
      ((contest.calls caller).next (requests caller) order.id contest.world).1
      ((contest.calls caller).next (requests caller) order.id contest.world).2 := by
  have fits := holds.fits caller
  refine advances_next holds.calm (spoken caller) ?_ ?_ ?_
  · obtain ⟨current, found, _⟩ := holds.status
    exact ⟨current, found⟩
  · intro changed here
    rw [here] at fits
    obtain ⟨now, _, rfl⟩ := fits
    exact ⟨_, Order.pending_cancelledFor settled _ now⟩
  · intro kept session here
    have reserved := holds.reserved caller
    rw [here] at fits reserved
    obtain ⟨_, _, _, message, _, rfl⟩ := fits
    obtain ⟨_, free⟩ := reserved message.id rfl
    refine List.find?_eq_none.mpr ?_
    intro staged member
    rw [List.mem_singleton.mp member]
    simpa using free

/-! A step of one call leaves the other calls where they are. So each fact about all calls has to be
looked at for the call that moves only. -/

variable {caller : Nat} {progress : Progress} {world : World Site}

/-- A call that moves to what it can work on leaves all others with what they work on. -/
theorem Holds.fits_moveTo (holds : Holds requests order outbox draws contest winners)
    (fits : Fits order (requests caller).reason progress) (other : Nat) :
    Fits order (requests other).reason ((contest.moveTo caller progress world).calls other) := by
  by_cases own : other = caller
  · subst own
    rw [calls_moveTo_self]
    exact fits
  · rw [calls_moveTo_ne own]
    exact holds.fits other

/-- A reserved identifier is not the one that is drawn next, since it was drawn before. -/
theorem Holds.not_next (holds : Holds requests order outbox (draws + 1) contest winners)
    {other : Nat} {id : Identifier} (claims : (contest.calls other).reserved? = some id) :
    id ≠ contest.world.ids contest.world.drawn := by
  obtain ⟨new, _⟩ := holds.reserved other id claims
  exact new 0 (Nat.succ_pos _)

/-- Identifiers stay apart if a call reserves the next one, or none. -/
theorem Holds.apart_moveTo (holds : Holds requests order outbox (draws + 1) contest winners)
    (reserves : ∀ id, progress.reserved? = some id →
      id = contest.world.ids contest.world.drawn) {one two : Nat} {id : Identifier}
    (first : ((contest.moveTo caller progress world).calls one).reserved? = some id)
    (second : ((contest.moveTo caller progress world).calls two).reserved? = some id) :
    one = two := by
  by_cases own : one = caller
  · by_cases same : two = caller
    · exact own.trans same.symm
    · rw [own, calls_moveTo_self] at first
      rw [calls_moveTo_ne same] at second
      exact absurd (reserves id first) (holds.not_next second)
  · rw [calls_moveTo_ne own] at first
    by_cases same : two = caller
    · rw [same, calls_moveTo_self] at second
      exact absurd (reserves id second) (holds.not_next first)
    · rw [calls_moveTo_ne same] at second
      exact holds.apart one two id first second

/-- A call that reserves nothing is none of those that do. -/
theorem reserved_moveTo {other : Nat} {id : Identifier} (vacant : progress.reserved? = none)
    (claims : ((contest.moveTo caller progress world).calls other).reserved? = some id) :
    other ≠ caller ∧ (contest.calls other).reserved? = some id := by
  have different : other ≠ caller := by
    rintro rfl
    rw [calls_moveTo_self, vacant] at claims
    cases claims
  rw [calls_moveTo_ne different] at claims
  exact ⟨different, claims⟩

/-- A step that commits nothing keeps a contest. If it stages a message, that has an identifier of
its own, which no other call has reserved and no message has. -/
theorem Holds.stay (holds : Holds requests order outbox (draws + 1) contest winners)
    (memory : world.state.memory = contest.world.state.memory) (calm : Calm world)
    (clock : world.clock = contest.world.clock) (later : Draws contest.world world)
    (fits : Fits order (requests caller).reason progress)
    (before : ∀ kept, contest.calls caller ≠ .ended (.ok kept))
    (after : ∀ kept, progress ≠ .ended (.ok kept))
    (reserves : ∀ id, progress.reserved? = some id →
      id = contest.world.ids contest.world.drawn ∧ world.drawn = contest.world.drawn + 1) :
    Holds requests order outbox draws (contest.moveTo caller progress world) winners := by
  have unused : ∀ message ∈ world.state.memory.outbox, New world draws message.id := by
    rw [memory]
    intro message member
    exact (holds.fresh.unused message member).later later
  refine ⟨calm, clock ▸ holds.valid, holds.fresh.later later unused, holds.fits_moveTo fits, ?_,
    holds.once, ?_, ?_, ?_, ?_⟩
  · intro other
    rw [holds.won other]
    by_cases own : other = caller
    · subst own
      rw [calls_moveTo_self]
      constructor
      · rintro ⟨kept, done⟩
        exact absurd done (before kept)
      · rintro ⟨kept, done⟩
        exact absurd done (after kept)
    · rw [calls_moveTo_ne own]
  · obtain ⟨current, stored, id, first, last⟩ := holds.current
    refine ⟨current, memory ▸ stored, id, first, ?_⟩
    intro winner final
    have different : winner ≠ caller := by
      rintro rfl
      exact before current (last winner final)
    rw [calls_moveTo_ne different]
    exact last winner final
  · obtain ⟨messages, grown, reports⟩ := holds.reported
    exact ⟨messages, memory ▸ grown, reports⟩
  · intro other id claims
    by_cases own : other = caller
    · subst own
      rw [calls_moveTo_self] at claims
      obtain ⟨rfl, drawn⟩ := reserves id claims
      refine ⟨holds.fresh.new later.ids drawn, ?_⟩
      intro message member
      exact holds.fresh.unused message (memory ▸ member) 0 (Nat.succ_pos _)
    · rw [calls_moveTo_ne own] at claims
      obtain ⟨new, free⟩ := holds.reserved other id claims
      exact ⟨new.later later, memory ▸ free⟩
  · intro one two id first second
    exact holds.apart_moveTo (fun id claims => (reserves id claims).1) first second

/-- A call that commits what it staged wins. Its row replaces whatever row of the order there is,
and its message stands behind those of the winners before it. -/
theorem Holds.win (holds : Holds requests order outbox (draws + 1) contest winners)
    {kept : Order} {session : Session} (here : contest.calls caller = .staged kept session) :
    Holds requests order outbox draws
      (contest.moveTo caller (.ended (.ok kept))
        (Site.withMemory (contest.world.state.memory.apply session) contest.world))
      (winners ++ [caller]) := by
  have fits := holds.fits caller
  have reserved := holds.reserved caller
  rw [here] at fits reserved
  obtain ⟨cancelled, storable, settled, message, reports, rfl⟩ := fits
  obtain ⟨new, free⟩ := reserved message.id rfl
  let world := Site.withMemory (contest.world.state.memory.apply (sessionOf kept message))
    contest.world
  have later : Draws contest.world world := ⟨rfl, Or.inl rfl⟩
  have lost : caller ∉ winners := by
    intro member
    obtain ⟨_, done⟩ := (holds.won caller).mp member
    rw [here] at done
    cases done
  have unused : ∀ one ∈ world.state.memory.outbox, New world draws one.id := by
    intro one member
    rcases List.mem_append.mp member with old | added
    · exact (holds.fresh.unused one old).later later
    · rw [List.mem_singleton.mp added]
      exact new.later later
  refine ⟨⟨holds.calm.begins, holds.calm.adds, holds.calm.commits⟩, holds.valid,
    holds.fresh.later later unused, holds.fits_moveTo cancelled, ?_, ?_, ?_, ?_, ?_, ?_⟩
  · intro other
    rw [List.mem_append, List.mem_singleton]
    by_cases own : other = caller
    · subst own
      rw [calls_moveTo_self]
      constructor
      · intro
        exact ⟨kept, rfl⟩
      · intro
        exact Or.inr rfl
    · rw [calls_moveTo_ne own, ← holds.won other]
      exact or_iff_left own
  · rw [List.nodup_append]
    refine ⟨holds.once, List.pairwise_singleton _ _, ?_⟩
    rintro winner member _ last rfl
    exact lost (List.mem_singleton.mp last ▸ member)
  · refine ⟨kept, Order.stored_apply_self message storable settled, cancelled.id, ?_, ?_⟩
    · intro none
      simp at none
    · intro last final
      rw [List.getLast?_concat, Option.mem_some_iff] at final
      subst final
      exact calls_moveTo_self _ _ _ _
  · obtain ⟨messages, grown, reported⟩ := holds.reported
    refine ⟨messages ++ [message], ?_, List.rel_append reported (.cons reports .nil)⟩
    calc world.state.memory.outbox
        = contest.world.state.memory.outbox ++ [message] := rfl
      _ = outbox ++ (messages ++ [message]) := by rw [grown, List.append_assoc]
  · intro other id claims
    obtain ⟨different, claims⟩ := reserved_moveTo rfl claims
    obtain ⟨unseen, vacant⟩ := holds.reserved other id claims
    refine ⟨unseen.later later, ?_⟩
    intro one member
    rcases List.mem_append.mp member with old | added
    · exact vacant one old
    · rintro rfl
      rw [List.mem_singleton.mp added] at claims
      exact different (holds.apart other caller _ claims (by rw [here]; rfl))
  · intro one two id first second
    obtain ⟨_, first⟩ := reserved_moveTo rfl first
    obtain ⟨_, second⟩ := reserved_moveTo rfl second
    exact holds.apart one two id first second

/-- A contest that could draw more identifiers could draw fewer, so that a step need not draw
one. -/
theorem Holds.fewer (holds : Holds requests order outbox (draws + 1) contest winners) :
    Holds requests order outbox draws contest winners := by
  have same : Draws contest.world contest.world := ⟨rfl, Or.inl rfl⟩
  have unused : ∀ message ∈ contest.world.state.memory.outbox, New contest.world draws message.id :=
    fun message member => (holds.fresh.unused message member).later same
  refine { holds with fresh := holds.fresh.later same unused, reserved := ?_ }
  intro caller id claims
  obtain ⟨new, free⟩ := holds.reserved caller id claims
  exact ⟨new.later same, free⟩

/-- What is staged for an order that was cancelled fits: the order under the stamp of the caller,
and the message of the one event that cancelling raised. -/
theorem fits_staged {request : Request} {world : World Site} {changed kept : Order}
    {event : Order.Event} (storable : order.toRecord.IsStorable) (settled : order.pending = [])
    (valid : ∀ n, (world.clock n).IsValid) (fits : Fits order request.reason (.changed changed))
    (single : changed.pending = [event])
    (stamped : kept = (changed.stamped .modified request.user
      (world.clock world.readings)).clearPending) (id : Identifier) :
    Fits order request.reason
      (.staged kept (sessionOf kept (messageOf id event.kind event.fact))) := by
  obtain ⟨now, shown, rfl⟩ := fits
  rw [Order.pending_cancelledFor settled] at single
  injection single with same _
  subst same stamped
  refine ⟨⟨rfl, rfl, rfl⟩, ⟨storable.total, storable.createdOn, ?_⟩, rfl, _, ⟨now, shown, rfl⟩, rfl⟩
  rintro instant ⟨⟩
  exact valid _

/-- Who joins the winners by a step of a call: a call that commits what it staged. -/
def Progress.joins (caller : Nat) : Progress → List Nat
  | .waiting => []
  | .loaded _ => []
  | .changed _ => []
  | .staged _ _ => [caller]
  | .ended _ => []

/-- A step keeps a contest, and draws one identifier at most. Of its six cases one commits, and all
others leave rows, outbox and winners as they are. -/
theorem Holds.advance (holds : Holds requests order outbox (draws + 1) contest winners)
    (storable : order.toRecord.IsStorable) (settled : order.pending = []) {caller : Nat}
    {previous progress : Progress} {world : World Site} (here : contest.calls caller = previous)
    (advances : Advances (requests caller) order.id contest.world previous progress world) :
    Holds requests order outbox draws (contest.moveTo caller progress world)
      (winners ++ previous.joins caller) := by
  have fits := holds.fits caller
  rw [here] at fits
  cases advances with
  | read found =>
    rw [Progress.joins, List.append_nil]
    refine holds.stay rfl holds.calm rfl ⟨rfl, Or.inl rfl⟩ ?_ ?_ ?_ ?_
    · obtain ⟨current, standing, id, first, later⟩ := holds.status
      rw [found] at standing
      injection standing with same
      injection same with same
      subst same
      by_cases none : winners = []
      · exact Or.inl (first none)
      · exact Or.inr ⟨id, later none⟩
    · rw [here]
      intro _
      exact Progress.noConfusion
    · intro _
      exact Progress.noConfusion
    · rintro id ⟨⟩
  | change standing =>
    rw [Progress.joins, List.append_nil]
    refine holds.stay rfl ⟨holds.calm.begins, holds.calm.adds, holds.calm.commits⟩ rfl
      ⟨rfl, Or.inl rfl⟩ ?_ ?_ ?_ ?_
    · rcases fits with same | ⟨_, ended⟩
      · rw [same]
        exact ⟨_, holds.valid _, rfl⟩
      · rw [standing] at ended
        cases ended
    · rw [here]
      intro _
      exact Progress.noConfusion
    · intro _
      exact Progress.noConfusion
    · rintro id ⟨⟩
  | refuse ended =>
    rw [Progress.joins, List.append_nil]
    refine holds.stay rfl holds.calm rfl ⟨rfl, Or.inl rfl⟩ ?_ ?_ ?_ ?_
    · rcases fits with same | ⟨id, _⟩
      · exact congrArg (fun one : Order => Order.Error.alreadyCancelled one.id) same
      · exact congrArg Order.Error.alreadyCancelled id
    · rw [here]
      intro _
      exact Progress.noConfusion
    · intro kept done
      cases done
    · rintro id ⟨⟩
  | stage single stamped =>
    rw [Progress.joins, List.append_nil]
    refine holds.stay rfl ⟨holds.calm.begins, holds.calm.adds, holds.calm.commits⟩ rfl
      ⟨rfl, Or.inr rfl⟩ ?_ ?_ ?_ ?_
    · exact fits_staged storable settled holds.valid fits single stamped _
    · rw [here]
      intro _
      exact Progress.noConfusion
    · intro _
      exact Progress.noConfusion
    · rintro id claims
      exact ⟨(Option.some.inj claims).symm, rfl⟩
  | commit free => exact holds.win here
  | rest =>
    rw [Progress.joins, List.append_nil, moveTo_self here]
    exact holds.fewer

end

/-! ### Runs -/

/-- How many of its steps a call took; a call that ended has none left. -/
def Progress.rank : Progress → Nat
  | .waiting => 0
  | .loaded _ => 1
  | .changed _ => 2
  | .staged _ _ => 3
  | .ended _ => 4

/-- What a call that read an order can have come to. From the read on its way is laid out: it is
refused if the order was cancelled, and wins otherwise. -/
def Follows (read : Order) : Progress → Prop
  | .waiting => False
  | .loaded order => order = read
  | .changed _ => read.status = .placed
  | .staged _ _ => read.status = .placed
  | .ended (.ok _) => read.status = .placed
  | .ended (.error _) => read.status = .cancelled

/-- A call that read the order and did not end. -/
def Progress.Underway : Progress → Prop
  | .loaded _ => True
  | .changed _ => True
  | .staged _ _ => True
  | _ => False

/-- A call that read the order while it stood, and did not end. -/
def Progress.Pursuing : Progress → Prop
  | .loaded order => order.status = .placed
  | .changed _ => True
  | .staged _ _ => True
  | _ => False

theorem Progress.underway_of_pursuing {progress : Progress} (pursuing : progress.Pursuing) :
    progress.Underway := by
  cases progress with
  | waiting => exact pursuing
  | loaded order => trivial
  | changed order => trivial
  | staged order session => trivial
  | ended answer => exact pursuing

section

variable {request : Request} {id : Identifier} {world after : World Site}
  {previous progress : Progress}

/-- A step brings a call one further, or ends it. -/
theorem Advances.rank (advances : Advances request id world previous progress after) :
    min (previous.rank + 1) 4 ≤ progress.rank := by
  cases advances <;> simp [Progress.rank]

/-- What a call can have come to is kept by its steps, and the steps of others do not concern it. -/
theorem Advances.follows {read : Order}
    (advances : Advances request id world previous progress after)
    (follows : Follows read previous) : Follows read progress := by
  cases advances with
  | read found => exact follows.elim
  | change standing => exact follows ▸ standing
  | refuse ended => exact follows ▸ ended
  | stage single stamped => exact follows
  | commit free => exact follows
  | rest => exact follows

/-- Only a read takes a call under way, and only a read of a standing order sets it on winning. -/
theorem Advances.underway (advances : Advances request id world previous progress after)
    (begun : previous ≠ .waiting) : (progress.Underway → previous.Underway) ∧
      (progress.Pursuing → previous.Pursuing) := by
  cases advances with
  | read found => exact absurd rfl begun
  | change standing => exact ⟨fun _ => trivial, fun _ => standing⟩
  | refuse ended => exact ⟨fun impossible => impossible.elim, fun impossible => impossible.elim⟩
  | stage single stamped => exact ⟨fun _ => trivial, fun _ => trivial⟩
  | commit free => exact ⟨fun impossible => impossible.elim, fun impossible => impossible.elim⟩
  | rest => exact ⟨fun impossible => impossible.elim, fun impossible => impossible.elim⟩

end

/-- Calls one of which is under way at a time, and none once somebody won that could win too. This
is what having reads apart from each other establishes. -/
structure Alone (contest : Contest) (winners : List Nat) : Prop where
  single : winners.length ≤ 1
  underway : ∀ one other, (contest.calls one).Underway → (contest.calls other).Underway →
    one = other
  pursuing : ∀ caller, (contest.calls caller).Pursuing → winners = []

/-- No call reads while another one is under way, at any point of the schedule. -/
def Apart (requests : Nat → Request) (id : Identifier) : Contest → List Nat → Prop
  | _, [] => True
  | contest, caller :: rest =>
    (contest.calls caller = .waiting → ∀ other, ¬(contest.calls other).Underway) ∧
      Apart requests id (step requests id contest caller) rest

/-- The calls that commit what they staged, in the order in which they do. They are read off the run
itself, not off the store. -/
def committers (requests : Nat → Request) (id : Identifier) : Contest → List Nat → List Nat
  | _, [] => []
  | contest, caller :: rest =>
    (contest.calls caller).joins caller ++
      committers requests id (step requests id contest caller) rest

section

variable {requests : Nat → Request} {order : Order} {outbox : List Message} {draws : Nat}
  {contest : Contest} {winners : List Nat} {caller : Nat}

/-- A read while no call is under way keeps calls alone. The reader can win only if nobody did, as
it finds the order cancelled otherwise. -/
theorem Alone.read (alone : Alone contest winners)
    (holds : Holds requests order outbox draws contest winners) {current : Order}
    (found : Order.findIn contest.world.state.memory order.id = .ok (some current))
    (nobody : ∀ other, ¬(contest.calls other).Underway) (world : World Site) :
    Alone (contest.moveTo caller (.loaded current) world) winners := by
  have only (other : Nat)
      (underway : ((contest.moveTo caller (.loaded current) world).calls other).Underway) :
      other = caller := by
    by_contra different
    rw [calls_moveTo_ne different] at underway
    exact nobody other underway
  refine ⟨alone.single, ?_, ?_⟩
  · intro one other first second
    exact (only one first).trans (only other second).symm
  · intro other pursuing
    rw [only other (Progress.underway_of_pursuing pursuing), calls_moveTo_self] at pursuing
    obtain ⟨stored, standing, _, _, ended⟩ := holds.status
    rw [found] at standing
    injection standing with same
    injection same with same
    subst same
    by_contra some
    have impossible : Order.Status.placed = .cancelled := pursuing.symm.trans (ended some)
    cases impossible

/-- A call that moves on after its read keeps calls alone. If it commits, it was the only one under
way, and nobody is left who could win as well. -/
theorem Alone.proceed (alone : Alone contest winners) {previous progress : Progress}
    {world : World Site} (here : contest.calls caller = previous) (begun : previous ≠ .waiting)
    (advances : Advances (requests caller) order.id contest.world previous progress world) :
    Alone (contest.moveTo caller progress world) (winners ++ previous.joins caller) := by
  have before (other : Nat) :
      (((contest.moveTo caller progress world).calls other).Underway →
        (contest.calls other).Underway) ∧
      (((contest.moveTo caller progress world).calls other).Pursuing →
        (contest.calls other).Pursuing) := by
    by_cases own : other = caller
    · rw [own, calls_moveTo_self, here]
      exact advances.underway begun
    · rw [calls_moveTo_ne own]
      exact ⟨id, id⟩
  refine ⟨?_, ?_, ?_⟩
  · cases previous with
    | staged kept session =>
      have none : winners = [] := by
        apply alone.pursuing caller
        rw [here]
        trivial
      rw [none]
      exact Nat.le_refl 1
    | waiting | loaded | changed | ended =>
      rw [Progress.joins, List.append_nil]
      exact alone.single
  · intro one other first second
    apply alone.underway
    · exact (before one).1 first
    · exact (before other).1 second
  · intro other pursuing
    have earlier := (before other).2 pursuing
    have none : winners = [] := alone.pursuing other earlier
    have same (underway : (contest.calls caller).Underway) : other = caller :=
      alone.underway other caller (Progress.underway_of_pursuing earlier) underway
    cases advances with
    | commit =>
      rw [same (here ▸ trivial), calls_moveTo_self] at pursuing
      exact pursuing.elim
    | read | change | refuse | stage | rest =>
      rw [none]
      rfl

/-- A step keeps calls alone, unless it is a read while another call is under way. -/
theorem Alone.advance (alone : Alone contest winners)
    (holds : Holds requests order outbox draws contest winners)
    {previous progress : Progress} {world : World Site} (here : contest.calls caller = previous)
    (advances : Advances (requests caller) order.id contest.world previous progress world)
    (free : previous = .waiting → ∀ other, ¬(contest.calls other).Underway) :
    Alone (contest.moveTo caller progress world) (winners ++ previous.joins caller) := by
  cases previous with
  | waiting =>
    rw [Progress.joins, List.append_nil]
    cases advances with
    | read found => exact alone.read holds found (free rfl) _
  | loaded | changed | staged | ended =>
    exact alone.proceed here Progress.noConfusion advances

/-- The steps of all calls, whoever takes them, keep a contest. Whoever commits joins the
winners. -/
theorem Holds.step (holds : Holds requests order outbox (draws + 1) contest winners)
    (storable : order.toRecord.IsStorable) (settled : order.pending = [])
    (spoken : ∀ caller, Text.trim (requests caller).reason ≠ "") (caller : Nat) :
    Holds requests order outbox draws (step requests order.id contest caller)
      (winners ++ (contest.calls caller).joins caller) :=
  holds.advance storable settled rfl (holds.advances settled spoken caller)

variable (storable : order.toRecord.IsStorable) (settled : order.pending = [])
  (spoken : ∀ caller, Text.trim (requests caller).reason ≠ "")

include storable settled spoken

/-- A run keeps a contest, by induction on the schedule. The winners at its end are the calls that
committed on the way, behind those that had won before. -/
theorem run_holds (schedule : List Nat)
    (holds : Holds requests order outbox (draws + schedule.length) contest winners) :
    Holds requests order outbox draws (run requests order.id contest schedule)
      (winners ++ committers requests order.id contest schedule) := by
  induction schedule generalizing contest winners with
  | nil =>
    rw [committers, List.append_nil]
    exact holds
  | cons caller rest inductionHypothesis =>
    rw [committers, ← List.append_assoc]
    exact inductionHypothesis (holds.step storable settled spoken caller)

/-- A run keeps calls alone that are apart, by induction on the schedule. -/
theorem run_apart (schedule : List Nat)
    (holds : Holds requests order outbox schedule.length contest winners)
    (apart : Apart requests order.id contest schedule) (alone : Alone contest winners) :
    Alone (run requests order.id contest schedule)
      (winners ++ committers requests order.id contest schedule) := by
  induction schedule generalizing contest winners with
  | nil =>
    rw [committers, List.append_nil]
    exact alone
  | cons caller rest inductionHypothesis =>
    obtain ⟨free, later⟩ := apart
    rw [committers, ← List.append_assoc]
    apply inductionHypothesis (holds.step storable settled spoken caller) later
    exact alone.advance holds rfl (holds.advances settled spoken caller) free

/-- A call that read an order comes to what that read decides, however the others step in
between. -/
theorem run_follows {read : Order} (schedule : List Nat)
    (holds : Holds requests order outbox schedule.length contest winners)
    (follows : Follows read (contest.calls caller)) :
    Follows read ((run requests order.id contest schedule).calls caller) := by
  induction schedule generalizing contest winners with
  | nil => exact follows
  | cons other rest inductionHypothesis =>
    apply inductionHypothesis (holds.step storable settled spoken other)
    rw [step, calls_moveTo]
    split
    · next own => exact (holds.advances settled spoken other).follows (own ▸ follows)
    · exact follows

/-- A call comes to what the store held of the order when it read, at whichever point of the
schedule that was. -/
theorem run_reads {before after : List Nat}
    (holds : Holds requests order outbox (before ++ caller :: after).length contest winners)
    (waiting : (run requests order.id contest before).calls caller = .waiting) :
    ∃ current, Order.findIn (run requests order.id contest before).world.state.memory order.id =
        .ok (some current) ∧ (current = order ∨ current.status = .cancelled) ∧
      Follows current
        ((run requests order.id contest (before ++ caller :: after)).calls caller) := by
  have early : Holds requests order outbox ((caller :: after).length + before.length) contest
      winners := by
    rw [Nat.add_comm, ← List.length_append]
    exact holds
  have middle := run_holds storable settled spoken before early
  obtain ⟨current, found, _, first, later⟩ := middle.status
  have loaded : ((run requests order.id contest before).calls caller).next (requests caller)
      order.id (run requests order.id contest before).world =
        (.loaded current, (run requests order.id contest before).world) := by
    rw [waiting, Progress.next, Order.perform_getOrder, found]
    rfl
  have follows : Follows current ((step requests order.id
      (run requests order.id contest before) caller).calls caller) := by
    rw [step, calls_moveTo_self, loaded]
    rfl
  refine ⟨current, found, ?_, ?_⟩
  · by_cases none : winners ++ committers requests order.id contest before = []
    · exact Or.inl (first none)
    · exact Or.inr (later none)
  · rw [run_append]
    exact run_follows storable settled spoken after
      (middle.step storable settled spoken caller) follows

/-- Every step of a call brings it further, until it ends. So a call that is named four times has
ended, whatever the others do. -/
theorem run_rank (caller : Nat) (schedule : List Nat)
    (holds : Holds requests order outbox schedule.length contest winners) :
    min ((contest.calls caller).rank + schedule.count caller) 4 ≤
      ((run requests order.id contest schedule).calls caller).rank := by
  induction schedule generalizing contest winners with
  | nil => exact Nat.min_le_left _ _
  | cons other rest inductionHypothesis =>
    have later := inductionHypothesis (holds.step storable settled spoken other)
    rw [step, calls_moveTo] at later
    refine Nat.le_trans ?_ later
    by_cases own : caller = other
    · have further := (holds.advances settled spoken other).rank
      rw [if_pos own, own, List.count_cons_self]
      omega
    · apply Nat.le_of_eq
      rw [if_neg own, List.count_cons_of_ne (Ne.symm own)]

end

/-! ### Outcome -/

/-- A message that says of an order that it was cancelled for a reason. -/
def Tells (order : Order) (reason : String) (message : Message) : Prop :=
  message.eventType = Order.integrationType .cancelled ∧ ∃ envelope,
    message.envelope? = some envelope ∧ envelope.aggregateId = order.id.toText ∧
    envelope.payload.get? "reason" = some (.text (Text.trim reason))

/-- Such a message is one that a subscriber understands in this way. -/
theorem tells_of_reports {order : Order} {reason : String} {message : Message}
    (reports : Reports order reason message) : Tells order reason message := by
  obtain ⟨time, valid, written⟩ := reports
  rw [written]
  exact ⟨rfl, _, Order.envelope?_messageOf _ valid, rfl, Order.get?_cancelled _⟩

/-- What calls that cancel a standing order come to. -/
structure Decided (requests : Nat → Request) (order : Order) (world : World Site)
    (schedule winners : List Nat) : Prop where
  /-- The winners are the calls that gave the order back. -/
  won : ∀ caller, caller ∈ winners ↔
    ∃ kept, (run requests order.id { world } schedule).calls caller = .ended (.ok kept)
  /-- Every other call that ended was told that the order is cancelled already. -/
  lost : ∀ caller answer, (run requests order.id { world } schedule).calls caller = .ended answer →
    caller ∉ winners → answer = .error (.alreadyCancelled order.id)
  /-- A call that could take four steps ended. -/
  ends : ∀ caller, 4 ≤ schedule.count caller →
    ∃ answer, (run requests order.id { world } schedule).calls caller = .ended answer
  /-- A call that ended won if and only if the order stood in the store when the call read it. -/
  read : ∀ before caller after, schedule = before ++ caller :: after →
    (run requests order.id { world } before).calls caller = .waiting → ∀ answer,
      (run requests order.id { world } schedule).calls caller = .ended answer →
      (caller ∈ winners ↔ Order.findIn (run requests order.id { world } before).world.state.memory
        order.id = .ok (some order))
  /-- Each winner added one message, in the order of commits, and nobody else added any. -/
  once : winners.Nodup
  messages : ∃ messages, (run requests order.id { world } schedule).world.state.memory.outbox =
      world.state.memory.outbox ++ messages ∧
    List.Forall₂ (fun caller => Tells order (requests caller).reason) winners messages
  /-- The order is stored as the last winner left it. -/
  stored : ∃ current, Order.findIn (run requests order.id { world } schedule).world.state.memory
      order.id = .ok (some current) ∧ (winners = [] → current = order) ∧
    ∀ last ∈ winners.getLast?,
      (run requests order.id { world } schedule).calls last = .ended (.ok current) ∧
      current.status = .cancelled ∧
      current.cancelReason = some (Text.trim (requests last).reason)
  /-- One call wins at most, if none reads while another one is under way. -/
  apart : Apart requests order.id { world } schedule → winners.length ≤ 1

/-- Before its first step a contest for a standing order holds: nobody has read anything, and the
order is in the table as it was stored. -/
theorem holds_start (requests : Nat → Request) {order : Order} {world : World Site} {draws : Nat}
    (stored : Stored world.state.memory order) (calm : Calm world)
    (valid : ∀ n, (world.clock n).IsValid) (fresh : Fresh world draws) :
    Holds requests order world.state.memory.outbox draws { world } [] where
  calm := calm
  valid := valid
  fresh := fresh
  fits _ := trivial
  won _ := ⟨fun member => absurd member List.not_mem_nil, fun ⟨_, done⟩ => nomatch done⟩
  once := List.nodup_nil
  current := ⟨order, stored, rfl, fun _ => rfl, fun _ none => nomatch none⟩
  reported := ⟨[], (List.append_nil _).symm, .nil⟩
  reserved _ _ claims := nomatch claims
  apart _ _ _ claims := nomatch claims

section

variable {requests : Nat → Request} {order : Order} {world : World Site} {schedule : List Nat}
  (stored : Stored world.state.memory order) (standing : order.status = .placed)
  (spoken : ∀ caller, Text.trim (requests caller).reason ≠ "")
  (start : Holds requests order world.state.memory.outbox schedule.length { world } [])

include stored spoken start

/-- A contest that held at first holds at the end of a run, with the committers as its winners. -/
theorem holds_end : Holds requests order world.state.memory.outbox 0
    (run requests order.id { world } schedule)
    (committers requests order.id { world } schedule) := by
  rw [← Nat.zero_add schedule.length] at start
  have reached := run_holds stored.storable stored.settled spoken schedule start
  rwa [List.nil_append] at reached

theorem ends_of_holds {caller : Nat} (enough : 4 ≤ schedule.count caller) :
    ∃ answer, (run requests order.id { world } schedule).calls caller = .ended answer := by
  have rank := run_rank stored.storable stored.settled spoken caller schedule start
  cases reached : (run requests order.id { world } schedule).calls caller with
  | ended answer => exact ⟨answer, rfl⟩
  | waiting | loaded | changed | staged =>
    rw [reached] at rank
    simp only [Progress.rank] at rank
    omega

include standing in
/-- A call that ended won if and only if the order stood in the store when the call read it. -/
theorem wins_iff_read {before after : List Nat} {caller : Nat}
    (parts : schedule = before ++ caller :: after)
    (waiting : (run requests order.id { world } before).calls caller = .waiting)
    {answer : Except Order.Error Order}
    (ended : (run requests order.id { world } schedule).calls caller = .ended answer) :
    (∃ kept, answer = .ok kept) ↔ Order.findIn
      (run requests order.id { world } before).world.state.memory order.id = .ok (some order) := by
  subst parts
  obtain ⟨current, found, held, follows⟩ :=
    run_reads stored.storable stored.settled spoken start waiting
  rw [ended] at follows
  rcases held with same | gone
  · subst same
    refine iff_of_true ?_ found
    cases answer with
    | ok kept => exact ⟨kept, rfl⟩
    | error error =>
      have impossible : Order.Status.placed = .cancelled := standing.symm.trans follows
      cases impossible
  · refine iff_of_false ?_ ?_
    · rintro ⟨kept, rfl⟩
      have impossible : Order.Status.placed = .cancelled := follows.symm.trans gone
      cases impossible
    · intro still
      rw [found] at still
      injection still with same
      injection same with same
      have impossible : Order.Status.placed = .cancelled :=
        standing.symm.trans (same ▸ gone)
      cases impossible

include standing in
/-- A run decides a contest that holds. Each part is read off the invariant at the end of the run,
and what concerns reads off the run behind the read. -/
theorem decided_of_holds : Decided requests order world schedule
    (committers requests order.id { world } schedule) := by
  have holds := holds_end stored spoken start
  refine ⟨holds.won, ?_, ?_, ?_, holds.once, ?_, ?_, ?_⟩
  · intro caller answer ended lost
    have fits := holds.fits caller
    rw [ended] at fits
    cases answer with
    | error error => exact congrArg Except.error fits
    | ok kept => exact absurd ((holds.won caller).mpr ⟨kept, ended⟩) lost
  · intro caller enough
    exact ends_of_holds stored spoken start enough
  · intro before caller after parts waiting answer ended
    rw [← wins_iff_read stored standing spoken start parts waiting ended, holds.won caller, ended]
    simp
  · obtain ⟨messages, grown, reported⟩ := holds.reported
    exact ⟨messages, grown, reported.imp fun _ _ => tells_of_reports⟩
  · obtain ⟨current, standing, id, first, final⟩ := holds.current
    have found := standing.findIn
    rw [id] at found
    refine ⟨current, found, first, ?_⟩
    intro last member
    have fits := holds.fits last
    rw [final last member] at fits
    exact ⟨final last member, fits.status, fits.reason⟩
  · intro apart
    have nobody : Alone { world } [] :=
      ⟨Nat.zero_le 1, fun _ _ underway => underway.elim, fun _ _ => rfl⟩
    exact (run_apart stored.storable stored.settled spoken schedule start apart nobody).single

end

/-- Any interleaving of calls that cancel a standing order, for reasons that say something and
without faults, is decided by the reads, and the winners are the calls that commit.

Proof: a contest for a standing order holds before the first step (`holds_start`), and every step of
every call keeps it (`Holds.step`): a step either commits nothing, or makes its call a winner whose
row and message are then in the store. What a call comes to is laid out by its read (`run_reads`),
since the copy that it read is all that it works on. The rest is read off the invariant at the end
(`decided_of_holds`). -/
theorem cancellation_decided (requests : Nat → Request) {order : Order} {world : World Site}
    (schedule : List Nat) (stored : Stored world.state.memory order)
    (standing : order.status = .placed)
    (spoken : ∀ caller, Text.trim (requests caller).reason ≠ "") (calm : Calm world)
    (valid : ∀ n, (world.clock n).IsValid) (fresh : Fresh world schedule.length) :
    Decided requests order world schedule (committers requests order.id { world } schedule) := by
  have start := holds_start requests stored calm valid fresh
  exact decided_of_holds stored standing spoken start

/-! ### Two calls that overlap -/

/-- An order that was placed, with its own event taken off by the commit. -/
def standingOrder : Order := Order.placedOrder "ann" "c-1" 500 Site.quietWorld

/-- The world after that: the order is stored, its message is in the outbox, and two identifiers are
drawn. -/
def contestedWorld : World Site :=
  let fact : Order.Placed := ⟨standingOrder.id, "c-1", 500, ⟨0, 0⟩⟩
  let session := sessionOf standingOrder (messageOf (Site.quietWorld.ids 1) .placed fact)
  { Site.withMemory (Site.quietWorld.state.memory.apply session) Site.quietWorld with drawn := 2 }

/-- Two calls for different reasons, by different users, so that one can tell which of them is
stored. -/
def rivals : Nat → Request
  | 0 => ⟨"ann", "first"⟩
  | _ => ⟨"bob", "second"⟩

theorem stored_standingOrder : Stored contestedWorld.state.memory standingOrder :=
  Order.stored_apply_self _
    (Order.storable_placedOrder Order.valid_quietWorld "ann" "c-1" (by decide)) rfl

theorem spoken_rivals (caller : Nat) : Text.trim (rivals caller).reason ≠ "" := by
  have first : Text.trim "first" ≠ "" := by decide
  have second : Text.trim "second" ≠ "" := by decide
  cases caller with
  | zero => exact first
  | succ _ => exact second

theorem calm_contestedWorld : Calm contestedWorld := ⟨rfl, rfl, rfl⟩

theorem fresh_contestedWorld {draws : Nat} (bound : draws + 2 ≤ 2 ^ 128) :
    Fresh contestedWorld draws := by
  have distinct := Order.distinctDraws_quietWorld bound
  constructor
  · intro m first n second same
    have positions := distinct (2 + m) (by omega) (2 + n) (by omega) same
    omega
  · intro message member n small same
    rw [List.mem_singleton.mp member] at same
    have positions := distinct 1 (by omega) (2 + n) (by omega) same
    omega

/-- Both calls read the order before either of them commits. -/
def overlap : List Nat := [0, 1, 0, 0, 1, 1, 0, 1]

theorem cancellation_decided_overlap :
    Stored contestedWorld.state.memory standingOrder ∧ standingOrder.status = .placed ∧
      (∀ caller, Text.trim (rivals caller).reason ≠ "") ∧ Calm contestedWorld ∧
      (∀ n, (contestedWorld.clock n).IsValid) ∧ Fresh contestedWorld overlap.length ∧
      Decided rivals standingOrder contestedWorld overlap
        (committers rivals standingOrder.id { world := contestedWorld } overlap) :=
  ⟨stored_standingOrder, rfl, spoken_rivals, calm_contestedWorld, Order.valid_quietWorld,
    fresh_contestedWorld (by decide),
    cancellation_decided rivals overlap stored_standingOrder rfl spoken_rivals calm_contestedWorld
      Order.valid_quietWorld (fresh_contestedWorld (by decide))⟩

/-- Two calls that read a standing order before anything else happens both win, once they end.
Neither of them looks at the order again. -/
theorem both_win {requests : Nat → Request} {order : Order} {world : World Site}
    {first second : Nat} {rest winners : List Nat} (stored : Stored world.state.memory order)
    (different : second ≠ first)
    (decided : Decided requests order world (first :: second :: rest) winners)
    (firstEnds : 4 ≤ (first :: second :: rest).count first)
    (secondEnds : 4 ≤ (first :: second :: rest).count second) :
    first ∈ winners ∧ second ∈ winners := by
  constructor
  · obtain ⟨answer, ended⟩ := decided.ends first firstEnds
    exact (decided.read [] first (second :: rest) rfl rfl answer ended).mpr stored.findIn
  · obtain ⟨answer, ended⟩ := decided.ends second secondEnds
    have same : (run requests order.id { world } [first]).world = world :=
      world_step_waiting requests order.id rfl
    have waiting : (run requests order.id { world } [first]).calls second = .waiting :=
      if_neg different
    refine (decided.read [first] second rest rfl waiting answer ended).mpr ?_
    rw [same]
    exact stored.findIn

/-- Both calls give the order back, and the outbox is told twice that it was cancelled. The second
commit overwrites the row of the first, so that only the later reason is left in the table. -/
theorem both_cancel :
    let contest := run rivals standingOrder.id { world := contestedWorld } overlap
    (∃ kept, contest.calls 0 = .ended (.ok kept)) ∧ (∃ kept, contest.calls 1 = .ended (.ok kept)) ∧
      ∃ messages, contest.world.state.memory.outbox =
          contestedWorld.state.memory.outbox ++ messages ∧ 2 ≤ messages.length ∧
        ∀ message ∈ messages, message.eventType = Order.integrationType .cancelled := by
  have start := holds_start rivals stored_standingOrder calm_contestedWorld
    Order.valid_quietWorld (fresh_contestedWorld (by decide) : Fresh _ overlap.length)
  obtain ⟨winners, decided⟩ :
      ∃ winners, Decided rivals standingOrder contestedWorld overlap winners :=
    ⟨_, decided_of_holds stored_standingOrder rfl spoken_rivals start⟩
  obtain ⟨first, second⟩ :=
    both_win stored_standingOrder Nat.one_ne_zero decided (by decide) (by decide)
  obtain ⟨messages, grown, told⟩ := decided.messages
  have both : [0, 1] ⊆ winners := by simp [first, second]
  have two : 2 ≤ winners.length :=
    List.Nodup.length_le_of_subset (by decide : [0, 1].Nodup) both
  have types : List.Forall₂ (fun (message : Message) (_ : Nat) =>
      message.eventType = Order.integrationType .cancelled ∧ True) messages winners :=
    (told.imp fun _ _ tells => ⟨tells.1, trivial⟩).flip
  refine ⟨(decided.won 0).mp first, (decided.won 1).mp second, messages, grown, ?_, ?_⟩
  · rw [← told.length_eq]
    exact two
  · exact ((List.forall₂_and_left messages winners).mp types).1

end OutboxRelay.Contest

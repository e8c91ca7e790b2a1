import OutboxRelay.Proofs.Order.Consistency

/-!
# Calls that cancel the same order

Several calls that cancel one order at the same time. Each of them goes through four steps: it reads
the order, cancels what it read, stages the row and the message in a session of its own, and commits
that session. Between two steps of a call the others can take any of theirs.

The four steps of a call that nobody comes between are the call of the service.
-/

namespace OutboxRelay.Contest

open OutboxRelay.Order (cancelledFor siteService)
open Outbox (Session)
open Rehearsal (Site)

/-- What a call asks for. All calls of a contest are about the same order, so that the order is not
part of it. -/
structure Request where
  user : String
  reason : String

/-- How far a call is, with all that it carries from one step to the next. What it read is a copy,
which the steps of others cannot change. -/
inductive Progress where
  | waiting
  /-- The order was read. -/
  | loaded (order : Order)
  /-- What was read is cancelled, and the event of that is pending. -/
  | changed (order : Order)
  /-- The row and the message of the event are staged. -/
  | staged (order : Order) (session : Session)
  | ended (answer : Except Order.Error Order)

/-- Cancel an order that was read. The clock is read only once the reason was accepted. -/
def change (request : Request) (order : Order) : Effect (World Site) Order.Error Order := do
  let kept ← Order.checked (order.acceptReason request.reason)
  let now ← World.readClock
  return order.cancelledFor kept now

/-- Stage what a commit of the order makes durable, in a session of its own. If staging fails, then
the session is abandoned and the failure given back. -/
def stage (request : Request) (order : Order) :
    Effect (World Site) Outbox.Error (Order × Session) := do
  let work := (siteService request.user).work
  let now ← World.readClock
  let stamped := work.stamp now ⟨.modified, order⟩
  let kept := work.cleared stamped
  let session ← work.store.begin
  let (result, session) ← Effect.ofState fun world =>
    let (result, world, session) :=
      (work.stage [kept] (work.harvested stamped)).perform (world, session)
    ((result, session), world)
  match result with
  | .ok _ => return (kept.entity, session)
  | .error failure =>
    work.store.abandon session
    throw failure

/-- Commit what was staged and give the order back. This is the last of the steps that a call is cut
into. -/
def close (order : Order) (session : Session) : Effect (World Site) Outbox.Error Order := do
  Site.store.commit session
  return order

/-- Go on with what a step gives, or end with its failure. A call that ended takes no further
steps. -/
def Progress.after {α : Type} (go : α → Progress) : Except Order.Error α → Progress
  | .ok value => go value
  | .error error => .ended (.error error)

/-- The next step of a call. The calls share nothing but the world, so that a step of one call is a
function of its own progress and of the world that it finds. -/
def Progress.next (request : Request) (id : Identifier) (world : World Site) :
    Progress → Progress × World Site
  | .waiting =>
    let read := ((siteService request.user).getOrder id).perform world
    (after .loaded read.1, read.2)
  | .loaded order =>
    let changed := (change request order).perform world
    (after .changed changed.1, changed.2)
  | .changed order =>
    let staged := (stage request order).perform world
    (after (fun kept => .staged kept.1 kept.2) (staged.1.mapError .outbox), staged.2)
  | .staged order session =>
    let closed := (close order session).perform world
    (after (fun kept => .ended (.ok kept)) (closed.1.mapError .outbox), closed.2)
  | .ended answer => (.ended answer, world)

end OutboxRelay.Contest

namespace OutboxRelay

open Contest (Progress Request)
open OutboxRelay.Order (siteService)
open Outbox (Session)
open Rehearsal (Site)
open UnitOfWork (clocked)

/-- A world and how far the calls are that cancel an order in it. -/
structure Contest where
  world : World Site
  calls : Nat → Progress := fun _ => .waiting

namespace Contest

/-- The contest with one call at another point, in another world. -/
def moveTo (caller : Nat) (progress : Progress) (world : World Site) (contest : Contest) :
    Contest where
  world
  calls other := if other = caller then progress else contest.calls other

/-- One step of one call. Which call takes the next step is not decided here, so that every
interleaving is a list of callers. -/
def step (requests : Nat → Request) (id : Identifier) (contest : Contest) (caller : Nat) :
    Contest :=
  let next := (contest.calls caller).next (requests caller) id contest.world
  contest.moveTo caller next.1 next.2

/-- Steps in the order in which their callers are named. Every interleaving is such a list, also one
in which a call is named too often or never. -/
def run (requests : Nat → Request) (id : Identifier) (contest : Contest) (schedule : List Nat) :
    Contest :=
  schedule.foldl (step requests id) contest

/-- A run goes on where a shorter run ended. -/
theorem run_append (requests : Nat → Request) (id : Identifier) (contest : Contest)
    (first second : List Nat) : run requests id contest (first ++ second) =
      run requests id (run requests id contest first) second :=
  List.foldl_append

theorem calls_moveTo (caller other : Nat) (progress : Progress) (world : World Site)
    (contest : Contest) : (contest.moveTo caller progress world).calls other =
      if other = caller then progress else contest.calls other := rfl

@[simp] theorem calls_moveTo_self (caller : Nat) (progress : Progress) (world : World Site)
    (contest : Contest) : (contest.moveTo caller progress world).calls caller = progress :=
  if_pos rfl

@[simp] theorem calls_moveTo_ne {caller other : Nat} (different : other ≠ caller)
    (progress : Progress) (world : World Site) (contest : Contest) :
    (contest.moveTo caller progress world).calls other = contest.calls other :=
  if_neg different

/-- Nothing changes if a call stays where it is, as the other calls stay where they are anyway. -/
theorem moveTo_self {contest : Contest} {caller : Nat} {progress : Progress}
    (here : contest.calls caller = progress) :
    contest.moveTo caller progress contest.world = contest := by
  have calls : (fun other => if other = caller then progress else contest.calls other) =
      contest.calls := by
    funext other
    split
    · next own => rw [own, here]
    · rfl
  rw [moveTo, calls]

@[simp] theorem moveTo_moveTo (caller : Nat) (first second : Progress)
    (world other : World Site) (contest : Contest) :
    (contest.moveTo caller first world).moveTo caller second other =
      contest.moveTo caller second other := by
  simp only [moveTo, Contest.mk.injEq, true_and]
  funext one
  split <;> rfl

/-! ### A call by itself -/

section

variable (request : Request) (order : Order) (world : World Site)

/-- The order as its commit writes it, under the stamp of the caller and without its events. -/
def kept : Tracked Order :=
  let work := (siteService request.user).work
  work.cleared (work.stamp (world.clock world.readings) ⟨.modified, order⟩)

/-- The events that its commit hands on, by the unit of work of the service itself. -/
def harvest : List Order.Event :=
  let work := (siteService request.user).work
  work.harvested (work.stamp (world.clock world.readings) ⟨.modified, order⟩)

/-- Staging takes the time of the stamp, opens a session, and writes the order and its message into
it. -/
theorem perform_stage :
    (stage request order).perform world =
      match Site.store.begin.perform (clocked world) with
      | (.error error, reached) => (.error error, reached)
      | (.ok session, reached) =>
        match ((siteService request.user).work.stage [kept request order world]
          (harvest request order world)).perform (reached, session) with
        | (.ok _, reached, session) => (.ok ((kept request order world).entity, session), reached)
        | (.error error, reached, _) => (.error error, reached) := by
  have clocking : (stage request order).perform world = _ :=
    Effect.perform_bind_ok (World.perform_readClock world) _
  rw [clocking]
  rcases opened : Site.store.begin.perform (clocked world) with ⟨error | session, reached⟩
  · exact Effect.perform_bind_error opened _
  · refine (Effect.perform_bind_ok opened _).trans ?_
    rw [Effect.perform_bind, Effect.perform_ofState]
    dsimp only [StateT.run, kept, harvest]
    rcases ((siteService request.user).work.stage _ _).perform (reached, session) with
      ⟨error | rows, after, staged⟩
    · rfl
    · rfl

/-- Saving a cancelled order is staging and then committing it, with nothing in between. -/
theorem perform_save :
    ((siteService request.user).save .modified order).perform world =
      ((stage request order >>= fun kept => close kept.1 kept.2).mapError .outbox).perform
        world := by
  let work := (siteService request.user).work
  let stamped := work.stamp (world.clock world.readings) ⟨.modified, order⟩
  have single : [stamped].flatMap work.harvested = harvest request order world := by
    rw [List.flatMap_singleton]
    rfl
  have committed : StateT.run (work.commit [⟨.modified, order⟩]) world =
      let written := (work.write [kept request order world]
        ([stamped].flatMap work.harvested)).perform (clocked world)
      ((written.1, [kept request order world]), written.2) := rfl
  rw [single] at committed
  rw [Order.Service.save, Effect.perform_bind, Effect.perform_ofState, committed,
    UnitOfWork.write, Effect.perform_mapError, Effect.perform_bind, perform_stage]
  dsimp only
  rcases opened : Site.store.begin.perform (clocked world) with ⟨error | session, reached⟩
  · have failed : (UnitOfWork.inSession work.store (work.stage [kept request order world]
        (harvest request order world))).perform (clocked world) = (.error error, reached) :=
      Effect.perform_bind_error opened _
    rw [failed]
    rfl
  · have running : (UnitOfWork.inSession work.store (work.stage [kept request order world]
        (harvest request order world))).perform (clocked world) = _ :=
      Effect.perform_bind_ok opened _
    rw [running, Effect.perform_bind, Effect.perform_ofState]
    dsimp only [StateT.run]
    rcases (work.stage [kept request order world] (harvest request order world)).perform
      (reached, session) with ⟨error | rows, after, staged⟩
    · rfl
    · have closing : (close (kept request order world).entity staged).perform after = _ :=
        Effect.perform_bind (Site.store.commit staged) _ after
      have committing : work.store.commit staged = Site.store.commit staged := rfl
      dsimp only
      rw [Effect.perform_bind, committing, closing]
      rcases (Site.store.commit staged).perform after with ⟨error | _, closed⟩
      · rfl
      · rfl

theorem cancelOrder_eq (id : Identifier) :
    (siteService request.user).cancelOrder id request.reason =
      ((siteService request.user).getOrder id >>= fun order =>
        change request order >>= (siteService request.user).save .modified) := by
  simp only [Order.Service.cancelOrder, change, bind_assoc, pure_bind]

end

section

variable (requests : Nat → Request) (id : Identifier)

/-- A read leaves the world as it is, and so it can be moved in front of anything that others do. -/
theorem world_step_waiting {contest : Contest} {caller : Nat}
    (idle : contest.calls caller = .waiting) :
    (step requests id contest caller).world = contest.world := by
  have read : ((contest.calls caller).next (requests caller) id contest.world).2 =
      contest.world := by
    rw [idle, Progress.next, Order.perform_getOrder]
  exact read

/-- A step of the call that was moved last. -/
theorem step_moveTo (caller : Nat) (progress : Progress) (world : World Site) (contest : Contest) :
    step requests id (contest.moveTo caller progress world) caller =
      contest.moveTo caller (progress.next (requests caller) id world).1
        (progress.next (requests caller) id world).2 := by
  rw [step, calls_moveTo_self, moveTo_moveTo]
  rfl

/-- The steps of a call that nobody comes between are the call of the service. So taking the call
apart adds interleavings, and changes nothing about the call itself. -/
theorem run_alone {contest : Contest} {caller : Nat} (idle : contest.calls caller = .waiting) :
    let request := requests caller
    let done := ((siteService request.user).cancelOrder id request.reason).perform contest.world
    run requests id contest [caller, caller, caller, caller] =
      contest.moveTo caller (.ended done.1) done.2 := by
  intro request done
  have first : step requests id contest caller =
      contest.moveTo caller (Progress.next request id contest.world .waiting).1
        (Progress.next request id contest.world .waiting).2 := by
    rw [step, idle]
  have steps : run requests id contest [caller, caller, caller, caller] =
      step requests id (step requests id (step requests id (contest.moveTo caller
        (Progress.next request id contest.world .waiting).1
        (Progress.next request id contest.world .waiting).2) caller) caller) caller := by
    rw [← first]
    rfl
  have performed : done = _ := congrArg (·.perform contest.world) (cancelOrder_eq request id)
  rw [steps, step_moveTo, step_moveTo, step_moveTo, performed]
  rw [Effect.perform_bind]
  dsimp only [Progress.next]
  rcases ((siteService request.user).getOrder id).perform contest.world with
    ⟨error | order, reached⟩
  · rfl
  dsimp only [Progress.after, Progress.next]
  rw [Effect.perform_bind]
  rcases (change request order).perform reached with ⟨error | changed, reached⟩
  · rfl
  dsimp only [Progress.after, Progress.next]
  rw [perform_save, Effect.perform_mapError, Effect.perform_bind]
  rcases (stage request changed).perform reached with ⟨error | kept, reached⟩
  · rfl
  dsimp only [Progress.after, Progress.next, Except.mapError]
  rcases (close kept.1 kept.2).perform reached with ⟨error | kept, reached⟩
  · rfl
  · rfl

end

/-! ### Steps without faults -/

/-- No fault is planned that a call could meet. Only then do reads alone decide what calls come
to. -/
structure Calm (world : World Site) : Prop where
  begins : world.state.faults .begin = 0
  adds : world.state.faults .add = 0
  commits : world.state.memory.failNextCommit = false

/-- What a step of a call is if no fault comes between: how far it gets and which world it leaves.
This is the inversion of a step that all later arguments use. -/
inductive Advances (request : Request) (id : Identifier) (world : World Site) :
    Progress → Progress → World Site → Prop where
  | read {order : Order} (found : Order.findIn world.state.memory id = .ok (some order)) :
    Advances request id world .waiting (.loaded order) world
  | change {order : Order} (standing : order.status = .placed) :
    Advances request id world (.loaded order)
      (.changed (order.cancelledFor (Text.trim request.reason) (world.clock world.readings)))
      (clocked world)
  | refuse {order : Order} (ended : order.status = .cancelled) :
    Advances request id world (.loaded order) (.ended (.error (.alreadyCancelled order.id))) world
  | stage {order kept : Order} {event : Order.Event} (single : order.pending = [event])
    (stamped : kept = (order.stamped .modified request.user
      (world.clock world.readings)).clearPending) :
    Advances request id world (.changed order)
      (.staged kept (Order.sessionOf kept
        (Order.messageOf (world.ids world.drawn) event.kind event.fact)))
      { clocked world with drawn := world.drawn + 1 }
  | commit {order : Order} {session : Session}
    (free : world.state.memory.clash? session = none) :
    Advances request id world (.staged order session) (.ended (.ok order))
      (Site.withMemory (world.state.memory.apply session) world)
  | rest {answer : Except Order.Error Order} :
    Advances request id world (.ended answer) (.ended answer) world

/-- A reason that says something is accepted for an order that stands, without the blanks around
it. -/
theorem acceptReason_standing {order : Order} {reason : String} (standing : order.status = .placed)
    (spoken : Text.trim reason ≠ "") : order.acceptReason reason = .ok (Text.trim reason) := by
  have open_ : order.status ≠ .cancelled := by
    rw [standing]
    exact Order.Status.noConfusion
  have nonempty : (Text.trim reason).isEmpty = false := by simpa using spoken
  simp [Order.acceptReason, open_, nonempty]

section

variable {request : Request} {order : Order} {world : World Site}

theorem perform_change_standing (standing : order.status = .placed)
    (spoken : Text.trim request.reason ≠ "") :
    (change request order).perform world =
      (.ok (order.cancelledFor (Text.trim request.reason) (world.clock world.readings)),
        clocked world) := by
  have accepted : (Order.checked (order.acceptReason request.reason)).perform world =
      (.ok (Text.trim request.reason), world) := by
    rw [Order.perform_checked, acceptReason_standing standing spoken]
  exact Effect.perform_bind_ok accepted _

theorem perform_change_cancelled (ended : order.status = .cancelled) :
    (change request order).perform world = (.error (.alreadyCancelled order.id), world) := by
  have refused : (Order.checked (order.acceptReason request.reason)).perform world =
      (.error (.alreadyCancelled order.id), world) := by
    rw [Order.perform_checked, Order.acceptReason, if_pos ended]
  exact Effect.perform_bind_error refused _

/-- Without faults what is staged is the row of the order and the message of its one event, under
the next identifier. -/
theorem perform_stage_calm (calm : Calm world) {event : Order.Event}
    (single : order.pending = [event]) :
    let kept := (order.stamped .modified request.user (world.clock world.readings)).clearPending
    (stage request order).perform world =
      (.ok (kept, Order.sessionOf kept
          (Order.messageOf (world.ids world.drawn) event.kind event.fact)),
        { clocked world with drawn := world.drawn + 1 }) := by
  intro entity
  have events : harvest request order world = [event] := single
  have staging := Order.perform_stage request.user .modified entity event (clocked world)
  have adds : (clocked world).state.faults .add = 0 := calm.adds
  dsimp only at staging
  rw [if_pos adds] at staging
  have body : ((siteService request.user).work.stage [kept request order world]
      (harvest request order world)).perform (clocked world, {}) = _ := events ▸ staging
  have opened : Site.store.begin.perform (clocked world) = (.ok {}, clocked world) :=
    Site.perform_begin_ready calm.begins
  have staged := perform_stage request order world
  rw [opened] at staged
  dsimp only at staged
  rw [body] at staged
  exact staged

/-- Without faults a session whose messages are new to the store is committed. What became of the
order since it was read makes no difference to that. -/
theorem perform_close_calm (calm : Calm world) {session : Session}
    (free : world.state.memory.clash? session = none) :
    (close order session).perform world =
      (.ok order, Site.withMemory (world.state.memory.apply session) world) := by
  have accepted : (Site.store.commit session).perform world =
      (.ok (), Site.withMemory (world.state.memory.apply session) world) := by
    rw [Site.perform_commit, Outbox.Memory.commit, calm.commits, free]
    rfl
  exact Effect.perform_bind_ok accepted _

end

/-- Without faults every step is one of these, if what it works on is as the steps before leave it.
The cases are the points at which a call can be. -/
theorem advances_next {request : Request} {id : Identifier} {world : World Site}
    {progress : Progress} (calm : Calm world) (spoken : Text.trim request.reason ≠ "")
    (found : ∃ order, Order.findIn world.state.memory id = .ok (some order))
    (pending : ∀ order, progress = .changed order → ∃ event, order.pending = [event])
    (free : ∀ order session, progress = .staged order session →
      world.state.memory.clash? session = none) :
    Advances request id world progress (progress.next request id world).1
      (progress.next request id world).2 := by
  cases progress with
  | waiting =>
    obtain ⟨order, found⟩ := found
    rw [Progress.next, Order.perform_getOrder, found]
    exact .read found
  | loaded order =>
    cases status : order.status with
    | placed =>
      rw [Progress.next, perform_change_standing status spoken]
      exact .change status
    | cancelled =>
      rw [Progress.next, perform_change_cancelled status]
      exact .refuse status
  | changed order =>
    obtain ⟨event, single⟩ := pending order rfl
    rw [Progress.next, perform_stage_calm calm single]
    exact .stage single rfl
  | staged order session =>
    have unseen := free order session rfl
    rw [Progress.next, perform_close_calm calm unseen]
    exact .commit unseen
  | ended answer => exact .rest

end Contest

end OutboxRelay

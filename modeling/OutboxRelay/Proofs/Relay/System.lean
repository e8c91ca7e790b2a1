import OutboxRelay.Proofs.Delivery.Steps
import OutboxRelay.Proofs.Order.Consistency

/-!
# The service and its processors

One site that a service of orders and any number of processors work on. A call of the service is one
move. A cycle of a processor is many: a move for the poll, then for every message one for the
attempt and one for the record of its answer. Between two moves of a cycle everything else can
happen, other processors included, and at any time switches can be set that make later calls fail.

Taken one after the other, the moves of a cycle are the cycle itself.
-/

namespace OutboxRelay.Relay

open Delivery (Config)
open OutboxRelay.Order (siteService)
open Outbox (Pending)
open Rehearsal (Faults Site)

/-- How far a processor is in its cycle. A processor attempts its messages one after the other, and
records the answer to each attempt before it goes on to the next message. -/
inductive Stage where
  /-- The messages that are still to be attempted, none between two cycles. -/
  | delivering (queue : List Pending)
  /-- A message was attempted, and its answer is still to be recorded. -/
  | recording (message : Pending) (answer : Except Broker.Error Unit) (queue : List Pending)

/-- The messages that a processor holds, as copies made when it fetched them. A message stays held
until the answer to its attempt is recorded. -/
def Stage.held : Stage → List Pending
  | .delivering queue => queue
  | .recording message _ queue => message :: queue

/-- A world and how far the processors on it are. At first no processor holds anything, so that each
of them can begin a cycle. -/
structure System where
  world : World Site
  stages : Nat → Stage := fun _ => .delivering []

/-- One thing that happens. A call of the service is a single move; a cycle is taken apart into its
steps, since its processor works from copies that others can overtake in the meantime. -/
inductive Move where
  | place (user customerId : String) (totalCents : Int64)
  | cancel (user : String) (id : Identifier) (reason : String)
  /-- A processor begins a cycle with a poll. -/
  | fetch (processor : Nat)
  /-- A processor attempts its next message. -/
  | publish (processor : Nat)
  /-- A processor records the answer to its attempt. -/
  | record (processor : Nat)
  | reset (id : Identifier)
  /-- The switches that make calls of the store and attempts fail are set anew. -/
  | disturb (faults : Faults) (failNextCommit failNextFetch : Bool) (refused : List String)
    (unavailable : Bool)

namespace System

/-- The system with one processor at another stage. -/
def moveTo (processor : Nat) (stage : Stage) (system : System) : System :=
  { system with stages := fun other => if other = processor then stage else system.stages other }

theorem stages_moveTo (processor other : Nat) (stage : Stage) (system : System) :
    (system.moveTo processor stage).stages other =
      if other = processor then stage else system.stages other := rfl

/-- Moving a processor again forgets where it was moved before. -/
theorem moveTo_moveTo (processor : Nat) (first second : Stage) (system : System) :
    (system.moveTo processor first).moveTo processor second =
      system.moveTo processor second := by
  simp only [moveTo, System.mk.injEq, true_and]
  funext other
  split <;> rfl

end System

/-- What a poll gives to its cycle: nothing, if it fails. -/
def polled : Except Outbox.Error (List Pending) → List Pending
  | .ok messages => messages
  | .error _ => []

/-- What one move does. A move of a processor that is not at that point of its cycle does nothing,
so that every list of moves is a run and no list has to be excluded as ill-formed. -/
def step (configs : Nat → Config) (system : System) : Move → System
  | .place user customerId totalCents =>
    let effect := (siteService user).placeOrder customerId totalCents.toInt
    { system with world := (effect.perform system.world).2 }
  | .cancel user id reason =>
    let effect := (siteService user).cancelOrder id reason
    { system with world := (effect.perform system.world).2 }
  | .fetch p =>
    match system.stages p with
    | .delivering [] =>
      let config := configs p
      let (answer, world) :=
        (Site.store.getRetryable config.batchSize config.maxRetries).perform system.world
      System.moveTo p (.delivering (polled answer)) { system with world }
    | _ => system
  | .publish p =>
    match system.stages p with
    | .delivering (message :: queue) =>
      let (answer, world) := ((Site.processor (configs p)).attempt message).run system.world
      System.moveTo p (.recording message answer queue) { system with world }
    | _ => system
  | .record p =>
    match system.stages p with
    | .recording message answer queue =>
      let effect := (Site.processor (configs p)).record message answer
      System.moveTo p (.delivering queue)
        { system with world := (effect.perform system.world).2 }
    | _ => system
  | .reset id => { system with world := ((Site.store.resetRetries id).perform system.world).2 }
  | .disturb faults failNextCommit failNextFetch refused unavailable =>
    { system with
      world := Site.disturbed faults failNextCommit failNextFetch refused unavailable system.world }

/-- What moves do one after the other. A run is given by its moves alone: what the bus answers is
decided by the switches of the site, which moves set as well. -/
def run (configs : Nat → Config) (system : System) (moves : List Move) : System :=
  moves.foldl (step configs) system

/-- A run goes on where a shorter run ended, so that what holds at the end of every run holds at
every moment of a longer one. -/
theorem run_append (configs : Nat → Config) (system : System) (first second : List Move) :
    run configs system (first ++ second) = run configs (run configs system first) second :=
  List.foldl_append

section

variable {configs : Nat → Config} {system : System} {p : Nat}

theorem step_place (user customerId : String) (totalCents : Int64) :
    step configs system (.place user customerId totalCents) =
      { system with
        world := (((siteService user).placeOrder customerId totalCents.toInt).perform
          system.world).2 } := by
  simp only [step]

theorem step_cancel (user : String) (id : Identifier) (reason : String) :
    step configs system (.cancel user id reason) =
      { system with
        world := (((siteService user).cancelOrder id reason).perform system.world).2 } := by
  simp only [step]

theorem step_fetch (idle : system.stages p = .delivering []) :
    step configs system (.fetch p) =
      let polling := (Site.store.getRetryable (configs p).batchSize (configs p).maxRetries).perform
        system.world
      System.moveTo p (.delivering (polled polling.1)) { system with world := polling.2 } := by
  simp only [step, idle]

theorem step_publish {message : Pending} {queue : List Pending}
    (due : system.stages p = .delivering (message :: queue)) :
    step configs system (.publish p) =
      let attempted := ((Site.processor (configs p)).attempt message).run system.world
      System.moveTo p (.recording message attempted.1 queue)
        { system with world := attempted.2 } := by
  simp only [step, due]
  rfl

theorem step_record {message : Pending} {answer : Except Broker.Error Unit} {queue : List Pending}
    (answered : system.stages p = .recording message answer queue) :
    step configs system (.record p) =
      System.moveTo p (.delivering queue)
        { system with
          world := (((Site.processor (configs p)).record message answer).perform
            system.world).2 } := by
  simp only [step, answered]

/-! A move of a processor is one of its cycle, or nothing happens. -/

/-- Either a poll is due, or the move of a processor that is busy leaves the system as it is. -/
theorem step_fetch_cases (configs : Nat → Config) (system : System) (p : Nat) :
    system.stages p = .delivering [] ∨ step configs system (.fetch p) = system := by
  unfold step
  dsimp only
  split
  · next idle => exact Or.inl idle
  · exact Or.inr rfl

/-- Either an attempt is due, or the move leaves the system as it is. -/
theorem step_publish_cases (configs : Nat → Config) (system : System) (p : Nat) :
    (∃ message queue, system.stages p = .delivering (message :: queue)) ∨
      step configs system (.publish p) = system := by
  unfold step
  dsimp only
  split
  · next message queue due => exact Or.inl ⟨message, queue, due⟩
  · exact Or.inr rfl

/-- Either an answer is waiting to be recorded, or the move leaves the system as it is. -/
theorem step_record_cases (configs : Nat → Config) (system : System) (p : Nat) :
    (∃ message answer queue, system.stages p = .recording message answer queue) ∨
      step configs system (.record p) = system := by
  unfold step
  dsimp only
  split
  · next message answer queue answered => exact Or.inl ⟨message, answer, queue, answered⟩
  · exact Or.inr rfl

end

/-! ### Cycles without interruption -/

/-- The moves that treat a number of messages: for each of them an attempt and the record of its
answer, before the next message has its turn. -/
def treatments (processor : Nat) : Nat → List Move
  | 0 => []
  | count + 1 => .publish processor :: .record processor :: treatments processor count

/-- The moves of a cycle that polls a number of messages. The number has to be that of the poll for
the cycle to come to its end. -/
def cycle (processor count : Nat) : List Move :=
  .fetch processor :: treatments processor count

/-- The treatment of a queue without interruption is that of the processor, whatever the queue and
the world. The induction is on the queue; the moves of one message are one round of the processor's
loop, which leaves the rest of the queue for the rounds to come. -/
theorem run_treatments (configs : Nat → Config) (p : Nat) (queue : List Pending)
    (report : Delivery.Report) (system : System) :
    run configs (system.moveTo p (.delivering queue)) (treatments p queue.length) =
      System.moveTo p (.delivering [])
        { system with
          world :=
            (((Site.processor (configs p)).processAll queue report).run system.world).2 } := by
  induction queue generalizing report system with
  | nil => rfl
  | cons message queue inductionHypothesis =>
    let attempted := ((Site.processor (configs p)).attempt message).run system.world
    let recorded :=
      (((Site.processor (configs p)).record message attempted.1).perform attempted.2).2
    have due : (system.moveTo p (.delivering (message :: queue))).stages p =
        .delivering (message :: queue) := if_pos rfl
    have published : step configs (system.moveTo p (.delivering (message :: queue))) (.publish p) =
        System.moveTo p (.recording message attempted.1 queue)
          { system with world := attempted.2 } :=
      (step_publish due).trans (System.moveTo_moveTo p _ _ { system with world := attempted.2 })
    have answered : (System.moveTo p (.recording message attempted.1 queue)
        { system with world := attempted.2 }).stages p = .recording message attempted.1 queue :=
      if_pos rfl
    have settled : step configs (System.moveTo p (.recording message attempted.1 queue)
          { system with world := attempted.2 }) (.record p) =
        System.moveTo p (.delivering queue) { system with world := recorded } :=
      (step_record answered).trans (System.moveTo_moveTo p _ _ { system with world := recorded })
    have processed : (((Site.processor (configs p)).process message).run system.world).2 =
        recorded := Delivery.state_process (configs p) message system.world
    calc run configs (system.moveTo p (.delivering (message :: queue)))
          (treatments p (message :: queue).length)
        = run configs (System.moveTo p (.delivering queue) { system with world := recorded })
            (treatments p queue.length) := by
          rw [← settled, ← published]
          rfl
      _ = _ := by
          rw [inductionHypothesis, ← processed]
          rfl

/-- A cycle without interruption is that of the processor: the moves leave the world that the
processor leaves, and the processor ready for another cycle. So taking cycles apart into moves adds
interleavings, and takes none of the cycles themselves away. -/
theorem run_cycle (configs : Nat → Config) (p : Nat) (system : System)
    (idle : system.stages p = .delivering []) :
    let config := configs p
    let fetched := polled
      ((Site.store.getRetryable config.batchSize config.maxRetries).perform system.world).1
    run configs system (cycle p fetched.length) =
      { system with world := ((Site.processor config).processBatch.perform system.world).2 } := by
  intro config fetched
  have same : System.moveTo p (.delivering []) system = system := by
    have stages : (fun other => if other = p then .delivering [] else system.stages other) =
        system.stages := by
      funext other
      split
      · next own => rw [own, idle]
      · rfl
    rw [System.moveTo, stages]
  have fetching : run configs system (cycle p fetched.length) = _ :=
    congrArg (run configs · (treatments p fetched.length)) (step_fetch idle)
  rcases performed : (Site.store.getRetryable config.batchSize config.maxRetries).perform
      system.world with ⟨error | messages, world⟩
  · have nothing : fetched = [] := congrArg (fun result => polled result.1) performed
    have batch :
        (Site.processor config).processBatch.perform system.world = (.error error, world) :=
      Effect.perform_bind_error performed _
    rw [fetching, performed, batch, nothing]
    exact congrArg (fun system : System => { system with world }) same
  · have all : fetched = messages := congrArg (fun result => polled result.1) performed
    have batch : (Site.processor config).processBatch.perform system.world = _ :=
      Effect.perform_bind_ok performed _
    rw [fetching, performed, batch, all]
    refine (run_treatments configs p messages { fetched := messages.length }
      { system with world }).trans ?_
    let processed := (((Site.processor config).processAll messages
      { fetched := messages.length }).run world).2
    exact congrArg (fun idle : System => { idle with world := processed }) same

end OutboxRelay.Relay

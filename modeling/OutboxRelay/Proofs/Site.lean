import OutboxRelay.Proofs.Effect
import OutboxRelay.Rehearsal.Site

/-!
# Calls on a site

What each call of the store of a site does, as one equation for each call. A planned fault strikes
before the store is reached: the call then fails and changes nothing but the plan. A call that goes
through is one step of the store in memory, and everything else on the site stays as it was.
-/

namespace OutboxRelay.Rehearsal.Site

open Outbox (Memory Message Session)

/-- A world with a site on which nothing happened yet. -/
def quietWorld : World Site where
  ids n := ⟨BitVec.ofNat 128 n⟩
  clock _ := ⟨0, 0⟩
  state := { bus := { subject := "events" } }

/-- The world with the switches of its site set anew. -/
def disturbed (faults : Faults) (failNextCommit failNextFetch : Bool) (refused : List String)
    (unavailable : Bool) (world : World Site) : World Site :=
  world.withState
    { world.state with
      faults
      memory := { world.state.memory with failNextCommit, failNextFetch }
      bus := { world.state.bus with refused, unavailable } }

/-- The world after a planned fault of an operation struck. -/
def struck (operation : Operation) (world : World Site) : World Site :=
  world.withState (world.state.setFaults
    (world.state.faults.plan operation (world.state.faults operation - 1)))

/-- The world with another memory in its site. -/
def withMemory (memory : Memory) (world : World Site) : World Site :=
  world.withState (world.state.setMemory memory)

/-- How a planned fault of an operation is reported. -/
def injected (operation : Operation) : Outbox.Error :=
  .store s!"injected {operation.name} failure"

@[simp] theorem memory_struck (operation : Operation) (world : World Site) :
    (struck operation world).state.memory = world.state.memory := rfl

@[simp] theorem bus_struck (operation : Operation) (world : World Site) :
    (struck operation world).state.bus = world.state.bus := rfl

@[simp] theorem memory_withMemory (memory : Memory) (world : World Site) :
    (withMemory memory world).state.memory = memory := rfl

@[simp] theorem bus_withMemory (memory : Memory) (world : World Site) :
    (withMemory memory world).state.bus = world.state.bus := rfl

/-- One call of the plan: without a planned fault nothing happens. A planned fault is used up by the
call that it strikes. -/
theorem perform_strike (operation : Operation) (world : World Site) :
    (World.onState (Effect.onPart (·.faults) setFaults (.ofPair (Faults.strike operation))) :
        Effect (World Site) Outbox.Error Unit).perform world =
      if world.state.faults operation = 0 then (.ok (), world)
      else (.error (injected operation), struck operation world) := by
  simp only [World.perform_onState, Effect.perform_onPart, Effect.perform_ofPair, Faults.strike]
  cases planned : world.state.faults operation with
  | zero => rfl
  | succ times =>
    simp only [struck, planned, Nat.add_sub_cancel]
    rw [if_neg (Nat.succ_ne_zero times)]
    rfl

theorem perform_begin (world : World Site) :
    store.begin.perform world =
      if world.state.faults .begin = 0 then (.ok {}, world)
      else (.error (injected .begin), struck .begin world) := by
  refine (Effect.perform_bind _ _ world).trans ?_
  rw [perform_strike]
  by_cases ready : world.state.faults .begin = 0
  · rw [if_pos ready, if_pos ready]
    rfl
  · rw [if_neg ready, if_neg ready]

/-- Without a planned fault the session is empty, and opening it changes nothing. -/
theorem perform_begin_ready {world : World Site} (ready : world.state.faults .begin = 0) :
    store.begin.perform world = (.ok {}, world) := by
  rw [perform_begin, if_pos ready]

theorem perform_add (message : Message) (world : World Site) (session : Session) :
    (store.add message).perform (world, session) =
      if world.state.faults .add = 0 then (.ok (), world, session.add message)
      else (.error (injected .add), struck .add world, session) := by
  refine (Effect.perform_bind _ _ (world, session)).trans ?_
  rw [World.perform_outside, perform_strike]
  by_cases ready : world.state.faults .add = 0
  · rw [if_pos ready, if_pos ready]
    rfl
  · rw [if_neg ready, if_neg ready]

theorem perform_commit (session : Session) (world : World Site) :
    (store.commit session).perform world =
      ((world.state.memory.commit session).1,
        withMemory (world.state.memory.commit session).2 world) := rfl

theorem perform_abandon (session : Session) (world : World Site) :
    (store.abandon session).perform world = (.ok (), world) := rfl

theorem perform_getRetryable (limit ceiling : Int) (world : World Site) :
    (store.getRetryable limit ceiling).perform world =
      ((world.state.memory.getRetryable limit ceiling).1,
        withMemory (world.state.memory.getRetryable limit ceiling).2 world) := rfl

/-- A mark as processed reads the clock before it looks for the message. -/
theorem perform_markAsProcessed (id : Identifier) (world : World Site) :
    (store.markAsProcessed id).perform world =
      if world.state.faults .markAsProcessed = 0 then
        let marked := world.state.memory.markAsProcessed id (world.clock world.readings)
        (marked.1, { withMemory marked.2 world with readings := world.readings + 1 })
      else (.error (injected .markAsProcessed), struck .markAsProcessed world) := by
  refine (Effect.perform_bind _ _ world).trans ?_
  rw [perform_strike]
  by_cases ready : world.state.faults .markAsProcessed = 0
  · rw [if_pos ready, if_pos ready]
    rfl
  · rw [if_neg ready, if_neg ready]

theorem perform_markAsFailed (id : Identifier) (error : String) (retryCount : Int)
    (world : World Site) :
    (store.markAsFailed id error retryCount).perform world =
      if world.state.faults .markAsFailed = 0 then
        let marked := world.state.memory.markAsFailed id error retryCount
        (marked.1, withMemory marked.2 world)
      else (.error (injected .markAsFailed), struck .markAsFailed world) := by
  refine (Effect.perform_bind _ _ world).trans ?_
  rw [perform_strike]
  by_cases ready : world.state.faults .markAsFailed = 0
  · rw [if_pos ready, if_pos ready]
    rfl
  · rw [if_neg ready, if_neg ready]

theorem perform_resetRetries (id : Identifier) (world : World Site) :
    (store.resetRetries id).perform world =
      ((world.state.memory.resetRetries id).1,
        withMemory (world.state.memory.resetRetries id).2 world) := rfl

/-! ### What passes -/

/-- What leaves alone the identifiers and readings to come, and draws no more than some identifiers.
How many are drawn is bounded and not fixed, because a failure draws fewer. -/
structure Passes (draws : Nat) (before after : World Site) : Prop where
  ids : after.ids = before.ids
  clock : after.clock = before.clock
  drawn : before.drawn ≤ after.drawn
  few : after.drawn ≤ before.drawn + draws

/-- A change of the site alone draws nothing. -/
theorem passes_withState (draws : Nat) (world : World Site) (site : Site) :
    Passes draws world (world.withState site) :=
  ⟨rfl, rfl, Nat.le_refl _, Nat.le_add_right _ _⟩

theorem passes_refl (draws : Nat) (world : World Site) : Passes draws world world :=
  passes_withState draws world world.state

theorem Passes.trans {first second : Nat} {before middle after : World Site}
    (passes : Passes first before middle) (further : Passes second middle after) :
    Passes (first + second) before after where
  ids := further.ids.trans passes.ids
  clock := further.clock.trans passes.clock
  drawn := Nat.le_trans passes.drawn further.drawn
  few := by
    have one := passes.few
    have other := further.few
    omega

end OutboxRelay.Rehearsal.Site

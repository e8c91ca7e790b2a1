import OutboxRelay.Effect
import OutboxRelay.Identifier
import OutboxRelay.Instant.Basic

/-!
# The surroundings of a computation

What a computation meets outside itself: the identifiers that will be drawn, the readings that the
clock will give, and the state of the parts it works on. Identifiers and readings are given in
advance, so that two runs can be compared that draw and read the same.
-/

namespace OutboxRelay

/-- The surroundings of a computation on states `σ`. -/
structure World (σ : Type) where
  /-- The identifiers, in the order in which they will be drawn. -/
  ids : Nat → Identifier
  /-- How many of them were drawn. -/
  drawn : Nat := 0
  /-- The readings of the clock, in the order in which it will be read. -/
  clock : Nat → Instant
  /-- How often it was read. -/
  readings : Nat := 0
  state : σ

namespace World

variable {σ ε α : Type}

/-- Draw the next identifier. -/
def drawId : Effect (World σ) ε Identifier :=
  .ofState fun world => (world.ids world.drawn, { world with drawn := world.drawn + 1 })

/-- Read the clock. -/
def readClock : Effect (World σ) ε Instant :=
  .ofState fun world => (world.clock world.readings, { world with readings := world.readings + 1 })

/-- Run a computation on the state alone. -/
def onState (effect : Effect σ ε α) : Effect (World σ) ε α :=
  effect.onPart (·.state) fun state world => { world with state }

/-- The same surroundings with another state. -/
def withState {τ : Type} (state : τ) (world : World σ) : World τ :=
  ⟨world.ids, world.drawn, world.clock, world.readings, state⟩

/-- Run a computation of a smaller world on one part of the state. -/
def onPart {τ : Type} (part : τ → σ) (replace : σ → τ → τ) (effect : Effect (World σ) ε α) :
    Effect (World τ) ε α :=
  Effect.onPart (fun whole => whole.withState (part whole.state))
    (fun small whole => small.withState (replace small.state whole.state)) effect

/-- Run a computation of the world within a session. -/
def outside {S : Type} (effect : Effect (World σ) ε α) : Effect (World σ × S) ε α :=
  effect.onPart (·.1) fun world pair => (world, pair.2)

end World

end OutboxRelay

/-!
# Effects

Computations that change a state and may fail. A failure keeps the changes made before it: whoever
catches it sees the state as the failing step left it, and must discard what should not stay.
-/

namespace OutboxRelay

/-- A computation on states `σ` that gives an `α` or fails with an `ε`. -/
abbrev Effect (σ ε α : Type) : Type := ExceptT ε (StateM σ) α

namespace Effect

variable {σ τ ε ε' α : Type}

/-- The outcome and the new state of a computation. -/
def perform (effect : Effect σ ε α) (state : σ) : Except ε α × σ :=
  StateT.run (ExceptT.run effect) state

/-- A computation given by its outcome and new state. -/
def ofPair (step : σ → Except ε α × σ) : Effect σ ε α :=
  ExceptT.mk step

/-- A computation that cannot fail. -/
def ofState (step : StateM σ α) : Effect σ ε α :=
  ExceptT.lift step

/-- The outcome as a value, so that a failure does not end the surrounding computation. -/
def outcome (effect : Effect σ ε α) : StateM σ (Except ε α) :=
  ExceptT.run effect

/-- Rename the failures of a computation. -/
def mapError (rename : ε → ε') (effect : Effect σ ε α) : Effect σ ε' α :=
  ofPair fun state =>
    let (result, state) := effect.perform state
    (result.mapError rename, state)

/-- Run a computation on one part of a larger state. -/
def onPart (part : τ → σ) (replace : σ → τ → τ) (effect : Effect σ ε α) : Effect τ ε α :=
  ofPair fun whole =>
    let (result, changed) := effect.perform (part whole)
    (result, replace changed whole)

end Effect

end OutboxRelay

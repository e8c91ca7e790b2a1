import OutboxRelay.Outbox.Store

/-!
# Planned faults

Faults that are told in advance. Each of four operations of a store has a count of calls that are
still to fail. Such a call fails before it reaches the store, so that it changes nothing but its
count; once the count is used up, calls go through again.
-/

namespace OutboxRelay.Rehearsal

open Outbox (Store)

/-- The operations that can be told to fail. -/
inductive Operation where
  | begin
  | add
  | markAsProcessed
  | markAsFailed
deriving DecidableEq, Repr

/-- The name of an operation. -/
def Operation.name : Operation → String
  | begin => "begin"
  | add => "add"
  | markAsProcessed => "mark_as_processed"
  | markAsFailed => "mark_as_failed"

/-- The operation of a name. -/
def Operation.ofName? (name : String) : Option Operation :=
  [begin, add, markAsProcessed, markAsFailed].find? (·.name == name)

/-- How many of the next calls of each operation fail. -/
abbrev Faults : Type := Operation → Nat

namespace Faults

/-- No call fails. -/
def none : Faults := fun _ => 0

/-- Let the next calls of an operation fail. -/
def plan (operation : Operation) (times : Nat) (faults : Faults) : Faults :=
  fun other => if other = operation then times else faults other

/-- One call: it fails if the count says so, and the count goes down. -/
def strike (operation : Operation) (faults : Faults) : Except Outbox.Error Unit × Faults :=
  match faults operation with
  | 0 => (.ok (), faults)
  | times + 1 =>
    (.error (.store s!"injected {operation.name} failure"), faults.plan operation times)

/-- A call fails exactly as often as was planned. -/
theorem strike_ok_iff (operation : Operation) (faults : Faults) :
    (faults.strike operation).1 = .ok () ↔ faults operation = 0 := by
  unfold strike
  split <;> simp_all

end Faults

variable {σ S : Type}

/-- The store behind faults that are a part of the state. -/
def guarded (part : σ → Faults) (replace : Faults → σ → σ) (store : Store σ S) : Store σ S :=
  let strike (operation : Operation) : Effect (World σ) Outbox.Error Unit :=
    World.onState (Effect.onPart part replace (.ofPair (Faults.strike operation)))
  { store with
    begin := do
      strike .begin
      store.begin
    add := fun message => do
      World.outside (strike .add)
      store.add message
    markAsProcessed := fun id => do
      strike .markAsProcessed
      store.markAsProcessed id
    markAsFailed := fun id error retryCount => do
      strike .markAsFailed
      store.markAsFailed id error retryCount }

end OutboxRelay.Rehearsal

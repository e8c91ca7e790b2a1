import OutboxRelay.DomainEvent
import OutboxRelay.Outbox.Store

/-!
# Dispatch of domain events

Fan-out of domain events to handlers. Events are handed on in order, each to the handlers of its
kind in the order of registration, and all handlers work in the session of the business write. The
first failure ends the dispatch; what earlier handlers staged is left to whoever owns the session.
-/

namespace OutboxRelay

open Outbox (InSession)

/-- A handler of the facts of one kind. It works in the session of the business write and may stage
messages there. -/
abbrev Handler {κ : Type} [EventFamily κ] (σ S : Type) (kind : κ) : Type :=
  EventFamily.Fact kind → InSession σ S Unit

/-- The handlers of every kind of event, in the order of registration. A kind may have none. -/
structure Dispatcher (κ σ S : Type) [EventFamily κ] where
  handlers : (kind : κ) → List (Handler σ S kind)

namespace Dispatcher

variable {κ σ S : Type} [EventFamily κ]

/-- No handler for any kind. -/
def empty : Dispatcher κ σ S := ⟨fun _ => []⟩

/-- Put a handler behind those of its kind. The same handler may be registered more than once. -/
def register [DecidableEq κ] (kind : κ) (handler : Handler σ S kind)
    (dispatcher : Dispatcher κ σ S) : Dispatcher κ σ S :=
  ⟨fun other =>
    if same : other = kind then dispatcher.handlers other ++ [same ▸ handler]
    else dispatcher.handlers other⟩

/-- How many handlers a kind has. -/
def handlerCount (kind : κ) (dispatcher : Dispatcher κ σ S) : Nat :=
  (dispatcher.handlers kind).length

/-- Hand one event to the handlers of its kind. An event that nobody handles is no failure. -/
def dispatchOne (dispatcher : Dispatcher κ σ S) (event : DomainEvent κ) : InSession σ S Unit :=
  (dispatcher.handlers event.kind).forM fun handle => handle event.fact

/-- Hand on events in order. A failure ends the dispatch, and no later event reaches any handler. -/
def dispatch (dispatcher : Dispatcher κ σ S) (events : List (DomainEvent κ)) :
    InSession σ S Unit :=
  events.forM dispatcher.dispatchOne

/-- A registered handler comes last among those of its kind. -/
theorem handlers_register_self [DecidableEq κ] (kind : κ) (handler : Handler σ S kind)
    (dispatcher : Dispatcher κ σ S) :
    (dispatcher.register kind handler).handlers kind = dispatcher.handlers kind ++ [handler] := by
  simp [register]

/-- Registering for one kind leaves the others alone. -/
theorem handlers_register_ne [DecidableEq κ] {kind other : κ} (handler : Handler σ S kind)
    (dispatcher : Dispatcher κ σ S) (different : other ≠ kind) :
    (dispatcher.register kind handler).handlers other = dispatcher.handlers other := by
  simp [register, different]

end Dispatcher

end OutboxRelay

import Mathlib.Data.List.Induction
import OutboxRelay.Dispatcher
import OutboxRelay.Proofs.Effect

/-!
# Registrations of handlers

What registrations make of a dispatcher. They may come in any order of kinds; what counts in the end
is, for each kind, the order in which its own handlers were registered.

Handlers can also be kept without the types of their facts: under every kind a list of handlers that
take events of all kinds, look at the kind first, and let an event of another kind pass in silence.
Under a kind stand only handlers that were registered for it, so that no event is ever let pass, and
such a registry hands on events just as a dispatcher does.
-/

namespace OutboxRelay.Dispatcher

open Outbox (InSession)

/-- A handler, registered for the facts of a kind. The kind is part of the registration, so that
handlers of different kinds can stand in one list. -/
structure Registration (κ σ S : Type) [EventFamily κ] where
  kind : κ
  handler : Handler σ S kind

variable {κ σ S : Type} [EventFamily κ] [DecidableEq κ]

/-- The dispatcher that registrations build one after the other, beginning without any handler. -/
def registered (registrations : List (Registration κ σ S)) : Dispatcher κ σ S :=
  registrations.foldl (fun dispatcher made => dispatcher.register made.kind made.handler) empty

/-- The handler of a registration that is for a kind. -/
def Registration.handler? (kind : κ) (made : Registration κ σ S) : Option (Handler σ S kind) :=
  if same : made.kind = kind then some (same ▸ made.handler) else none

/-- The handlers that were registered for a kind, in the order of their registration. This is said
of the list of registrations alone, without any dispatcher. -/
def handlersOf (registrations : List (Registration κ σ S)) (kind : κ) : List (Handler σ S kind) :=
  registrations.filterMap (·.handler? kind)

/-- A registration stands behind the earlier ones of its kind, and is none of any other kind. -/
theorem handlersOf_concat (registrations : List (Registration κ σ S)) (made : Registration κ σ S)
    (kind : κ) :
    handlersOf (registrations ++ [made]) kind =
      handlersOf registrations kind ++ (made.handler? kind).toList := by
  rw [handlersOf, List.filterMap_append, ← handlersOf]
  cases found : made.handler? kind <;> simp [found]

/-- A dispatcher hands events of a kind to the handlers that were registered for it, in this order,
however the registrations of different kinds were mixed. -/
theorem handlers_registered (registrations : List (Registration κ σ S)) (kind : κ) :
    (registered registrations).handlers kind = handlersOf registrations kind := by
  induction registrations using List.reverseRecOn with
  | nil => rfl
  | append_singleton registrations made inductionHypothesis =>
    have built : registered (registrations ++ [made]) =
        (registered registrations).register made.kind made.handler := by
      simp [registered]
    rw [built, handlersOf_concat, ← inductionHypothesis]
    by_cases same : made.kind = kind
    · subst same
      rw [handlers_register_self]
      simp [Registration.handler?]
    · rw [handlers_register_ne _ _ (Ne.symm same)]
      simp [Registration.handler?, same]

/-! ### Handlers without types -/

/-- A handler that takes events of every kind. Whether it does anything with one is up to the
handler. -/
abbrev ErasedHandler (κ σ S : Type) [EventFamily κ] : Type :=
  DomainEvent κ → InSession σ S Unit

/-- A handler without the type of its facts. It lets events of other kinds pass, without saying
so. -/
def erase (kind : κ) (handler : Handler σ S kind) : ErasedHandler κ σ S := fun event =>
  if same : event.kind = kind then handler (same ▸ event.fact) else pure ()

/-- Handlers without types under their kinds. Kinds that nothing was registered for are missing,
which is different from an entry without handlers only to the registry itself. -/
structure Registry (κ σ S : Type) [EventFamily κ] where
  entries : κ → Option (List (ErasedHandler κ σ S))

namespace Registry

/-- A registry without any entry, as an application begins with. -/
def empty : Registry κ σ S := ⟨fun _ => none⟩

/-- Put a handler behind those of its kind; the first one makes the entry. -/
def register (kind : κ) (handler : Handler σ S kind) (registry : Registry κ σ S) : Registry κ σ S :=
  ⟨fun other =>
    if other = kind then some ((registry.entries kind).getD [] ++ [erase kind handler])
    else registry.entries other⟩

/-- Hand on events in order, those with an entry to all handlers in it. -/
def dispatch (registry : Registry κ σ S) (events : List (DomainEvent κ)) : InSession σ S Unit :=
  events.forM fun event =>
    match registry.entries event.kind with
    | none => pure ()
    | some handlers => handlers.forM fun handle => handle event

/-- The registry that registrations build one after the other. -/
def registered (registrations : List (Registration κ σ S)) : Registry κ σ S :=
  registrations.foldl (fun registry made => registry.register made.kind made.handler) empty

/-- Under a kind stand the handlers that were registered for it, in order, each without its type. -/
theorem entries_registered (registrations : List (Registration κ σ S)) (kind : κ) :
    ((registered registrations).entries kind).getD [] =
      (handlersOf registrations kind).map (erase kind) := by
  induction registrations using List.reverseRecOn with
  | nil => rfl
  | append_singleton registrations made inductionHypothesis =>
    have built : registered (registrations ++ [made]) =
        (registered registrations).register made.kind made.handler := by
      simp [registered]
    rw [built, handlersOf_concat, List.map_append, ← inductionHypothesis]
    by_cases same : made.kind = kind
    · subst same
      simp [register, Registration.handler?]
    · simp [register, Registration.handler?, same, Ne.symm same]

/-- A handler meets events of its own kind only, and takes them. So its silence towards other kinds
is never heard. -/
theorem erase_apply (event : DomainEvent κ) (handler : Handler σ S event.kind) :
    erase event.kind handler event = handler event.fact :=
  dif_pos rfl

/-- A registry hands on events just as a dispatcher does. A missing entry and a kind without
handlers come to the same, and the handlers of an entry all take the event. -/
theorem dispatch_registered (registrations : List (Registration κ σ S))
    (events : List (DomainEvent κ)) :
    (registered registrations).dispatch events =
      (Dispatcher.registered registrations).dispatch events := by
  have one (event : DomainEvent κ) :
      (match (registered registrations).entries event.kind with
        | none => pure ()
        | some handlers => handlers.forM fun handle => handle event) =
      (Dispatcher.registered registrations).dispatchOne event := by
    have under : (match (registered registrations).entries event.kind with
        | none => pure ()
        | some handlers => handlers.forM fun handle => handle event : InSession σ S Unit) =
        (((registered registrations).entries event.kind).getD []).forM
          fun handle => handle event := by
      cases (registered registrations).entries event.kind <;> rfl
    rw [under, entries_registered, dispatchOne, handlers_registered, List.forM_eq_forM,
      List.forM_map]
    simp only [erase_apply]
    rfl
  rw [dispatch, Dispatcher.dispatch, funext one]

end Registry

end OutboxRelay.Dispatcher

import OutboxRelay.Proofs.Dispatch.Registrations

/-!
# Invocations of handlers

Which handlers a dispatch invokes, one after the other. The agenda of a dispatch takes the events in
order and, for each of them, the handlers of its kind in the order of registration. The dispatch
works through this agenda from the front and stops at the first failure, whatever the handlers do.

Invocations are observed by watching the handlers: a watched handler does what the plain one does
and notes beside the session for which event it was invoked, what it found and what it left.
Handlers are watched as they are registered, so that it is the dispatch itself that leaves the
trace.
-/

namespace OutboxRelay.Dispatcher

open Outbox (InSession)

variable {κ σ S : Type} [EventFamily κ]

/-- A handler to be invoked for an event. The handler takes facts of exactly the kind of the
event. -/
structure Call (κ σ S : Type) [EventFamily κ] where
  event : DomainEvent κ
  handler : Handler σ S event.kind

/-- Invoke a handler. -/
def Call.invoke (call : Call κ σ S) : InSession σ S Unit :=
  call.handler call.event.fact

/-- What was noted of an invocation: everything that there is to know of it, what the handler found
and left included. -/
structure Invocation (κ σ S : Type) [EventFamily κ] where
  call : Call κ σ S
  /-- The world and the session as the handler found them. -/
  found : World σ × S
  result : Except Outbox.Error Unit
  /-- The world and the session as the handler left them. -/
  left : World σ × S

/-- A handler that notes its invocations beside the session. It works on the session as the plain
handler does, and the note is made whether it succeeds or fails. -/
def watch (kind : κ) (handler : Handler σ S kind) : Handler σ (S × List (Invocation κ σ S)) kind :=
  fun fact => .ofPair fun (world, session, noted) =>
    let (result, reached, left) := (handler fact).perform (world, session)
    (result, reached, left,
      noted ++ [⟨⟨⟨kind, fact⟩, handler⟩, (world, session), result, (reached, left)⟩])

/-- The same registration of a watched handler, in sessions that carry a list of invocations. -/
def Registration.watched (made : Registration κ σ S) :
    Registration κ σ (S × List (Invocation κ σ S)) where
  kind := made.kind
  handler := watch made.kind made.handler

/-- The same call of a watched handler. -/
def Call.watched (call : Call κ σ S) : Call κ σ (S × List (Invocation κ σ S)) where
  event := call.event
  handler := watch call.event.kind call.handler

/-! ### Working through calls -/

/-- How calls are worked through from some state: what is noted, and how it ends. A call that passes
hands its world and its session on to the next one, and one that fails is the last. -/
inductive Proceeds :
    List (Call κ σ S) → World σ × S → List (Invocation κ σ S) →
      Except Outbox.Error Unit × World σ × S → Prop
  | done {found : World σ × S} : Proceeds [] found [] (.ok (), found)
  | passed {call : Call κ σ S} {calls : List (Call κ σ S)} {found left : World σ × S}
      {noted : List (Invocation κ σ S)} {final : Except Outbox.Error Unit × World σ × S}
      (performed : call.invoke.perform found = (.ok (), left))
      (later : Proceeds calls left noted final) :
      Proceeds (call :: calls) found (⟨call, found, .ok (), left⟩ :: noted) final
  | failed {call : Call κ σ S} {calls : List (Call κ σ S)} {found left : World σ × S}
      {error : Outbox.Error} (performed : call.invoke.perform found = (.error error, left)) :
      Proceeds (call :: calls) found [⟨call, found, .error error, left⟩] (.error error, left)

section

variable {calls : List (Call κ σ S)} {found : World σ × S} {noted : List (Invocation κ σ S)}
  {final : Except Outbox.Error Unit × World σ × S}

/-- Calls of watched handlers do what calls of the plain ones do, and note how that proceeds, behind
whatever was noted earlier. The induction is on the calls. -/
theorem proceeds_watched (calls : List (Call κ σ S)) (world : World σ) (session : S)
    (earlier : List (Invocation κ σ S)) :
    ∃ noted,
      Proceeds calls (world, session) noted ((calls.forM Call.invoke).perform (world, session)) ∧
      ((calls.map Call.watched).forM Call.invoke).perform (world, session, earlier) =
        (((calls.forM Call.invoke).perform (world, session)).1,
          ((calls.forM Call.invoke).perform (world, session)).2.1,
          ((calls.forM Call.invoke).perform (world, session)).2.2, earlier ++ noted) := by
  induction calls generalizing world session earlier with
  | nil => exact ⟨[], .done, by simp⟩
  | cons call calls inductionHypothesis =>
    have watched : call.watched.invoke.perform (world, session, earlier) =
        ((call.invoke.perform (world, session)).1, (call.invoke.perform (world, session)).2.1,
          (call.invoke.perform (world, session)).2.2,
          earlier ++ [⟨call, (world, session), (call.invoke.perform (world, session)).1,
            (call.invoke.perform (world, session)).2⟩]) := rfl
    rw [List.map_cons, List.forM_eq_forM, List.forM_cons, List.forM_eq_forM, List.forM_cons]
    rcases performed : call.invoke.perform (world, session) with ⟨error | ⟨⟩, reached, left⟩
    · rw [performed] at watched
      rw [Effect.perform_bind_error performed, Effect.perform_bind_error watched]
      exact ⟨_, .failed performed, rfl⟩
    · rw [performed] at watched
      obtain ⟨noted, proceeds, same⟩ := inductionHypothesis reached left
        (earlier ++ [⟨call, (world, session), .ok (), (reached, left)⟩])
      rw [Effect.perform_bind_ok performed, Effect.perform_bind_ok watched]
      refine ⟨_, .passed performed proceeds, ?_⟩
      rw [List.forM_eq_forM] at same
      rw [same, List.append_assoc]
      rfl

/-- The calls that were made are the first ones, in their order and without gaps. -/
theorem Proceeds.calls_isPrefix (proceeds : Proceeds calls found noted final) :
    noted.map (·.call) <+: calls := by
  induction proceeds with
  | done => exact List.prefix_refl _
  | passed _ _ inductionHypothesis => exact (List.prefix_cons_inj _).mpr inductionHypothesis
  | failed _ => exact (List.prefix_cons_inj _).mpr (List.nil_prefix)

/-- What was noted is what the handlers did: performed on what it found, each gives the noted result
and leaves what was noted. -/
theorem Proceeds.performed (proceeds : Proceeds calls found noted final) :
    ∀ made ∈ noted, made.call.invoke.perform made.found = (made.result, made.left) := by
  induction proceeds with
  | done => simp
  | passed performed _ inductionHypothesis =>
    rintro made (_ | ⟨_, later⟩)
    · exact performed
    · exact inductionHypothesis made later
  | failed performed =>
    rintro made (_ | ⟨_, ⟨⟩⟩)
    exact performed

/-- Every handler finds what its predecessor left. The two lists are those of what was found and
what was left, one place apart. -/
theorem Proceeds.linked (proceeds : Proceeds calls found noted final) :
    noted.map (·.found) ++ [final.2] = found :: noted.map (·.left) := by
  induction proceeds with
  | done => rfl
  | passed _ _ inductionHypothesis => simpa using inductionHypothesis
  | failed _ => rfl

/-- The first failure is the last call, and if there is none, all calls were made. -/
theorem Proceeds.ending (proceeds : Proceeds calls found noted final) :
    (final.1 = .ok () ∧ noted.map (·.call) = calls ∧ ∀ made ∈ noted, made.result = .ok ()) ∨
      ∃ passed last error, noted = passed ++ [last] ∧ (∀ made ∈ passed, made.result = .ok ()) ∧
        last.result = .error error ∧ final.1 = .error error := by
  induction proceeds with
  | done => exact .inl ⟨rfl, rfl, by simp⟩
  | @passed call _ found left _ _ _ _ inductionHypothesis =>
    rcases inductionHypothesis with
      ⟨succeeded, all, fine⟩ | ⟨passed, last, error, rfl, fine, failed⟩
    · left
      refine ⟨succeeded, congrArg (call :: ·) all, ?_⟩
      rintro made (_ | ⟨_, later⟩)
      · rfl
      · exact fine made later
    · right
      refine ⟨⟨call, found, .ok (), left⟩ :: passed, last, error, rfl, ?_, failed⟩
      rintro made (_ | ⟨_, later⟩)
      · rfl
      · exact fine made later
  | failed performed => exact .inr ⟨[], _, _, rfl, by simp, rfl, rfl⟩

end

/-! ### Agendas -/

variable [DecidableEq κ]

/-- All that a dispatch sets out to invoke: for one event after the other the handlers of its kind,
in the order in which they were registered. What the handlers do has no influence on it. -/
def agenda (registrations : List (Registration κ σ S)) (events : List (DomainEvent κ)) :
    List (Call κ σ S) :=
  events.flatMap fun event =>
    (handlersOf registrations event.kind).map fun handler => ⟨event, handler⟩

/-- A dispatch works through its agenda: two nested loops, one over the events and one over the
handlers of a kind, are one loop over the list of all calls. -/
theorem dispatch_eq_agenda (registrations : List (Registration κ σ S))
    (events : List (DomainEvent κ)) :
    (registered registrations).dispatch events =
      (agenda registrations events).forM Call.invoke := by
  induction events with
  | nil => rfl
  | cons event events inductionHypothesis =>
    have first : (registered registrations).dispatchOne event =
        ((handlersOf registrations event.kind).map fun handler =>
          (⟨event, handler⟩ : Call κ σ S)).forM Call.invoke := by
      rw [dispatchOne, handlers_registered, List.forM_eq_forM, List.forM_eq_forM, List.forM_map]
      rfl
    calc (registered registrations).dispatch (event :: events)
        = ((registered registrations).dispatchOne event >>= fun _ =>
            (registered registrations).dispatch events) := rfl
      _ = (((handlersOf registrations event.kind).map fun handler =>
              (⟨event, handler⟩ : Call κ σ S)).forM Call.invoke >>= fun _ =>
            (agenda registrations events).forM Call.invoke) := by rw [first, inductionHypothesis]
      _ = (agenda registrations (event :: events)).forM Call.invoke := List.forM_append.symm

/-- Watching leaves the order of registration as it is, under every kind. -/
theorem handlersOf_watched (registrations : List (Registration κ σ S)) (kind : κ) :
    handlersOf (registrations.map (·.watched)) kind =
      (handlersOf registrations kind).map (watch kind) := by
  rw [handlersOf, handlersOf, List.filterMap_map, List.map_filterMap]
  congr 1
  funext made
  by_cases same : made.kind = kind
  · subst same
    simp [Registration.handler?, Registration.watched]
  · simp [Registration.handler?, Registration.watched, same]

/-- The agenda of watched handlers is the agenda with every call watched. -/
theorem agenda_watched (registrations : List (Registration κ σ S)) (events : List (DomainEvent κ)) :
    agenda (registrations.map (·.watched)) events =
      (agenda registrations events).map (·.watched) := by
  simp only [agenda, handlersOf_watched, List.map_flatMap, List.map_map]
  rfl

/-! ### Traces -/

/-- The invocations that a dispatch makes, as the watched handlers note them. The trace is left by
the dispatch of a dispatcher, not by a description of one. -/
def trace (registrations : List (Registration κ σ S)) (events : List (DomainEvent κ))
    (world : World σ) (session : S) : List (Invocation κ σ S) :=
  let watched := registered (registrations.map (·.watched))
  ((watched.dispatch events).perform (world, session, [])).2.2.2

/-- Dispatches with one agenda do the same and leave the same trace, whatever events and
registrations the agenda came from. -/
theorem trace_congr {one other : List (Registration κ σ S)} {events others : List (DomainEvent κ)}
    (same : agenda one events = agenda other others) (world : World σ) (session : S) :
    (registered one).dispatch events = (registered other).dispatch others ∧
      trace one events world session = trace other others world session := by
  constructor
  · rw [dispatch_eq_agenda, dispatch_eq_agenda, same]
  · rw [trace, trace, dispatch_eq_agenda, dispatch_eq_agenda, agenda_watched, agenda_watched, same]

/-- What a trace says of a dispatch. Together the parts determine the trace, since each invocation
finds what the one before it left. -/
structure Traces (calls : List (Call κ σ S)) (found : World σ × S) (noted : List (Invocation κ σ S))
    (final : Except Outbox.Error Unit × World σ × S) : Prop where
  /-- The calls are the first ones of the agenda, in its order. -/
  calls_isPrefix : noted.map (·.call) <+: calls
  /-- Each handler did with what it found what it does. -/
  performed : ∀ made ∈ noted, made.call.invoke.perform made.found = (made.result, made.left)
  /-- The first handler finds what the dispatch was given, each later one what its predecessor left,
  and what the last one left is the end. -/
  linked : noted.map (·.found) ++ [final.2] = found :: noted.map (·.left)
  /-- All of the agenda was called and nothing failed, or the last call failed, as the first one,
  and its failure is the result. -/
  ending : (final.1 = .ok () ∧ noted.map (·.call) = calls ∧ ∀ made ∈ noted, made.result = .ok ()) ∨
    ∃ passed last error, noted = passed ++ [last] ∧ (∀ made ∈ passed, made.result = .ok ()) ∧
      last.result = .error error ∧ final.1 = .error error

/-- A dispatch of watched handlers does what the plain one does, and leaves a trace of it. -/
theorem perform_watched (registrations : List (Registration κ σ S)) (events : List (DomainEvent κ))
    (world : World σ) (session : S) :
    let done := ((registered registrations).dispatch events).perform (world, session)
    let noted := trace registrations events world session
    Proceeds (agenda registrations events) (world, session) noted done ∧
      ((registered (registrations.map (·.watched))).dispatch events).perform (world, session, []) =
        (done.1, done.2.1, done.2.2, noted) := by
  intro done noted
  obtain ⟨calls, proceeds, same⟩ :=
    proceeds_watched (agenda registrations events) world session []
  rw [← dispatch_eq_agenda] at proceeds same
  rw [← agenda_watched, ← dispatch_eq_agenda] at same
  obtain rfl : calls = noted := congrArg (·.2.2.2) same.symm
  exact ⟨proceeds, same⟩

/-- A dispatch invokes, for one event after the other, the handlers registered for its kind in the
order of their registration, each on the session as its predecessor left it, up to the first
failure, which it returns. Events without handlers make no difference, and neither does it how
registrations for different kinds were mixed, nor whether handlers are kept with the types of their
facts or without.

Proof: a dispatch is one loop over its agenda (`dispatch_eq_agenda`), and watched handlers note how
that loop proceeds (`proceeds_watched`), from which the four parts of a trace are read off. An event
without handlers leaves the agenda as it is, and so does another order of kinds, so that
`trace_congr` settles both; a registry dispatches as a dispatcher does. -/
theorem dispatch_traced (registrations : List (Registration κ σ S)) (events : List (DomainEvent κ))
    (world : World σ) (session : S) :
    let done := ((registered registrations).dispatch events).perform (world, session)
    let noted := trace registrations events world session
    Traces (agenda registrations events) (world, session) noted done ∧
      ((registered (registrations.map (·.watched))).dispatch events).perform (world, session, []) =
        (done.1, done.2.1, done.2.2, noted) ∧
      (∀ front event back, events = front ++ event :: back →
        handlersOf registrations event.kind = [] →
          ((registered registrations).dispatch (front ++ back)).perform (world, session) = done ∧
            trace registrations (front ++ back) world session = noted) ∧
      (∀ others : List (Registration κ σ S),
        (∀ kind, handlersOf others kind = handlersOf registrations kind) →
          ((registered others).dispatch events).perform (world, session) = done ∧
            trace others events world session = noted) ∧
      ((Registry.registered registrations).dispatch events).perform (world, session) = done ∧
      ((Registry.registered (registrations.map (·.watched))).dispatch events).perform
        (world, session, []) = (done.1, done.2.1, done.2.2, noted) := by
  intro done noted
  obtain ⟨proceeds, same⟩ := perform_watched registrations events world session
  refine ⟨?_, same, ?_, ?_, ?_, ?_⟩
  · exact ⟨proceeds.calls_isPrefix, proceeds.performed, proceeds.linked, proceeds.ending⟩
  · rintro front event back rfl none
    have left : agenda registrations (front ++ back) =
        agenda registrations (front ++ event :: back) := by
      simp [agenda, none]
    obtain ⟨dispatches, traces⟩ := trace_congr left world session
    exact ⟨by rw [dispatches], traces⟩
  · intro others alike
    have ordered : agenda others events = agenda registrations events := by
      simp only [agenda, alike]
    obtain ⟨dispatches, traces⟩ := trace_congr ordered world session
    exact ⟨by rw [dispatches], traces⟩
  · rw [Registry.dispatch_registered]
  · rw [Registry.dispatch_registered]
    exact same

end OutboxRelay.Dispatcher

import OutboxRelay.Proofs.Broker.Reconnection

/-!
# Traffic with the broker

What passes between the callers of a shared connection and the broker: the calls that the callers
make and the ends of these calls. Seen from one caller, the traffic of a run is a conversation, and
a call that has ended is the last one which its caller made. What each caller wants is the traffic's
other side, and is known from the moves.
-/

namespace OutboxRelay.Broker

variable {ρ : Type}

/-- What passes between a caller and the broker. The end of a call does not name the call, as the
broker answers whoever waits. -/
inductive Signal (ρ : Type) where
  /-- A call begins. -/
  | made (caller : CallerId) (call : Call ρ)
  /-- The call in progress ends. -/
  | ended (caller : CallerId) (failure : Option Error)
deriving DecidableEq

namespace Signal

/-- Whose conversation a signal belongs to: the caller makes the call or waits for its end. -/
def caller : Signal ρ → CallerId
  | made caller _ | ended caller _ => caller

/-- The call that begins. -/
def call? : Signal ρ → Option (Call ρ)
  | made _ call => some call
  | ended .. => none

/-- The failure with which a call ends. -/
def failure? : Signal ρ → Option Error
  | made .. => none
  | ended _ failure => failure

end Signal

namespace Step

/-- The calls that begin in a step. -/
def begun (step : Step ρ) : List (Call ρ) :=
  step.after.calls.drop step.before.calls.length

/-- What passes in a step. The end of a call comes before the next one, since a caller goes on only
when its call has ended. -/
def signals (step : Step ρ) : List (Signal ρ) :=
  match step.move with
  | .call caller _ | .proceed caller => step.begun.map (.made caller)
  | .reply caller failure _ => .ended caller failure :: step.begun.map (.made caller)
  | .setOpen .. => []

/-- What passes in a step concerns the caller that moves. -/
theorem caller_of_mem_signals {step : Step ρ} {signal : Signal ρ} (passes : signal ∈ step.signals) :
    step.move.caller? = some signal.caller := by
  have made {caller : CallerId} (passes : signal ∈ step.begun.map (.made caller)) :
      signal.caller = caller := by
    obtain ⟨_, _, rfl⟩ := List.mem_map.mp passes
    rfl
  revert passes
  unfold signals
  split
  all_goals intro passes
  · next moves => rw [moves, made passes, Move.caller?]
  · next moves => rw [moves, made passes, Move.caller?]
  · next moves =>
    rcases List.mem_cons.mp passes with rfl | passes
    · rw [moves]
      rfl
    · rw [moves, made passes, Move.caller?]
  · cases passes

end Step

/-- What passed in some steps, in the order of the steps. The calls of all callers are mixed in
it. -/
def traffic (steps : List (Step ρ)) : List (Signal ρ) :=
  steps.flatMap (·.signals)

/-- The part of the traffic that concerns one caller. -/
def conversation (caller : CallerId) (signals : List (Signal ρ)) : List (Signal ρ) :=
  signals.filter (·.caller = caller)

theorem traffic_append (earlier later : List (Step ρ)) :
    traffic (earlier ++ later) = traffic earlier ++ traffic later :=
  List.flatMap_append

theorem traffic_singleton (step : Step ρ) : traffic [step] = step.signals :=
  List.flatMap_singleton ..

theorem conversation_append (caller : CallerId) (earlier later : List (Signal ρ)) :
    conversation caller (earlier ++ later) =
      conversation caller earlier ++ conversation caller later :=
  List.filter_append ..

theorem conversation_signals_self {step : Step ρ} {caller : CallerId}
    (moves : step.move.caller? = some caller) :
    conversation caller step.signals = step.signals := by
  apply List.filter_eq_self.mpr
  intro signal passes
  rw [Step.caller_of_mem_signals passes] at moves
  simpa using moves

theorem conversation_signals_ne {step : Step ρ} {caller : CallerId}
    (moves : step.move.caller? ≠ some caller) : conversation caller step.signals = [] := by
  apply List.filter_eq_nil_iff.mpr
  intro signal passes
  rw [Step.caller_of_mem_signals passes] at moves
  simpa using moves

/-! ### Calls that have ended -/

/-- A call that has ended, with the caller that made it and the failure that the broker reported. -/
structure Settled (ρ : Type) where
  caller : CallerId
  call : Call ρ
  failure : Option Error

/-- The calls that end, given the calls in progress. The end of a call is that of the last one which
its caller made; calls of different callers may overlap. -/
def settle (pending : CallerId → Option (Call ρ)) : List (Signal ρ) → List (Settled ρ)
  | [] => []
  | .made caller call :: signals =>
    settle (fun other => if other = caller then some call else pending other) signals
  | .ended caller failure :: signals =>
    (pending caller).toList.map (⟨caller, ·, failure⟩) ++
      settle (fun other => if other = caller then none else pending other) signals

/-- The event that the broker accepted by a call, and from whom. -/
def Settled.accepted? (settled : Settled ρ) : Option (CallerId × String × ρ) :=
  match settled.call, settled.failure with
  | .publish _ properties payload, none =>
    some (settled.caller, properties.eventType, payload)
  | _, _ => none

/-- The events that the broker accepted: the caller, the event type and the payload of each, in the
order in which they were accepted. -/
def accepted (signals : List (Signal ρ)) : List (CallerId × String × ρ) :=
  (settle (fun _ => none) signals).filterMap (·.accepted?)

/-- Whatever the others do, a caller's calls end as its own conversation says. The induction is on
the traffic, over all calls in progress, of which only the caller's own matters. -/
theorem filter_settle {caller : CallerId} {pending own : CallerId → Option (Call ρ)}
    (same : pending caller = own caller) (signals : List (Signal ρ)) :
    (settle pending signals).filter (·.caller = caller) =
      settle own (conversation caller signals) := by
  induction signals generalizing pending own with
  | nil => rfl
  | cons signal signals inductionHypothesis =>
    cases signal with
    | made maker call =>
      by_cases here : maker = caller
      · subst here
        simpa [settle, conversation, Signal.caller] using inductionHypothesis (by simp)
      · simpa [settle, conversation, Signal.caller, here] using
          inductionHypothesis (by simpa [Ne.symm here] using same)
    | ended maker failure =>
      by_cases here : maker = caller
      · subst here
        have rest := @inductionHypothesis
          (fun other => if other = maker then none else pending other)
          (fun other => if other = maker then none else own other) (by simp)
        cases own maker <;> simp_all [settle, conversation, Signal.caller]
      · have rest := @inductionHypothesis
          (fun other => if other = maker then none else pending other) own
          (by simpa [Ne.symm here] using same)
        cases pending maker <;> simp_all [settle, conversation, Signal.caller]

/-- What was accepted from a caller is what its own conversation says. -/
theorem filter_accepted (caller : CallerId) (signals : List (Signal ρ)) :
    (accepted signals).filter (·.1 = caller) = accepted (conversation caller signals) := by
  have own (settled : Settled ρ) : settled.accepted?.filter (·.1 = caller) =
      if settled.caller = caller then settled.accepted? else none := by
    unfold Settled.accepted?
    split <;> simp [Option.filter]
  rw [accepted, accepted, ← filter_settle rfl, List.filter_filterMap, List.filterMap_filter]
  simp only [own, decide_eq_true_eq]

/-! ### What a caller wants -/

/-- What the callers of some moves want, in the order of their calls. -/
def requested (moves : List (Move ρ)) : List (CallerId × Request ρ) :=
  moves.filterMap fun
    | .call caller request => some (caller, request)
    | _ => none

namespace Connection

variable {before after : Connection ρ} {move : Move ρ}

/-- Every caller calls once, and its request is kept. So a caller stands for its call, and what it
wants can be looked up at any time. -/
structure Asked (moves : List (Move ρ)) (connection : Connection ρ) : Prop where
  once : ((requested moves).map (·.1)).Nodup
  request : ∀ caller request, (caller, request) ∈ requested moves ↔
    connection.stages caller ≠ .idle ∧ connection.requests caller = request

theorem asked_fresh : Asked [] ({} : Connection ρ) :=
  ⟨List.nodup_nil, fun _ _ => ⟨nofun, fun asked => absurd rfl asked.1⟩⟩

/-- A move either is a caller's first one or changes no request and makes nobody begin. Who has
begun keeps its request until the end. -/
theorem Transition.requests (transition : Transition before move after) (orderly : Orderly before) :
    (∃ caller request, move = .call caller request ∧ before.stages caller = .idle ∧
      after.stages caller = .looking ∧ after.requests caller = request ∧
      ∀ other, other ≠ caller → after.stages other = before.stages other ∧
        after.requests other = before.requests other) ∨
    requested [move] = [] ∧ after.requests = before.requests ∧
      ∀ caller, after.stages caller = .idle ↔ before.stages caller = .idle := by
  have := @orderly.first_queued
  cases transition with
  | @called caller request idle =>
    exact Or.inl ⟨caller, request, rfl, idle, by simp, by simp, by grind⟩
  | _ => exact Or.inr ⟨rfl, by simp, by grind⟩

theorem requested_append (moves : List (Move ρ)) (move : Move ρ) :
    requested (moves ++ [move]) = requested moves ++ requested [move] :=
  List.filterMap_append

/-- Every transition keeps what is known of the requests. -/
theorem Asked.step {moves : List (Move ρ)} (asked : Asked moves before) (orderly : Orderly before)
    (transition : Transition before move after) : Asked (moves ++ [move]) after := by
  rcases transition.requests orderly with
    ⟨caller, request, rfl, idle, looking, wants, others⟩ | ⟨none, requests, begun⟩
  · have first : ∀ request, (caller, request) ∉ requested moves := fun request among =>
      ((asked.request caller request).mp among).1 idle
    have new : requested [.call caller request] = [(caller, request)] := rfl
    constructor
    · rw [requested_append, new, List.map_append, List.nodup_append]
      refine ⟨asked.once, List.pairwise_singleton _ _, ?_⟩
      intro earlier among last same both
      obtain ⟨⟨maker, wanted⟩, already, rfl⟩ := List.mem_map.mp among
      cases List.mem_singleton.mp same
      cases show maker = caller from both
      exact first wanted already
    · intro other wanted
      rw [requested_append, new, List.mem_append, List.mem_singleton, Prod.mk.injEq]
      by_cases here : other = caller
      · subst here
        simp [first, looking, wants, eq_comm]
      · simp [here, asked.request, others other here]
  · constructor
    · rw [requested_append, none, List.append_nil]
      exact asked.once
    · intro caller request
      rw [requested_append, none, List.append_nil, asked.request, requests, Ne, Ne, begun]

end Connection

end OutboxRelay.Broker

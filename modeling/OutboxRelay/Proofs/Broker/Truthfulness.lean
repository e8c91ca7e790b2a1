import Mathlib.Data.List.Nodup
import OutboxRelay.Proofs.Broker.SingleFlight
import OutboxRelay.Proofs.Broker.Traffic

/-!
# What a publish call tells its caller

Callers share channels and wait for each other's reconnections, but a caller's result is that of its
own conversation with the broker. A caller that wants an event published hands over that event, at
most once, and returns without a failure exactly if the broker accepted it. Otherwise it returns the
failure of the one call of its own that failed.

The invariant fixes the whole conversation of every caller by its stage: nothing before it has a
channel or reconnects, then the calls of the reconnection, then the one call that publishes. A step
of somebody else adds nothing to it.
-/

namespace OutboxRelay.Broker

variable {ρ : Type}

/-- Before a caller has a channel and unless it reconnects, it has not called the broker. -/
def Stage.silent : Stage → Bool
  | .idle | .looking | .arriving | .queued | .rechecking | .retiring => true
  | _ => false

/-- How a caller at this stage returned, if it has. -/
def Stage.result? : Stage → Option (Except Error ChannelId)
  | .finished result => some result
  | _ => none

theorem Stage.result?_of_silent {stage : Stage} (silent : stage.silent = true) :
    stage.result? = none := by
  revert silent
  cases stage <;> simp [Stage.silent, Stage.result?]

/-- How a caller came by its channel: there was one, or it made one. A caller that waited for
somebody else's reconnection found one. -/
inductive Approach (caller : CallerId) (channel : ChannelId) : List (Signal ρ) → Prop where
  /-- It found the channel of somebody else. -/
  | shared : Approach caller channel []
  /-- It connected and declared the channel itself. -/
  | own : Approach caller channel
      [.made caller .connect, .ended caller none,
        .made caller (.declare channel), .ended caller none]

/-- A caller's conversation with the broker, by what the caller wants and how far it has come. There
is one conversation for each stage, up to the way to the channel. -/
inductive Course (caller : CallerId) (request : Request ρ) : Stage → List (Signal ρ) → Prop where
  | silent {stage : Stage} (silent : stage.silent = true) : Course caller request stage []
  | connecting : Course caller request .connecting [.made caller .connect]
  | declaring {channel : ChannelId} : Course caller request (.declaring channel)
      [.made caller .connect, .ended caller none, .made caller (.declare channel)]
  | storing {channel : ChannelId} : Course caller request (.storing channel)
      [.made caller .connect, .ended caller none,
        .made caller (.declare channel), .ended caller none]
  | ready {channel : ChannelId} {front : List (Signal ρ)}
    (approach : Approach caller channel front) :
    Course caller request (.ready channel) front
  | publishing {channel : ChannelId} {front : List (Signal ρ)} {eventType : String} {payload : ρ}
      (asked : request = .publish eventType payload) (approach : Approach caller channel front) :
    Course caller request (.publishing channel)
      (front ++ [.made caller (.publish channel (.forEvent eventType) payload)])
  | discarding {channel : ChannelId} {front : List (Signal ρ)} {eventType : String} {payload : ρ}
      {error : Error} (asked : request = .publish eventType payload)
      (approach : Approach caller channel front) :
    Course caller request (.discarding channel error)
      (front ++ [.made caller (.publish channel (.forEvent eventType) payload),
        .ended caller (some error)])
  | served {channel : ChannelId} {front : List (Signal ρ)} (asked : request = .channel)
      (approach : Approach caller channel front) :
    Course caller request (.finished (.ok channel)) front
  | accepted {channel : ChannelId} {front : List (Signal ρ)} {eventType : String} {payload : ρ}
      (asked : request = .publish eventType payload) (approach : Approach caller channel front) :
    Course caller request (.finished (.ok channel))
      (front ++ [.made caller (.publish channel (.forEvent eventType) payload),
        .ended caller none])
  | unconnected {error : Error} : Course caller request (.finished (.error error))
      [.made caller .connect, .ended caller (some error)]
  | undeclared {channel : ChannelId} {error : Error} :
    Course caller request (.finished (.error error))
      [.made caller .connect, .ended caller none,
        .made caller (.declare channel), .ended caller (some error)]
  | refused {channel : ChannelId} {front : List (Signal ρ)} {eventType : String} {payload : ρ}
      {error : Error} (asked : request = .publish eventType payload)
      (approach : Approach caller channel front) :
    Course caller request (.finished (.error error))
      (front ++ [.made caller (.publish channel (.forEvent eventType) payload),
        .ended caller (some error)])

/-- Before a caller calls the broker, nothing has passed between the two. -/
theorem Course.eq_nil {caller : CallerId} {request : Request ρ} {stage : Stage}
    {said : List (Signal ρ)} (course : Course caller request stage said)
    (silent : stage.silent = true) : said = [] := by
  cases course with
  | silent => rfl
  | _ => cases silent

namespace Connection

variable {before after : Connection ρ} {move : Move ρ} {caller : CallerId}

/-- A caller has a result once it has returned. -/
theorem result?_eq_some {connection : Connection ρ} {result : Except Error ChannelId} :
    connection.result? caller = some result ↔ connection.stages caller = .finished result := by
  unfold result?
  split <;> simp_all

/-! ### Conversations -/

/-- The caller that moves says what its next stage tells. The cases are those of the transition, and
each adds to the conversation what its step begins and ends. -/
theorem Transition.course (transition : Transition before move after) {said : List (Signal ρ)}
    (moves : move.caller? = some caller)
    (course : Course caller (before.requests caller) (before.stages caller) said) :
    Course caller (after.requests caller) (after.stages caller)
      (said ++ (⟨before, move, after⟩ : Step ρ).signals) := by
  cases transition with
  | called here | missed here | locked here | queued here | stale here =>
    cases moves
    rw [here] at course
    cases course
    simpa [Step.signals, Step.begun] using .silent rfl
  | found here | spared here =>
    cases moves
    rw [here] at course
    cases course
    simpa [Step.signals, Step.begun] using .ready .shared
  | connect retiring =>
    cases moves
    rw [retiring] at course
    cases course
    simpa [Step.signals, Step.begun] using .connecting
  | connected connecting =>
    cases moves
    rw [connecting] at course
    cases course with
    | silent silent => cases silent
    | connecting => simpa [Step.signals, Step.begun] using .declaring
  | unconnected connecting =>
    cases moves
    rw [connecting] at course
    cases course with
    | silent silent => cases silent
    | connecting => simpa [Step.signals, Step.begun] using .unconnected
  | declared declaring =>
    cases moves
    rw [declaring] at course
    cases course with
    | silent silent => cases silent
    | declaring => simpa [Step.signals, Step.begun] using .storing
  | undeclared declaring =>
    cases moves
    rw [declaring] at course
    cases course with
    | silent silent => cases silent
    | declaring => simpa [Step.signals, Step.begun] using .undeclared
  | stored storing =>
    cases moves
    rw [storing] at course
    cases course with
    | silent silent => cases silent
    | storing => simpa [Step.signals, Step.begun] using .ready .own
  | returned ready asked =>
    cases moves
    rw [ready] at course
    cases course with
    | silent silent => cases silent
    | ready approach => simpa [Step.signals, Step.begun] using .served asked approach
  | publish ready asked =>
    cases moves
    rw [ready] at course
    cases course with
    | silent silent => cases silent
    | ready approach => simpa [Step.signals, Step.begun] using .publishing asked approach
  | published publishing =>
    cases moves
    rw [publishing] at course
    cases course with
    | silent silent => cases silent
    | publishing asked approach =>
      simpa [Step.signals, Step.begun] using .accepted asked approach
  | refused publishing =>
    cases moves
    rw [publishing] at course
    cases course with
    | silent silent => cases silent
    | publishing asked approach =>
      simpa [Step.signals, Step.begun] using .discarding asked approach
  | discarded discarding =>
    cases moves
    rw [discarding] at course
    cases course with
    | silent silent => cases silent
    | discarding asked approach =>
      simpa [Step.signals, Step.begun] using .refused asked approach
  | changed => cases moves

/-- Every caller's conversation so far is the one that its stage tells. This is the invariant of a
run; what a caller was told is read off the stage at the end. -/
structure Conversed (done : List (Step ρ)) (connection : Connection ρ) : Prop where
  orderly : Orderly connection
  asked : Asked (done.map (·.move)) connection
  course : ∀ caller, Course caller (connection.requests caller) (connection.stages caller)
    (conversation caller (traffic done))
  /-- The calls noted are those that passed. -/
  noted : connection.calls = (traffic done).filterMap (·.call?)

theorem conversed_fresh : Conversed [] ({} : Connection ρ) :=
  ⟨orderly_fresh, asked_fresh, fun _ => .silent rfl, rfl⟩

/-- The calls noted after a step are those noted before it and those that begin in it. -/
theorem Transition.calls (transition : Transition before move after) :
    after.calls =
      before.calls ++ (⟨before, move, after⟩ : Step ρ).signals.filterMap (·.call?) := by
  cases transition <;>
    simp [Step.signals, Step.begun, Signal.call?]

/-- Every transition keeps the conversations in accord with the stages: that of the caller that
moves by `Transition.course`, those of the others because nothing of theirs passed. -/
theorem Conversed.step {done : List (Step ρ)} (conversed : Conversed done before)
    (transition : Transition before move after) :
    Conversed (done ++ [⟨before, move, after⟩]) after where
  orderly := conversed.orderly.step transition
  asked := by
    rw [List.map_append]
    exact conversed.asked.step conversed.orderly transition
  course := fun caller => by
    have course := conversed.course caller
    rw [traffic_append, traffic_singleton, conversation_append]
    by_cases moves : move.caller? = some caller
    · rw [conversation_signals_self moves]
      exact transition.course moves course
    · have ⟨requests, stages⟩ := transition.bystander conversed.orderly moves
      rw [conversation_signals_ne moves, List.append_nil, requests]
      rcases stages with same | ⟨queued, rechecking⟩
      · rwa [same]
      · rw [rechecking, course.eq_nil (by rw [queued]; rfl)]
        exact .silent rfl
  noted := by
    rw [traffic_append, traffic_singleton, List.filterMap_append, ← conversed.noted]
    exact transition.calls

/-- The conversations of a run are those that the stages at its end tell. -/
theorem Leads.conversed {steps : List (Step ρ)} {final : Connection ρ}
    (leads : Leads {} steps final) : Conversed steps final :=
  leads.accumulate (fun transition conversed => conversed.step transition) conversed_fresh

/-! ### Results -/

end Connection

/-- What a conversation and a result have to do with each other, for a caller that wants an event
published. The result may be missing, if the caller has not returned. -/
structure Truthful (caller : CallerId) (eventType : String) (payload : ρ) (said : List (Signal ρ))
    (result : Option (Except Error ChannelId)) : Prop where
  /-- At most one message is sent. -/
  once : (said.filterMap (·.call?)).countP (!·.reconnects) ≤ 1
  /-- It is the caller's own event, as a durable message in JSON. -/
  own : ∀ channel properties body,
    Call.publish channel properties body ∈ said.filterMap (·.call?) →
      properties = ⟨"application/json", eventType, true⟩ ∧ body = payload
  /-- The caller returns without a failure exactly if the broker accepted the message. -/
  succeeds : (∃ channel, result = some (.ok channel)) ↔
    ∃ channel, [.made caller (.publish channel ⟨"application/json", eventType, true⟩ payload),
      .ended caller none] <:+: said
  /-- Then none of its calls failed. -/
  clean : ∀ channel, result = some (.ok channel) → said.filterMap (·.failure?) = []
  /-- Otherwise it returns the failure of the only call of its own that failed, its last one. -/
  fails : ∀ error, result = some (.error error) →
    said.filterMap (·.failure?) = [error] ∧
      ∃ call, [.made caller call, .ended caller (some error)] <:+ said
  /-- A caller whose connect or declare call failed sends nothing. -/
  unreached : ∀ call error, [.made caller call, .ended caller (some error)] <:+: said →
    call.reconnects = true → ∀ made ∈ said.filterMap (·.call?), made.reconnects = true

variable {caller : CallerId}

/-- A result is a failure only if a call failed, and then it is the one that the stage at the end of
the conversation holds. The cases are those of the course. -/
theorem Course.truthful {stage : Stage} {eventType : String} {payload : ρ} {said : List (Signal ρ)}
    (course : Course caller (.publish eventType payload) stage said) :
    Truthful caller eventType payload said stage.result? := by
  cases course with
  | silent silent => constructor <;> simp [Stage.result?_of_silent silent]
  | connecting | declaring | storing | unconnected | undeclared =>
    constructor <;>
      simp [Stage.result?, Signal.call?, Signal.failure?, Call.reconnects, List.infix_cons_iff,
        List.suffix_cons_iff]
  | ready approach =>
    cases approach <;> constructor <;>
      simp [Stage.result?, Signal.call?, Signal.failure?, Call.reconnects, List.infix_cons_iff]
  | served asked => cases asked
  | publishing asked approach | discarding asked approach | accepted asked approach
  | refused asked approach =>
    cases asked
    cases approach <;> constructor <;>
      simp [Stage.result?, Signal.call?, Signal.failure?, Call.reconnects, Properties.forEvent,
        jsonContentType, List.infix_cons_iff, List.suffix_cons_iff]

/-- The event of a caller that wants one published and has returned without a failure. -/
def Request.fulfilled? (caller : CallerId) (result : Option (Except Error ChannelId)) :
    Request ρ → Option (CallerId × String × ρ)
  | .channel => none
  | .publish eventType payload =>
    match result with
    | some (.ok _) => some (caller, eventType, payload)
    | _ => none

theorem Request.fulfilled?_eq_some {request : Request ρ}
    {result : Option (Except Error ChannelId)} {event : CallerId × String × ρ} :
    request.fulfilled? caller result = some event ↔
      ∃ eventType payload channel, request = .publish eventType payload ∧
        result = some (.ok channel) ∧ event = (caller, eventType, payload) := by
  cases request with
  | channel => simp [fulfilled?]
  | publish eventType payload =>
    match result with
    | none | some (.error _) => simp [fulfilled?]
    | some (.ok _) => simp [fulfilled?, eq_comm, and_assoc]

/-- What the broker accepted in a conversation is what its caller reports: its own event if it
returned without a failure, and nothing otherwise. -/
theorem Course.accepted_eq {request : Request ρ} {stage : Stage} {said : List (Signal ρ)}
    (course : Course caller request stage said) :
    Broker.accepted said = (request.fulfilled? caller stage.result?).toList := by
  cases course with
  | silent silent =>
    cases request <;>
      simp [Broker.accepted, settle, Request.fulfilled?, Stage.result?_of_silent silent]
  | connecting | declaring | storing | unconnected | undeclared =>
    cases request <;>
      simp [Broker.accepted, settle, Settled.accepted?, Request.fulfilled?, Stage.result?]
  | ready approach =>
    cases approach <;> cases request <;>
      simp [Broker.accepted, settle, Settled.accepted?, Request.fulfilled?, Stage.result?]
  | served asked approach =>
    cases asked
    cases approach <;> simp [Broker.accepted, settle, Settled.accepted?, Request.fulfilled?]
  | publishing asked approach | discarding asked approach | accepted asked approach
  | refused asked approach =>
    cases asked
    cases approach <;>
      simp [Broker.accepted, settle, Settled.accepted?, Request.fulfilled?, Stage.result?,
        Properties.forEvent]

namespace Connection

/-- The events of the callers that returned without a failure: the caller, the event type and the
payload of each, in the order of the calls. -/
def fulfilled (moves : List (Move ρ)) (connection : Connection ρ) : List (CallerId × String × ρ) :=
  (requested moves).filterMap fun (caller, request) =>
    request.fulfilled? caller (connection.result? caller)

/-- An event was accepted from a caller exactly if the caller wanted it published and has returned
without a failure. By `filter_accepted` this is a question about its conversation alone. -/
theorem Conversed.mem_accepted_iff {done : List (Step ρ)} (conversed : Conversed done before)
    (event : CallerId × String × ρ) :
    event ∈ accepted (traffic done) ↔
      (before.requests event.1).fulfilled? event.1 (before.result? event.1) = some event := by
  have course := (conversed.course event.1).accepted_eq
  rw [← filter_accepted] at course
  have among : event ∈ accepted (traffic done) ↔
      event ∈ (accepted (traffic done)).filter (·.1 = event.1) := by simp
  rw [among, course, Option.mem_toList]
  rfl

/-- No caller's event is accepted twice. -/
theorem Conversed.accepted_nodup {done : List (Step ρ)} (conversed : Conversed done before) :
    (accepted (traffic done)).Nodup := by
  classical
  rw [List.nodup_iff_count]
  intro event
  have own : (accepted (traffic done)).count event =
      ((accepted (traffic done)).filter (·.1 = event.1)).count event :=
    (List.count_filter (by simp)).symm
  rw [own, filter_accepted, (conversed.course event.1).accepted_eq]
  cases (before.requests event.1).fulfilled? event.1 (before.stages event.1).result? with
  | none => exact Nat.zero_le 1
  | some other => exact List.count_le_length

/-- A caller is among those that report their events exactly if it wanted an event published and has
returned without a failure. -/
theorem Asked.mem_fulfilled_iff {moves : List (Move ρ)} (asked : Asked moves before)
    (event : CallerId × String × ρ) :
    event ∈ before.fulfilled moves ↔
      (before.requests event.1).fulfilled? event.1 (before.result? event.1) = some event := by
  rw [fulfilled, List.mem_filterMap]
  constructor
  · rintro ⟨⟨caller, request⟩, among, fulfilled⟩
    have wanted := ((asked.request caller request).mp among).2
    obtain ⟨eventType, payload, channel, rfl, returned, rfl⟩ :=
      Request.fulfilled?_eq_some.mp fulfilled
    rwa [wanted]
  · intro fulfilled
    obtain ⟨_, _, channel, _, returned, _⟩ := Request.fulfilled?_eq_some.mp fulfilled
    refine ⟨(event.1, before.requests event.1), ?_, fulfilled⟩
    refine (asked.request _ _).mpr ⟨fun idle => ?_, rfl⟩
    rw [result?, idle] at returned
    cases returned

theorem Asked.fulfilled_nodup {moves : List (Move ρ)} (asked : Asked moves before) :
    (before.fulfilled moves).Nodup := by
  refine List.Nodup.filterMap ?_ asked.once.of_map
  rintro ⟨first, request⟩ ⟨second, other⟩ event one another
  obtain ⟨_, _, _, rfl, _, rfl⟩ := Request.fulfilled?_eq_some.mp one
  obtain ⟨_, _, _, rfl, _, same⟩ := Request.fulfilled?_eq_some.mp another
  cases same
  rfl

/-- What is true of the publish calls of a run. Conversations are told from the steps of the run,
and results from its end. -/
structure ResultsTruthful (moves : List (Move ρ)) (final : Connection ρ) : Prop where
  /-- Nobody calls twice, so that a caller stands for its call. -/
  once : ((requested moves).map (·.1)).Nodup
  /-- Every call to the broker belongs to the conversation of one caller. -/
  noted : final.calls = (traffic (steps {} moves)).filterMap (·.call?)
  /-- Every caller that wants an event published is told the truth about its own. -/
  each : ∀ caller eventType payload, .call caller (.publish eventType payload) ∈ moves →
    Truthful caller eventType payload (conversation caller (traffic (steps {} moves)))
      (final.result? caller)
  /-- The events that the broker accepted are those of the callers that returned without a failure,
  each as often as the other. -/
  balanced : ((accepted (traffic (steps {} moves))).map (·.2)).Perm
    ((final.fulfilled moves).map (·.2))

/-- Every result is true, for every order in which the moves of any number of callers, of the broker
and of the world around come.

Proof: at the end of the run every caller's conversation is the one of its stage, by
`Conversed.step` along the run. A conversation is truthful as `Course.truthful` says, one case for
each stage. For the balance, neither the events accepted nor those reported have repetitions,
because callers call once, and the two have the same members. -/
theorem results_truthful {moves : List (Move ρ)} {final : Connection ρ}
    (run : run? {} moves = some final) : ResultsTruthful moves final := by
  have conversed := (leads_of_run? run).conversed
  have asked := conversed.asked
  rw [map_move_steps run] at asked
  constructor
  · exact asked.once
  · exact conversed.noted
  · intro caller eventType payload calls
    have wanted : (caller, .publish eventType payload) ∈ requested moves :=
      List.mem_filterMap.mpr ⟨_, calls, rfl⟩
    have course := conversed.course caller
    rw [((asked.request caller _).mp wanted).2] at course
    exact course.truthful
  · apply List.Perm.map
    rw [List.perm_ext_iff_of_nodup conversed.accepted_nodup asked.fulfilled_nodup]
    intro event
    rw [conversed.mem_accepted_iff, asked.mem_fulfilled_iff]

/-- Two callers publish on a channel that the first one opened. The broker refuses the event of the
first one and accepts that of the second one. -/
theorem results_truthful_crossedPublishers :
    ∃ final, run? {} crossedPublishers = some final ∧
      final.fulfilled crossedPublishers = [(2, "placed", "second")] ∧
      final.result? 1 = some (.error (.publish "refused")) ∧
      ResultsTruthful crossedPublishers final :=
  ⟨_, rfl, rfl, rfl, results_truthful rfl⟩

end Connection

end OutboxRelay.Broker

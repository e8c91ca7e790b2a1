import OutboxRelay.Proofs.Outbox.Uniqueness

/-!
# Turns of a store in memory

What a store in memory goes through: calls of clients, one after the other, and between them orders
to let the next commit or the next poll fail. The calls of several clients are those of one client
who has all their sessions, because a call has the store for itself.

What a turn can do is said once. Rows and messages change in two ways only: a session that is
accepted is applied, or an outcome is recorded with one message, in its place.
-/

namespace OutboxRelay.Outbox

/-- Whether a call looks at the outbox. -/
def Call.reads {ω : Type} : Call ω → Bool
  | .getUnprocessed _ | .getRetryable _ _ | .getExhausted _ _ => true
  | _ => false

/-- Whether a call records something with a message of the outbox. -/
def Call.records {ω : Type} : Call ω → Bool
  | .markAsProcessed _ | .markAsFailed _ _ _ | .resetRetries _ => true
  | _ => false

/-- The session that a call works in or ends. -/
def Call.session? {ω : Type} : Call ω → Option Nat
  | .add number _ | .write number _ | .commit number | .abandon number => some number
  | _ => none

/-- Whether a call failed. -/
def Answer.failed : Answer → Bool
  | .done (.error _) | .pending (.error _) | .messages (.error _) => true
  | _ => false

namespace Memory

/-- A call of a client, or an order to fail. -/
inductive Turn where
  | call (call : Call StagedRow)
  /-- The next commit is to fail. -/
  | failNextCommit
  /-- The next poll is to fail. -/
  | failNextFetch

/-- The memory of a store changed from outside. -/
def within (client : Client) (change : Memory → Memory) : Client :=
  { client with world := { client.world with state := change client.world.state } }

/-- What a turn does: a call is performed, and a switch is set. Setting a switch always succeeds. -/
def take (client : Client) : Turn → Answer × Client
  | .call call => client.perform store Session.write call
  | .failNextCommit => (.done (.ok ()), within client ({ · with failNextCommit := true }))
  | .failNextFetch => (.done (.ok ()), within client ({ · with failNextFetch := true }))

/-- What one turn did, with the client before and after it. -/
structure Occurrence where
  before : Client
  turn : Turn
  answer : Answer
  after : Client

/-- A turn that is taken. -/
def occurrence (client : Client) (turn : Turn) : Occurrence :=
  ⟨client, turn, (take client turn).1, (take client turn).2⟩

/-- What turns did that were taken one after the other. -/
def occurrences : Client → List Turn → List Occurrence
  | _, [] => []
  | client, turn :: turns => occurrence client turn :: occurrences (take client turn).2 turns

/-- Where turns lead that are taken one after the other, whatever they answer. -/
def after (client : Client) (turns : List Turn) : Client :=
  turns.foldl (fun client turn => (take client turn).2) client

theorem after_append (client : Client) (first later : List Turn) :
    after client (first ++ later) = after (after client first) later :=
  List.foldl_append

/-- What happened is what some turn did where the turns before it had led. -/
theorem exists_of_mem_occurrences {client : Client} {turns : List Turn} {event : Occurrence}
    (among : event ∈ occurrences client turns) :
    ∃ front turn back, turns = front ++ turn :: back ∧
      event = occurrence (after client front) turn := by
  induction turns generalizing client with
  | nil => cases among
  | cons turn turns inductionHypothesis =>
    rcases List.mem_cons.mp among with rfl | later
    · exact ⟨[], turn, turns, rfl, rfl⟩
    · obtain ⟨front, other, back, rfl, same⟩ := inductionHypothesis later
      exact ⟨turn :: front, other, back, rfl, same⟩

/-- What holds of all that happened so far and of the client, and survives each of some turns as one
more that was taken, holds of all that happens and where the turns lead. Invariants that speak of
the past are carried along a run by this one induction. -/
theorem accumulate {holds : List Occurrence → Client → Prop} {turns : List Turn}
    (kept : ∀ done client, ∀ turn ∈ turns, holds done client →
      holds (done ++ [occurrence client turn]) (take client turn).2)
    {done : List Occurrence} {client : Client} (reached : holds done client) :
    holds (done ++ occurrences client turns) (after client turns) := by
  induction turns generalizing done client with
  | nil => rwa [occurrences, List.append_nil]
  | cons turn turns inductionHypothesis =>
    rw [occurrences, List.append_cons]
    exact inductionHypothesis
      (fun done client turn among => kept done client turn (List.mem_cons_of_mem _ among))
      (kept done client turn List.mem_cons_self reached)

/-! ### What a turn can do -/

/-- What a call that records something makes of the message that it concerns. The call names the
message by its identifier, and which of several messages of that name is concerned is left open. -/
inductive Fate : Call StagedRow → Message → Message → Prop where
  | processed (message : Message) (now : Instant) :
    Fate (.markAsProcessed message.id) message (message.processedAt now)
  | failed (message : Message) (error : String) (retryCount : Int) :
    Fate (.markAsFailed message.id error retryCount) message (message.failedWith error retryCount)
  | reset (message : Message) (unprocessed : message.isProcessed = false) :
    Fate (.resetRetries message.id) message message.reset

/-- What a turn can be, with the answer and the client after it. A case says all that changes, so
what it does not mention stays. -/
inductive Takes (client : Client) : Turn → Answer → Client → Prop where
  | begun : Takes client (.call .begin) (.done (.ok ()))
      { client with sessions := client.sessions ++ [some {}] }
  /-- There is no such session. -/
  | missing {call : Call StagedRow} {number : Nat} (within : call.session? = some number)
      (gone : client.session? number = none) : Takes client (.call call) .noSession client
  | added {number : Nat} {session : Session} (here : client.session? number = some session)
      (message : Message) :
    Takes client (.call (.add number message)) (.done (.ok ()))
      { client with sessions := client.sessions.set number (some (session.add message)) }
  | wrote {number : Nat} {session : Session} (here : client.session? number = some session)
      (row : StagedRow) :
    Takes client (.call (.write number row)) (.done (.ok ()))
      { client with sessions := client.sessions.set number (some (session.write row)) }
  | accepted {number : Nat} {session : Session} (here : client.session? number = some session)
      (accepts : client.world.state.commit session = (.ok (), client.world.state.apply session)) :
    Takes client (.call (.commit number)) (.done (.ok ()))
      { world := { client.world with state := client.world.state.apply session }
        sessions := client.sessions.set number none }
  /-- A commit that fails changes no more than the switch that made it fail. -/
  | refused {number : Nat} {session : Session} {error : Error}
      (here : client.session? number = some session) (failNextCommit : Bool) :
    Takes client (.call (.commit number)) (.done (.error error))
      { world := { client.world with state := { client.world.state with failNextCommit } }
        sessions := client.sessions.set number none }
  | abandoned {number : Nat} {session : Session} (here : client.session? number = some session) :
    Takes client (.call (.abandon number)) (.done (.ok ()))
      { client with sessions := client.sessions.set number none }
  /-- A look at the outbox changes no more than the switch that makes it fail. -/
  | looked {call : Call StagedRow} (reads : call.reads = true) (answer : Answer)
      (failNextFetch : Bool) :
    Takes client (.call call) answer (within client ({ · with failNextFetch }))
  /-- Something is recorded with a message, in its place. -/
  | recorded {call : Call StagedRow} {position : Nat} {message later : Message}
      {world : World Memory} (there : client.world.state.outbox[position]? = some message)
      (fate : Fate call message later)
      (state : world.state =
        { client.world.state with outbox := client.world.state.outbox.set position later }) :
    Takes client (.call call) (.done (.ok ())) { client with world }
  /-- There is no such message. -/
  | unfound {call : Call StagedRow} {world : World Memory} {error : Error}
      (records : call.records = true) (state : world.state = client.world.state) :
    Takes client (.call call) (.done (.error error)) { client with world }
  | orderedCommitFailure : Takes client .failNextCommit (.done (.ok ()))
      (within client ({ · with failNextCommit := true }))
  | orderedFetchFailure : Takes client .failNextFetch (.done (.ok ()))
      (within client ({ · with failNextFetch := true }))

/-- An update changes a message that satisfies the condition, in its place, or finds none and
changes nothing. -/
theorem update_cases (id : Identifier) (condition : Message → Bool) (change : Message → Message)
    (memory : Memory) :
    (∃ position message, memory.outbox[position]? = some message ∧ condition message = true ∧
      memory.update id condition change =
        (.ok (), { memory with outbox := memory.outbox.set position (change message) })) ∨
      memory.update id condition change = (.error (.notFound id), memory) := by
  unfold update
  cases found : changeFirst? condition change memory.outbox with
  | none => exact Or.inr rfl
  | some outbox =>
    obtain ⟨front, message, back, whole, holds, rfl⟩ := changeFirst?_eq_some found
    refine Or.inl ⟨front.length, message, ?_, holds, ?_⟩
    · simp [whole]
    · simp [whole]

/-- A commit is accepted and applies its session, or fails and changes no more than a switch. -/
theorem commit_cases (session : Session) (memory : Memory) :
    memory.commit session = (.ok (), memory.apply session) ∨
      ∃ error failNextCommit,
        memory.commit session = (.error error, { memory with failNextCommit }) := by
  unfold commit
  split
  · exact Or.inr ⟨_, false, rfl⟩
  · split
    · exact Or.inr ⟨_, memory.failNextCommit, rfl⟩
    · exact Or.inl rfl

/-- A poll changes no more than the switch that makes it fail. -/
theorem poll_cases (limit : Int) (eligible : Message → Bool) (memory : Memory) :
    ∃ failNextFetch, (memory.poll limit eligible).2 = { memory with failNextFetch } := by
  unfold poll
  split
  · exact ⟨false, rfl⟩
  · exact ⟨memory.failNextFetch, rfl⟩

/-- A call that records something with the messages that satisfy a condition. The three kinds of
records differ in the condition and in the change alone. -/
theorem takes_update {client : Client} {call : Call StagedRow} {id : Identifier}
    {condition : Message → Bool} {change : Message → Message} {world : World Memory}
    (records : call.records = true)
    (fate : ∀ message, condition message = true → Fate call message (change message))
    (performs : client.perform store Session.write call =
      (.done (client.world.state.update id condition change).1, { client with world }))
    (state : world.state = (client.world.state.update id condition change).2) :
    Takes client (.call call) (take client (.call call)).1 (take client (.call call)).2 := by
  rw [take, performs]
  rcases update_cases id condition change client.world.state with
    ⟨position, message, there, holds, updated⟩ | unfound
  · rw [updated] at state ⊢
    exact .recorded there (fate message holds) state
  · rw [unfound] at state ⊢
    exact .unfound records state

/-- A call that polls the messages that are eligible. The kinds of polls differ in what is eligible
and in the answer they give. -/
theorem takes_poll {client : Client} {call : Call StagedRow} {limit : Int}
    {eligible : Message → Bool} (reads : call.reads = true)
    (performs : client.perform store Session.write call =
      (.pending (client.world.state.poll limit eligible).1,
        within client fun memory => (memory.poll limit eligible).2)) :
    Takes client (.call call) (take client (.call call)).1 (take client (.call call)).2 := by
  obtain ⟨failNextFetch, polled⟩ := poll_cases limit eligible client.world.state
  rw [take, performs, within, polled]
  exact .looked reads _ failNextFetch

/-- A turn is one of those. All that is proved of runs looks at the calls of the store through this
lemma and does not open them again. -/
theorem takes_take (client : Client) (turn : Turn) :
    Takes client turn (take client turn).1 (take client turn).2 := by
  cases turn with
  | failNextCommit => exact .orderedCommitFailure
  | failNextFetch => exact .orderedFetchFailure
  | call call =>
    have gone {number : Nat} (within : call.session? = some number)
        (missing : client.session? number = none)
        (performs : client.perform store Session.write call = (.noSession, client)) :
        Takes client (.call call) (take client (.call call)).1 (take client (.call call)).2 := by
      rw [take, performs]
      exact .missing within missing
    cases call with
    | begin => exact .begun
    | add number message =>
      cases here : client.session? number with
      | none => exact gone rfl here (Client.within_missing here _)
      | some session =>
        rw [take, perform_add here]
        exact .added here message
    | write number row =>
      cases here : client.session? number with
      | none =>
        apply gone rfl here
        rw [Client.perform]
        exact Client.within_missing here _
      | some session =>
        rw [take, perform_write here]
        exact .wrote here row
    | commit number =>
      cases here : client.session? number with
      | none => exact gone rfl here (Client.finish_missing here _)
      | some session =>
        rw [take, perform_commit here]
        rcases commit_cases session client.world.state with accepts | ⟨error, flag, refuses⟩
        · rw [accepts]
          exact .accepted here accepts
        · rw [refuses]
          exact .refused here flag
    | abandon number =>
      cases here : client.session? number with
      | none => exact gone rfl here (Client.finish_missing here _)
      | some session =>
        rw [take, perform_abandon here]
        exact .abandoned here
    | getUnprocessed limit => exact takes_poll rfl rfl
    | getRetryable limit ceiling => exact takes_poll rfl rfl
    | getExhausted limit ceiling => exact .looked rfl _ client.world.state.failNextFetch
    | markAsProcessed id =>
      refine takes_update rfl (fun message same => ?_) rfl rfl
      cases eq_of_beq same
      exact .processed message _
    | markAsFailed id error retryCount =>
      refine takes_update rfl (fun message same => ?_) rfl rfl
      cases eq_of_beq same
      exact .failed message error retryCount
    | resetRetries id =>
      refine takes_update rfl (fun message waiting => ?_) rfl rfl
      obtain ⟨same, unprocessed⟩ := Bool.and_eq_true_iff.mp waiting
      cases eq_of_beq same
      exact .reset message (by simpa using unprocessed)

end Memory

end OutboxRelay.Outbox

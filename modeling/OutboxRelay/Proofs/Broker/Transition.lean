import OutboxRelay.Broker.Connection

/-!
# Transitions of a connection

What a move of a shared connection can be, said once: one transition for each stage from which a
caller can be taken on and each way in which that can go. A run is the list of its steps, each of
which begins in the state in which the one before it ended.

The reconnect lock is kept in order by every transition. The callers at a stage of the reconnection
are those that hold the lock, of whom there is at most one, and the callers that are queued are
those in the queue, each of them once.
-/

namespace OutboxRelay.Broker

variable {ρ : Type}

/-- Whether a caller at this stage holds the reconnect lock. It is held from the second look at the
cache until that finds a channel, the new channel is cached or the attempt has failed. -/
def Stage.holds : Stage → Bool
  | .rechecking | .retiring | .connecting | .declaring _ | .storing _ => true
  | _ => false

/-- Whether a caller at this stage waits for the reconnect lock. -/
def Stage.waits : Stage → Bool
  | .queued => true
  | _ => false

/-- The declared channel that a caller at this stage works with or returned. A channel that is still
being declared is not offered to anybody. -/
def Stage.offered? : Stage → Option ChannelId
  | .storing channel | .ready channel | .publishing channel => some channel
  | .discarding channel _ => some channel
  | .finished (.ok channel) => some channel
  | _ => none

/-- The failure that a caller at this stage returned or is about to return. -/
def Stage.failure? : Stage → Option Error
  | .discarding _ error => some error
  | .finished (.error error) => some error
  | _ => none

/-- The caller that a move takes on. -/
def Move.caller? : Move ρ → Option CallerId
  | .call caller _ | .proceed caller | .reply caller _ _ => some caller
  | .setOpen .. => none

namespace Connection

/-! ### Parts of a state that operations leave alone -/

section

variable (caller : CallerId) (stage : Stage) (call : Call ρ) (connection : Connection ρ)

@[grind =] theorem stages_moveTo (other : CallerId) :
    (connection.moveTo caller stage).stages other =
      if other = caller then stage else connection.stages other := rfl

@[simp, grind =] theorem requests_moveTo :
    (connection.moveTo caller stage).requests = connection.requests := rfl

@[simp, grind =] theorem cached_moveTo :
    (connection.moveTo caller stage).cached = connection.cached := rfl

@[simp] theorem holder_moveTo : (connection.moveTo caller stage).holder = connection.holder := rfl

@[simp] theorem queue_moveTo : (connection.moveTo caller stage).queue = connection.queue := rfl

@[simp, grind =] theorem channels_moveTo :
    (connection.moveTo caller stage).channels = connection.channels := rfl

@[simp, grind =] theorem calls_moveTo :
    (connection.moveTo caller stage).calls = connection.calls := rfl

@[simp, grind =] theorem stages_noteCall (other : CallerId) :
    (connection.noteCall call).stages other = connection.stages other := rfl

@[simp, grind =] theorem requests_noteCall :
    (connection.noteCall call).requests = connection.requests := rfl

@[simp, grind =] theorem cached_noteCall :
    (connection.noteCall call).cached = connection.cached := rfl

@[simp] theorem holder_noteCall : (connection.noteCall call).holder = connection.holder := rfl

@[simp] theorem queue_noteCall : (connection.noteCall call).queue = connection.queue := rfl

@[simp, grind =] theorem channels_noteCall :
    (connection.noteCall call).channels = connection.channels := rfl

@[simp, grind =] theorem calls_noteCall :
    (connection.noteCall call).calls = connection.calls ++ [call] := rfl

@[simp, grind =] theorem requests_release :
    connection.release.requests = connection.requests := by
  unfold release
  split <;> rfl

@[simp, grind =] theorem cached_release : connection.release.cached = connection.cached := by
  unfold release
  split <;> rfl

@[simp, grind =] theorem channels_release : connection.release.channels = connection.channels := by
  unfold release
  split <;> rfl

@[simp, grind =] theorem calls_release : connection.release.calls = connection.calls := by
  unfold release
  split <;> rfl

/-- The lock goes to the first in the queue. -/
theorem holder_release : connection.release.holder = connection.queue.head? := by
  unfold release
  split <;> simp_all

theorem queue_release : connection.release.queue = connection.queue.tail := by
  unfold release
  split <;> simp_all

/-- Whoever is given the lock looks again; all others stay where they are. -/
@[grind =] theorem stages_release (other : CallerId) : connection.release.stages other =
    if connection.queue.head? = some other then .rechecking else connection.stages other := by
  unfold release
  split
  · next empty => simp [empty]
  · next next rest waiting => simp [waiting, moveTo, eq_comm]

end

theorem openChannel?_eq_some {connection : Connection ρ} {channel : ChannelId}
    (found : connection.openChannel? = some channel) :
    connection.cached = some channel ∧ connection.isOpen channel = true :=
  Option.filter_eq_some_iff.mp found

/-! ### Transitions -/

/-- What a move can be. There is one case for each stage from which a caller can be taken on and
each way in which that can go, and the case says all that changes. -/
inductive Transition (before : Connection ρ) : Move ρ → Connection ρ → Prop where
  | called {caller : CallerId} {request : Request ρ} (idle : before.stages caller = .idle) :
    Transition before (.call caller request)
      ({ before with
        requests := fun other => if other = caller then request else before.requests other
        }.moveTo caller .looking)
  /-- The cached channel is open. -/
  | found {caller : CallerId} {channel : ChannelId} (looking : before.stages caller = .looking)
      (usable : before.openChannel? = some channel) :
    Transition before (.proceed caller) (before.moveTo caller (.ready channel))
  | missed {caller : CallerId} (looking : before.stages caller = .looking)
      (unusable : before.openChannel? = none) :
    Transition before (.proceed caller) (before.moveTo caller .arriving)
  | locked {caller : CallerId} (arriving : before.stages caller = .arriving)
      (free : before.holder = none) :
    Transition before (.proceed caller)
      ({ before with holder := some caller }.moveTo caller .rechecking)
  | queued {caller holder : CallerId} (arriving : before.stages caller = .arriving)
      (held : before.holder = some holder) :
    Transition before (.proceed caller)
      ({ before with queue := before.queue ++ [caller] }.moveTo caller .queued)
  /-- Somebody else has reconnected. -/
  | spared {caller : CallerId} {channel : ChannelId}
      (rechecking : before.stages caller = .rechecking)
      (usable : before.openChannel? = some channel) :
    Transition before (.proceed caller) (before.release.moveTo caller (.ready channel))
  | stale {caller : CallerId} (rechecking : before.stages caller = .rechecking)
      (unusable : before.openChannel? = none) :
    Transition before (.proceed caller) (before.moveTo caller .retiring)
  /-- A connect call begins. -/
  | connect {caller : CallerId} (retiring : before.stages caller = .retiring) :
    Transition before (.proceed caller)
      (({ before with cached := none }.moveTo caller .connecting).noteCall .connect)
  | stored {caller : CallerId} {channel : ChannelId}
      (storing : before.stages caller = .storing channel) :
    Transition before (.proceed caller)
      ({ before with cached := some channel }.release.moveTo caller (.ready channel))
  | returned {caller : CallerId} {channel : ChannelId}
      (ready : before.stages caller = .ready channel)
      (asked : before.requests caller = .channel) :
    Transition before (.proceed caller) (before.moveTo caller (.finished (.ok channel)))
  /-- A publish call begins. -/
  | publish {caller : CallerId} {channel : ChannelId} {eventType : String} {payload : ρ}
      (ready : before.stages caller = .ready channel)
      (asked : before.requests caller = .publish eventType payload) :
    Transition before (.proceed caller)
      ((before.moveTo caller (.publishing channel)).noteCall
        (.publish channel (.forEvent eventType) payload))
  | discarded {caller : CallerId} {channel : ChannelId} {error : Error}
      (discarding : before.stages caller = .discarding channel error) :
    Transition before (.proceed caller)
      ({ before with
        cached := if before.cached = some channel then none else before.cached
        }.moveTo caller (.finished (.error error)))
  /-- A connect call ends well, and the declare call for its channel begins. -/
  | connected {caller : CallerId} {bornOpen : Bool}
      (connecting : before.stages caller = .connecting) :
    Transition before (.reply caller none bornOpen)
      (({ before with channels := before.channels ++ [bornOpen] }.moveTo caller
        (.declaring (before.channels.length + 1))).noteCall
        (.declare (before.channels.length + 1)))
  | unconnected {caller : CallerId} {bornOpen : Bool} {error : Error}
      (connecting : before.stages caller = .connecting) :
    Transition before (.reply caller (some error) bornOpen)
      (before.release.moveTo caller (.finished (.error error)))
  | declared {caller : CallerId} {bornOpen : Bool} {channel : ChannelId}
      (declaring : before.stages caller = .declaring channel) :
    Transition before (.reply caller none bornOpen) (before.moveTo caller (.storing channel))
  | undeclared {caller : CallerId} {bornOpen : Bool} {channel : ChannelId} {error : Error}
      (declaring : before.stages caller = .declaring channel) :
    Transition before (.reply caller (some error) bornOpen)
      (before.release.moveTo caller (.finished (.error error)))
  | published {caller : CallerId} {bornOpen : Bool} {channel : ChannelId}
      (publishing : before.stages caller = .publishing channel) :
    Transition before (.reply caller none bornOpen)
      (before.moveTo caller (.finished (.ok channel)))
  | refused {caller : CallerId} {bornOpen : Bool} {channel : ChannelId} {error : Error}
      (publishing : before.stages caller = .publishing channel) :
    Transition before (.reply caller (some error) bornOpen)
      (before.moveTo caller (.discarding channel error))
  | changed {index : Nat} {isOpen : Bool} (known : index < before.channels.length) :
    Transition before (.setOpen (index + 1) isOpen)
      { before with channels := before.channels.set index isOpen }

/-- A possible move is a transition. Nothing that is proved of runs looks into `next?` beyond this
lemma. -/
theorem transition_of_next? {before after : Connection ρ} {move : Move ρ}
    (possible : before.next? move = some after) : Transition before move after := by
  cases move with
  | call caller request =>
    simp only [next?] at possible
    split at possible
    · next idle =>
      cases possible
      exact .called idle
    · cases possible
  | proceed caller =>
    simp only [next?, proceed?] at possible
    split at possible
    · next looking =>
      cases usable : before.openChannel? <;> rw [usable] at possible <;> cases possible
      · exact .missed looking usable
      · exact .found looking usable
    · next arriving =>
      unfold requestLock at possible
      split at possible
      · next free =>
        cases possible
        exact .locked arriving free
      · next holder held =>
        cases possible
        exact .queued arriving held
    · next rechecking =>
      cases usable : before.openChannel? <;> rw [usable] at possible <;> cases possible
      · exact .stale rechecking usable
      · exact .spared rechecking usable
    · next retiring =>
      cases possible
      exact .connect retiring
    · next channel storing =>
      cases possible
      exact .stored storing
    · next channel ready =>
      cases asked : before.requests caller <;> rw [asked] at possible <;> cases possible
      · exact .returned ready asked
      · exact .publish ready asked
    · next channel error discarding =>
      cases possible
      exact .discarded discarding
    · cases possible
  | reply caller failure bornOpen =>
    simp only [next?, reply?] at possible
    split at possible
    · next connecting =>
      cases possible
      exact .connected connecting
    · next error connecting =>
      cases possible
      exact .unconnected connecting
    · next channel declaring =>
      cases possible
      exact .declared declaring
    · next channel error declaring =>
      cases possible
      exact .undeclared declaring
    · next channel publishing =>
      cases possible
      exact .published publishing
    · next channel error publishing =>
      cases possible
      exact .refused publishing
    · cases possible
  | setOpen channel isOpen =>
    cases channel with
    | zero => cases possible
    | succ index =>
      simp only [next?, setOpen?] at possible
      split at possible
      · next known =>
        cases possible
        exact .changed known
      · cases possible

/-! ### Runs -/

end Connection

/-- One step of a run. -/
structure Step (ρ : Type) where
  before : Connection ρ
  move : Move ρ
  after : Connection ρ

namespace Connection

/-- The steps of a sequence of moves, as far as the moves are possible. Each of them keeps the
states before and after it, so that facts about a run can speak of its moments. -/
def steps : Connection ρ → List (Move ρ) → List (Step ρ)
  | _, [] => []
  | connection, move :: moves =>
    match connection.next? move with
    | some after => ⟨connection, move, after⟩ :: after.steps moves
    | none => []

/-- A run has a step for each of its moves. -/
theorem map_move_steps {moves : List (Move ρ)} {start final : Connection ρ}
    (run : run? start moves = some final) : (steps start moves).map (·.move) = moves := by
  induction moves generalizing start with
  | nil => rfl
  | cons move moves inductionHypothesis =>
    obtain ⟨after, possible, onward⟩ := Option.bind_eq_some_iff.mp run
    rw [steps, possible]
    exact congrArg (move :: ·) (inductionHypothesis onward)

/-- Steps that lead from one state to another, each from where the one before it ended. Inductions
on runs are inductions on this. -/
inductive Leads : Connection ρ → List (Step ρ) → Connection ρ → Prop where
  | nowhere (connection : Connection ρ) : Leads connection [] connection
  | step {before after final : Connection ρ} {move : Move ρ} {rest : List (Step ρ)}
      (transition : Transition before move after) (onward : Leads after rest final) :
      Leads before (⟨before, move, after⟩ :: rest) final

/-- A run leads to its end. -/
theorem leads_of_run? {moves : List (Move ρ)} {start final : Connection ρ}
    (run : run? start moves = some final) : Leads start (steps start moves) final := by
  induction moves generalizing start with
  | nil =>
    cases run
    exact .nowhere _
  | cons move moves inductionHypothesis =>
    obtain ⟨after, possible, onward⟩ := Option.bind_eq_some_iff.mp run
    rw [steps, possible]
    exact .step (transition_of_next? possible) (inductionHypothesis onward)

/-- Steps that consist of two parts pass through a state between them, so that a run can be cut at
any moment. -/
theorem Leads.split {front back : List (Step ρ)} {start final : Connection ρ}
    (leads : Leads start (front ++ back) final) :
    ∃ middle, Leads start front middle ∧ Leads middle back final := by
  induction front generalizing start with
  | nil => exact ⟨start, .nowhere start, leads⟩
  | cons step front inductionHypothesis =>
    cases leads with
    | step transition onward =>
      obtain ⟨middle, earlier, later⟩ := inductionHypothesis onward
      exact ⟨middle, .step transition earlier, later⟩

/-- Steps may go on where others ended. -/
theorem Leads.append {front back : List (Step ρ)} {start middle final : Connection ρ}
    (earlier : Leads start front middle) (later : Leads middle back final) :
    Leads start (front ++ back) final := by
  induction earlier with
  | nowhere => exact later
  | step transition _ inductionHypothesis => exact .step transition (inductionHypothesis later)

/-- The first of some steps begins at the start and is a transition. -/
theorem Leads.head {step : Step ρ} {rest : List (Step ρ)} {start final : Connection ρ}
    (leads : Leads start (step :: rest) final) :
    step.before = start ∧ Transition step.before step.move step.after ∧
      Leads step.after rest final := by
  cases leads with
  | step transition onward => exact ⟨rfl, transition, onward⟩

/-- What holds of the steps done so far and the state they led to, and survives every transition as
one more step done, holds of all steps and the state at their end.

The induction is on the steps that are left, over all steps done before. -/
theorem Leads.accumulate {holds : List (Step ρ) → Connection ρ → Prop}
    (kept : ∀ {done before after move}, Transition before move after → holds done before →
      holds (done ++ [⟨before, move, after⟩]) after)
    {done steps : List (Step ρ)} {start final : Connection ρ} (leads : Leads start steps final)
    (reached : holds done start) : holds (done ++ steps) final := by
  induction leads generalizing done with
  | nowhere connection => rwa [List.append_nil]
  | step transition _ inductionHypothesis =>
    rw [List.append_cons]
    exact inductionHypothesis (kept transition reached)

/-! ### The reconnect lock -/

/-- The lock and its queue agree with the stages of the callers. The lock is not looked at by what
callers do; its holder is the one caller at a stage of the reconnection. -/
structure Orderly (connection : Connection ρ) : Prop where
  holder : ∀ caller,
    (connection.stages caller).holds = true ↔ connection.holder = some caller
  queue : ∀ caller, (connection.stages caller).waits = true ↔ caller ∈ connection.queue
  once : connection.queue.Nodup
  /-- Nobody waits for a lock that is free. -/
  busy : connection.holder = none → connection.queue = []

theorem orderly_fresh : Orderly ({} : Connection ρ) :=
  ⟨fun _ => by simp [Stage.holds], fun _ => by simp [Stage.waits], List.nodup_nil, fun _ => rfl⟩

section

variable {connection : Connection ρ} {caller : CallerId} {current stage : Stage}

/-- At most one caller holds the lock, since there is one place for a holder. -/
theorem Orderly.alone (orderly : Orderly connection) {first second : CallerId}
    (one : (connection.stages first).holds = true)
    (other : (connection.stages second).holds = true) : first = second := by
  have same := ((orderly.holder first).mp one).symm.trans ((orderly.holder second).mp other)
  exact Option.some.inj same

/-- Who is first in the queue is nowhere else, and so the lock can be handed to it. -/
theorem Orderly.first_queued (orderly : Orderly connection)
    (first : connection.queue.head? = some caller) : connection.stages caller = .queued := by
  have waits := (orderly.queue caller).mpr (List.mem_of_mem_head? first)
  revert waits
  cases connection.stages caller <;> simp [Stage.waits]

/-- The lock does not care about the cache, the channels, the calls and what callers ask for. -/
theorem Orderly.congr {other : Connection ρ} (orderly : Orderly connection)
    (stages : other.stages = connection.stages) (holder : other.holder = connection.holder)
    (queue : other.queue = connection.queue) : Orderly other := by
  refine ⟨?_, ?_, ?_, ?_⟩
  · rw [stages, holder]
    exact orderly.holder
  · rw [stages, queue]
    exact orderly.queue
  · rw [queue]
    exact orderly.once
  · rw [holder, queue]
    exact orderly.busy

/-- A caller may go to a stage with the same share in the lock. -/
theorem Orderly.moveTo (orderly : Orderly connection)
    (here : connection.stages caller = current) (holds : stage.holds = current.holds := by rfl)
    (waits : stage.waits = current.waits := by rfl) :
    Orderly (connection.moveTo caller stage) := by
  rw [← here] at holds waits
  refine ⟨?_, ?_, orderly.once, orderly.busy⟩
  · intro other
    rw [stages_moveTo]
    split
    · next same =>
      subst same
      rw [holds]
      exact orderly.holder _
    · exact orderly.holder other
  · intro other
    rw [stages_moveTo]
    split
    · next same =>
      subst same
      rw [waits]
      exact orderly.queue _
    · exact orderly.queue other

/-- A caller may take the lock if nobody has it. -/
theorem Orderly.take (orderly : Orderly connection)
    (here : connection.stages caller = current) (free : connection.holder = none)
    (idle : current.waits = false := by rfl) :
    Orderly ({ connection with holder := some caller }.moveTo caller .rechecking) := by
  rw [← here] at idle
  have nobody (other : CallerId) : (connection.stages other).holds = false := by
    have holder := orderly.holder other
    rw [free] at holder
    simpa using holder
  refine ⟨?_, ?_, orderly.once, fun none => by cases none⟩
  · intro other
    rw [stages_moveTo]
    split
    · next same => simp [same, Stage.holds]
    · next different => simp [nobody other, Ne.symm different]
  · intro other
    rw [stages_moveTo]
    split
    · next same =>
      subst same
      have absent := orderly.queue other
      rw [idle] at absent
      simpa [Stage.waits] using absent
    · exact orderly.queue other

/-- A caller may queue behind the others while somebody has the lock. -/
theorem Orderly.join (orderly : Orderly connection)
    (here : connection.stages caller = current) (held : connection.holder ≠ none)
    (outside : current.holds = false := by rfl) (idle : current.waits = false := by rfl) :
    Orderly ({ connection with queue := connection.queue ++ [caller] }.moveTo caller .queued) := by
  rw [← here] at outside idle
  have absent : caller ∉ connection.queue := by
    rw [← orderly.queue, idle]
    exact Bool.false_ne_true
  refine ⟨?_, ?_, ?_, fun free => absurd free held⟩
  · intro other
    rw [stages_moveTo]
    split
    · next same =>
      subst same
      have holder := orderly.holder other
      rw [outside] at holder
      simpa [Stage.holds] using holder
    · exact orderly.holder other
  · intro other
    rw [stages_moveTo, queue_moveTo, List.mem_append, List.mem_singleton]
    split
    · next same => simp [same, Stage.waits]
    · next different => simp [different, orderly.queue other]
  · rw [queue_moveTo]
    refine List.nodup_append.mpr ⟨orderly.once, List.pairwise_singleton _ _, ?_⟩
    intro queued among last same both
    rw [List.mem_singleton.mp same] at both
    exact absent (both ▸ among)

/-- The holder may hand the lock on and go to a stage outside. The first in the queue is then the
only one at a stage of the reconnection, and the only one that left the queue. -/
theorem Orderly.release (orderly : Orderly connection)
    (here : connection.stages caller = current) (holding : current.holds = true := by rfl)
    (outside : stage.holds = false := by rfl) (idle : stage.waits = false := by rfl) :
    Orderly (connection.release.moveTo caller stage) := by
  rw [← here] at holding
  have others {other : CallerId} (different : other ≠ caller) :
      (connection.stages other).holds = false := by
    rw [Bool.eq_false_iff]
    exact fun holds => different (orderly.alone holds holding)
  have absent : caller ∉ connection.queue := by
    intro queued
    have waits := (orderly.queue caller).mpr queued
    revert holding waits
    cases connection.stages caller <;> simp [Stage.holds, Stage.waits]
  have queued := orderly.queue
  have once := orderly.once
  constructor
  · intro other
    rw [holder_moveTo, holder_release, stages_moveTo, stages_release]
    split
    · next same =>
      have notFirst : connection.queue.head? ≠ some other := fun first =>
        absent (same ▸ List.mem_of_mem_head? first)
      simp [outside, notFirst]
    · next different =>
      split
      · next first => simp [first, Stage.holds]
      · next later => simp [later, others different]
  · intro other
    rw [queue_moveTo, queue_release, stages_moveTo, stages_release]
    have same := queued other
    cases waiting : connection.queue with
    | nil =>
      rw [waiting] at same
      split
      · simp [idle]
      · simpa using same
    | cons first rest =>
      rw [waiting] at same once absent
      have notAgain := (List.nodup_cons.mp once).1
      split
      · next own =>
        subst own
        simpa [idle] using fun among => absent (List.mem_cons_of_mem first among)
      · next different =>
        split
        · next next_ =>
          cases next_
          simpa [Stage.waits] using notAgain
        · next later =>
          have apart : other ≠ first := fun equal => later (congrArg some equal.symm)
          simpa [apart] using same
  · rw [queue_moveTo, queue_release]
    exact once.tail
  · rw [holder_moveTo, holder_release, queue_moveTo, queue_release]
    intro free
    rw [List.head?_eq_none_iff.mp free]
    rfl

end

/-- Every transition keeps the lock in order. Most of them move a caller between stages with the
same share in the lock; the others take it, join its queue or hand it on. -/
theorem Orderly.step {before after : Connection ρ} {move : Move ρ} (orderly : Orderly before)
    (transition : Transition before move after) : Orderly after := by
  cases transition with
  | called idle => exact (orderly.moveTo idle).congr rfl rfl rfl
  | found looking | missed looking => exact orderly.moveTo looking
  | locked arriving free => exact orderly.take arriving free
  | queued arriving held => exact orderly.join arriving (by simp [held])
  | spared rechecking => exact orderly.release rechecking
  | stale rechecking => exact orderly.moveTo rechecking
  | connect retiring => exact (orderly.moveTo retiring).congr rfl rfl rfl
  | @stored _ channel storing =>
    have cached : Orderly { before with cached := some channel } := orderly.congr rfl rfl rfl
    exact cached.release storing
  | returned ready => exact orderly.moveTo ready
  | publish ready => exact (orderly.moveTo ready).congr rfl rfl rfl
  | discarded discarding => exact (orderly.moveTo discarding).congr rfl rfl rfl
  | connected connecting => exact (orderly.moveTo connecting).congr rfl rfl rfl
  | unconnected connecting => exact orderly.release connecting
  | declared declaring => exact orderly.moveTo declaring
  | undeclared declaring => exact orderly.release declaring
  | published publishing | refused publishing => exact orderly.moveTo publishing
  | changed => exact orderly.congr rfl rfl rfl

/-- Nobody but the caller that moves is taken on, except that the lock may be handed to somebody who
waits for it. What is known of a caller therefore survives the moves of others. -/
theorem Transition.bystander {before after : Connection ρ} {move : Move ρ} {caller : CallerId}
    (transition : Transition before move after) (orderly : Orderly before)
    (moves : move.caller? ≠ some caller) :
    after.requests caller = before.requests caller ∧
      (after.stages caller = before.stages caller ∨
        before.stages caller = .queued ∧ after.stages caller = .rechecking) := by
  have := @orderly.first_queued
  cases transition <;> grind [Move.caller?]

end Connection

end OutboxRelay.Broker

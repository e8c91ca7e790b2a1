import OutboxRelay.Proofs.Outbox.Turns

/-!
# Histories of messages

What becomes of a message in the outbox, whatever clients do with the store. It keeps its place and
all that was added with it. The time of its first publish stays. Its retry count falls only when it
is reset before it is processed, and then its error goes as well; once it is processed, neither its
count falls nor its error goes.

A later state of a message descends from an earlier one. To descend is reflexive and transitive, so
that what a single turn leaves of a message decides about all runs.
-/

namespace OutboxRelay.Outbox.Memory

/-- The message at a position was reset, and was not processed before that. Such a reset takes the
count to zero and the error away. -/
def Occurrence.Resets (position : Nat) (event : Occurrence) : Prop :=
  ∃ message later, event.before.world.state.outbox[position]? = some message ∧
    message.isProcessed = false ∧ event.turn = .call (.resetRetries message.id) ∧
    event.answer = .done (.ok ()) ∧
    event.after.world.state.outbox[position]? = some later ∧
    later.retryCount = 0 ∧ later.error = none

/-- What the message at a position keeps while something happens. The events stand in the relation
because one thing depends on them: whether the count may have fallen. -/
structure Descends (events : List Occurrence) (position : Nat) (earlier later : Message) :
    Prop where
  id : later.id = earlier.id
  eventType : later.eventType = earlier.eventType
  content : later.content = earlier.content
  occurredOn : later.occurredOn = earlier.occurredOn
  processedOn : ∀ instant, earlier.processedOn = some instant → later.processedOn = some instant
  /-- Only a reset of the message lowers its count. -/
  lowered : later.retryCount < earlier.retryCount → ∃ event ∈ events, event.Resets position
  settled : earlier.isProcessed = true → earlier.retryCount ≤ later.retryCount ∧
    (earlier.error.isSome = true → later.error.isSome = true)

theorem descends_refl (events : List Occurrence) (position : Nat) (message : Message) :
    Descends events position message message where
  id := rfl
  eventType := rfl
  content := rfl
  occurredOn := rfl
  processedOn := fun _ set => set
  lowered := fun lower => absurd lower (Int.lt_irrefl _)
  settled := fun _ => ⟨Int.le_refl _, fun error => error⟩

theorem Descends.trans {first second : List Occurrence} {position : Nat}
    {earlier middle later : Message} (begun : Descends first position earlier middle)
    (continued : Descends second position middle later) :
    Descends (first ++ second) position earlier later where
  id := continued.id.trans begun.id
  eventType := continued.eventType.trans begun.eventType
  content := continued.content.trans begun.content
  occurredOn := continued.occurredOn.trans begun.occurredOn
  processedOn := fun instant set => continued.processedOn instant (begun.processedOn instant set)
  lowered := by
    intro lower
    by_cases already : middle.retryCount < earlier.retryCount
    · obtain ⟨event, among, resets⟩ := begun.lowered already
      exact ⟨event, List.mem_append_left _ among, resets⟩
    · have now : later.retryCount < middle.retryCount :=
        Int.lt_of_lt_of_le lower (Int.not_lt.mp already)
      obtain ⟨event, among, resets⟩ := continued.lowered now
      exact ⟨event, List.mem_append_right _ among, resets⟩
  settled := by
    intro processed
    obtain ⟨instant, set⟩ := Option.isSome_iff_exists.mp processed
    have stays : middle.isProcessed = true :=
      Option.isSome_iff_exists.mpr ⟨instant, begun.processedOn instant set⟩
    obtain ⟨count, error⟩ := begun.settled processed
    obtain ⟨countLater, errorLater⟩ := continued.settled stays
    exact ⟨Int.le_trans count countLater, fun failed => errorLater (error failed)⟩

variable {client next : Client} {turn : Turn} {answer : Answer}

/-! ### One turn -/

/-- A message that something is recorded with descends to what is made of it. Only a reset lowers
its count, and it is refused for a message that is processed.

The cases are those of `Fate`. A mark as processed sets a time that was not there, a failure takes
the larger count. -/
theorem Fate.descends {call : Call StagedRow} {message later : Message}
    (fate : Fate call message later) {position : Nat} {event : Occurrence}
    (turn : event.turn = .call call) (answer : event.answer = .done (.ok ()))
    (before : event.before.world.state.outbox[position]? = some message)
    (after : event.after.world.state.outbox[position]? = some later) :
    Descends [event] position message later := by
  cases fate with
  | processed message now =>
    refine { descends_refl [event] position message with processedOn := ?_ }
    intro instant set
    simp [Message.processedAt, set]
  | failed message error retryCount =>
    have grows : message.retryCount ≤ (message.failedWith error retryCount).retryCount :=
      Int.le_max_left _ _
    refine { descends_refl [event] position message with lowered := ?_, settled := ?_ }
    · exact fun lower => absurd lower (Int.not_lt.mpr grows)
    · exact fun _ => ⟨grows, fun _ => rfl⟩
  | reset message unprocessed =>
    refine { descends_refl [event] position message with lowered := ?_, settled := ?_ }
    · intro
      exact ⟨event, List.mem_singleton_self _, message, _, before, unprocessed, turn, answer,
        after, rfl, rfl⟩
    · intro processed
      rw [unprocessed] at processed
      cases processed

/-- A turn leaves every message in its place, as one that descends from it. Most turns leave the
message itself; an accepted commit only appends, and a record concerns one place. -/
theorem Takes.descends (takes : Takes client turn answer next) {position : Nat} {message : Message}
    (there : client.world.state.outbox[position]? = some message) :
    ∃ later, next.world.state.outbox[position]? = some later ∧
      Descends [⟨client, turn, answer, next⟩] position message later := by
  have kept (stays : next.world.state.outbox[position]? = some message) :
      ∃ later, next.world.state.outbox[position]? = some later ∧
        Descends [⟨client, turn, answer, next⟩] position message later :=
    ⟨message, stays, descends_refl _ position message⟩
  cases takes with
  | accepted here accepts =>
    apply kept
    obtain ⟨inside, -⟩ := List.getElem?_eq_some_iff.mp there
    exact (List.getElem?_append_left inside).trans there
  | @recorded call place changing later world found fate state =>
    obtain ⟨inside, -⟩ := List.getElem?_eq_some_iff.mp found
    by_cases same : place = position
    · subst same
      cases found.symm.trans there
      have changed : world.state.outbox[place]? = some later := by
        rw [state]
        exact List.getElem?_set_self inside
      exact ⟨later, changed, fate.descends rfl rfl there changed⟩
    · apply kept
      rw [state]
      exact (List.getElem?_set_ne same).trans there
  | unfound records state => exact kept (state ▸ there)
  | _ => exact kept there

/-- An open session is as it was, new, or what the last call within it made of it. No call reaches
into the session of another one. -/
theorem Takes.session? (takes : Takes client turn answer next) {number : Nat} {session : Session}
    (here : next.session? number = some session) :
    client.session? number = some session ∨ session = {} ∨
      (∃ earlier message, client.session? number = some earlier ∧ session = earlier.add message) ∨
      ∃ earlier row, client.session? number = some earlier ∧ session = earlier.write row := by
  have set {changing : Nat} {earlier : Session} {world : World Memory} {changed : Option Session}
      (opened : client.session? changing = some earlier)
      (here : Client.session?
        { world, sessions := client.sessions.set changing changed } number = some session) :
      number = changing ∧ changed = some session ∨ client.session? number = some session := by
    rw [Client.session?_set (Client.lt_of_session? opened)] at here
    split at here
    · next same => exact Or.inl ⟨same, here⟩
    · exact Or.inr here
  cases takes with
  | begun =>
    rw [Client.session?_append] at here
    split at here
    · exact Or.inr (Or.inl (Option.some.inj here).symm)
    · exact Or.inl here
  | added opened message =>
    rcases set opened here with ⟨rfl, same⟩ | still
    · exact Or.inr (Or.inr (Or.inl ⟨_, message, opened, (Option.some.inj same).symm⟩))
    · exact Or.inl still
  | wrote opened row =>
    rcases set opened here with ⟨rfl, same⟩ | still
    · exact Or.inr (Or.inr (Or.inr ⟨_, row, opened, (Option.some.inj same).symm⟩))
    · exact Or.inl still
  | accepted opened | refused opened | abandoned opened =>
    rcases set opened here with ⟨rfl, gone⟩ | still
    · cases gone
    · exact Or.inl still
  | _ => exact Or.inl here

/-- No retry count is negative, in the outbox or in an open session. -/
structure Counted (client : Client) : Prop where
  outbox : ∀ message ∈ client.world.state.outbox, 0 ≤ message.retryCount
  staged : ∀ number session, client.session? number = some session →
    ∀ message ∈ session.outbox, 0 ≤ message.retryCount

theorem Fate.counted {call : Call StagedRow} {message later : Message}
    (fate : Fate call message later) (counted : 0 ≤ message.retryCount) :
    0 ≤ later.retryCount := by
  cases fate with
  | processed => exact counted
  | failed => exact Int.le_trans counted (Int.le_max_left _ _)
  | reset => exact Int.le_refl _

/-- A message is added with no attempt behind it, and no record makes a count negative. For the
outbox to stay so, the open sessions have to be in the invariant: what they staged comes there
next. -/
theorem Takes.counted (takes : Takes client turn answer next) (counted : Counted client) :
    Counted next where
  outbox := by
    intro message among
    cases takes with
    | accepted here accepts =>
      rcases List.mem_append.mp among with old | new
      · exact counted.outbox message old
      · exact counted.staged _ _ here message new
    | recorded there fate state =>
      rw [state] at among
      rcases List.mem_or_eq_of_mem_set among with old | rfl
      · exact counted.outbox message old
      · exact fate.counted (counted.outbox _ (List.mem_of_getElem? there))
    | unfound records state => exact counted.outbox message (state ▸ among)
    | _ => exact counted.outbox message among
  staged := by
    intro number session here message among
    rcases takes.session? here with still | rfl | ⟨earlier, new, opened, rfl⟩ |
      ⟨earlier, row, opened, rfl⟩
    · exact counted.staged number session still message among
    · cases among
    · rcases List.mem_append.mp among with old | last
      · exact counted.staged number earlier opened message old
      · rw [List.mem_singleton.mp last]
        exact Int.le_refl 0
    · exact counted.staged number earlier opened message among

/-- A call that fails changes no more than switches, so that whoever gets an error finds the store
as it was. -/
theorem Takes.failed (takes : Takes client turn answer next) (failed : answer.failed = true) :
    next.world.state.rows = client.world.state.rows ∧
      next.world.state.outbox = client.world.state.outbox ∧
      next.world.state.commits = client.world.state.commits := by
  cases takes with
  | accepted | recorded => cases failed
  | unfound records state => exact state ▸ ⟨rfl, rfl, rfl⟩
  | _ => exact ⟨rfl, rfl, rfl⟩

/-- A call that records something concerns one place in the outbox. If it found no message, it
concerns none, and any place will do. -/
theorem Takes.single {call : Call StagedRow} (takes : Takes client (.call call) answer next)
    (records : call.records = true) :
    next.world.state.rows = client.world.state.rows ∧
      next.world.state.commits = client.world.state.commits ∧
      ∃ position, ∀ other : Nat, other ≠ position →
        next.world.state.outbox[other]? = client.world.state.outbox[other]? := by
  cases takes with
  | @recorded _ position message later world there fate state =>
    rw [state]
    exact ⟨rfl, rfl, position, fun other different => List.getElem?_set_ne (Ne.symm different)⟩
  | unfound records state =>
    rw [state]
    exact ⟨rfl, rfl, 0, fun _ _ => rfl⟩
  | accepted => cases records
  | _ => exact ⟨rfl, rfl, 0, fun _ _ => rfl⟩

/-! ### Runs -/

/-- Whatever happens leaves every message in its place, as one that descends from it.

Proof: by induction on the turns. The first turn descends by `Takes.descends`, the others by
hypothesis, and `Descends.trans` joins the two along the middle message. -/
theorem descends_after (turns : List Turn) {client : Client} {position : Nat} {message : Message}
    (there : client.world.state.outbox[position]? = some message) :
    ∃ later, (after client turns).world.state.outbox[position]? = some later ∧
      Descends (occurrences client turns) position message later := by
  induction turns generalizing client message with
  | nil => exact ⟨message, there, descends_refl _ position message⟩
  | cons turn turns inductionHypothesis =>
    obtain ⟨middle, thereNow, begun⟩ := (takes_take client turn).descends there
    obtain ⟨later, thereLater, continued⟩ := inductionHypothesis thereNow
    exact ⟨later, thereLater, begun.trans continued⟩

/-- No run of turns makes a count negative, by induction on the turns. -/
theorem counted_after (turns : List Turn) {client : Client} (counted : Counted client) :
    Counted (after client turns) := by
  induction turns generalizing client with
  | nil => exact counted
  | cons turn turns inductionHypothesis =>
    exact inductionHypothesis ((takes_take client turn).counted counted)

/-- A client of a new store, which holds no rows and no messages and is to fail in nothing. -/
def opened (ids : Nat → Identifier) (clock : Nat → Instant) : Client where
  world := { ids, clock, state := {} }

theorem counted_opened (ids : Nat → Identifier) (clock : Nat → Instant) :
    Counted (opened ids clock) :=
  ⟨nofun, nofun⟩

/-- What is true of a store and its messages at all times. A time is a list of turns that were
taken. -/
structure Enduring (start : Client) : Prop where
  /-- Between any two moments every message descends in its place. -/
  descends : ∀ earlier between position message,
    (after start earlier).world.state.outbox[position]? = some message →
    ∃ later, (after start (earlier ++ between)).world.state.outbox[position]? = some later ∧
      Descends (occurrences (after start earlier) between) position message later
  counted : ∀ turns, ∀ message ∈ (after start turns).world.state.outbox, 0 ≤ message.retryCount
  /-- A call that fails leaves rows, messages and the number of commits as they were. -/
  failed : ∀ turns, ∀ event ∈ occurrences start turns, event.answer.failed = true →
    event.after.world.state.rows = event.before.world.state.rows ∧
      event.after.world.state.outbox = event.before.world.state.outbox ∧
      event.after.world.state.commits = event.before.world.state.commits
  /-- A call that records something changes one message at most, and nothing else. -/
  single : ∀ turns, ∀ event ∈ occurrences start turns, ∀ call, event.turn = .call call →
    call.records = true →
    event.after.world.state.rows = event.before.world.state.rows ∧
      event.after.world.state.commits = event.before.world.state.commits ∧
      ∃ position, ∀ other : Nat, other ≠ position →
        event.after.world.state.outbox[other]? = event.before.world.state.outbox[other]?

/-- Whatever clients do with a new store and whenever it is told to fail, its messages endure.

Proof: every turn is one of the few kinds of `Takes`, by `takes_take`, so that each part is a case
analysis of a single turn. For `descends` and `counted` the step goes on to whole runs by induction,
where descending is transitive and the counts of staged messages belong to the invariant. `failed`
and `single` speak of one event, which is a turn taken where the turns before it had led. -/
theorem messages_endure (ids : Nat → Identifier) (clock : Nat → Instant) :
    Enduring (opened ids clock) where
  descends := by
    intro earlier between position message there
    rw [after_append]
    exact descends_after between there
  counted := fun turns => (counted_after turns (counted_opened ids clock)).outbox
  failed := by
    intro turns event among failed
    obtain ⟨front, turn, back, -, rfl⟩ := exists_of_mem_occurrences among
    exact (takes_take _ turn).failed failed
  single := by
    intro turns event among call calling records
    obtain ⟨front, turn, back, -, rfl⟩ := exists_of_mem_occurrences among
    obtain rfl : turn = .call call := calling
    exact (takes_take _ (.call call)).single records

end OutboxRelay.Outbox.Memory

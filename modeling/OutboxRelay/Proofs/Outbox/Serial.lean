import OutboxRelay.Proofs.Outbox.Turns
import OutboxRelay.Proofs.UnitOfWork.Atomicity

/-!
# Sessions one after the other

Sessions that are open side by side, whatever the order of their calls, leave the same rows and
messages as the accepted ones do that run alone, one after the other in the order of their commits.
What a session staged is read off what happened, not off the session. Until it is accepted nobody
can see any of it, and if it is dropped or refused nobody ever does.

The invariant compares the memory with a replay of what the accepted sessions staged. It also says
that the replay never comes to a message whose identifier is taken, which is why the sessions, alone
in the store, are accepted again.
-/

namespace OutboxRelay.Outbox.Memory

open UnitOfWork (lastWrite? foldl_putRow)

/-- Two memories hold the same rows, messages and number of commits. They may differ in the switches
that make them fail. -/
structure SameContents (one other : Memory) : Prop where
  rows : one.rows = other.rows
  outbox : one.outbox = other.outbox
  commits : one.commits = other.commits

theorem sameContents_refl (memory : Memory) : SameContents memory memory :=
  ⟨rfl, rfl, rfl⟩

theorem SameContents.trans {one other third : Memory} (first : SameContents one other)
    (second : SameContents other third) : SameContents one third where
  rows := first.rows.trans second.rows
  outbox := first.outbox.trans second.outbox
  commits := first.commits.trans second.commits

/-- Applying a session does not depend on the switches, so the same contents come of the same
contents. -/
theorem SameContents.apply {one other : Memory} (same : SameContents one other)
    (session : Session) : SameContents (one.apply session) (other.apply session) where
  rows := congrArg (session.rows.foldl putRow) same.rows
  outbox := congrArg (· ++ session.outbox) same.outbox
  commits := congrArg (· + 1) same.commits

/-- Whether a turn belongs to a session or makes a commit fail. -/
def Turn.ofSession : Turn → Bool
  | .call made => !made.reads && !made.records
  | .failNextCommit => true
  | .failNextFetch => false

/-! ### What sessions staged -/

namespace Occurrence

/-- The row that was put within a session, if the event put one there and that was answered with
success. -/
def put? (number : Nat) (event : Occurrence) : Option StagedRow :=
  match event.turn, event.answer with
  | .call (.write within row), .done (.ok ()) => if within = number then some row else none
  | _, _ => none

/-- The message that was added within a session, as it came, with whatever attempts it claimed to
have behind it. -/
def add? (number : Nat) (event : Occurrence) : Option Message :=
  match event.turn, event.answer with
  | .call (.add within message), .done (.ok ()) => if within = number then some message else none
  | _, _ => none

/-- The session that was accepted, if the event is a commit that succeeded. -/
def accepted? (event : Occurrence) : Option Nat :=
  match event.turn, event.answer with
  | .call (.commit number), .done (.ok ()) => some number
  | _, _ => none

/-- The session that was refused or dropped: by a commit that failed, or because it was
abandoned. -/
def dropped? (event : Occurrence) : Option Nat :=
  match event.turn, event.answer with
  | .call (.commit number), .done (.error _) => some number
  | .call (.abandon number), .done (.ok ()) => some number
  | _, _ => none

end Occurrence

/-- What was staged within a session: the rows in order, and the messages in order. It is told from
the calls, whereas a `Session` is what the store made of them. -/
structure Staging where
  rows : List StagedRow
  messages : List Message

/-- The session that staged so much. -/
def Staging.session (staging : Staging) : Session :=
  ⟨staging.rows, staging.messages.map (·.asAdded)⟩

/-- What was staged within a session by what happened. Only the events are looked at, never the
session of the client. -/
def stagingOf (number : Nat) (events : List Occurrence) : Staging :=
  ⟨events.filterMap (·.put? number), events.filterMap (·.add? number)⟩

/-- The sessions that were accepted, in the order of their commits. -/
def acceptedIn (events : List Occurrence) : List Nat :=
  events.filterMap (·.accepted?)

/-- What the accepted sessions staged, in the order of their commits. -/
def committed (events : List Occurrence) : List Staging :=
  (acceptedIn events).map (stagingOf · events)

section

variable {done : List Occurrence} {event : Occurrence} {number : Nat}

theorem acceptedIn_append :
    acceptedIn (done ++ [event]) = acceptedIn done ++ event.accepted?.toList := by
  rw [acceptedIn, List.filterMap_append]
  cases accepts : event.accepted? <;> simp [acceptedIn, accepts]

theorem stagingOf_append : stagingOf number (done ++ [event]) =
    ⟨(stagingOf number done).rows ++ (event.put? number).toList,
      (stagingOf number done).messages ++ (event.add? number).toList⟩ := by
  simp only [stagingOf, List.filterMap_append]
  cases puts : event.put? number <;> cases adds : event.add? number <;> simp [puts, adds]

/-- What stages nothing within a session leaves what was staged there, whatever else it does. -/
theorem stagingOf_still (puts : event.put? number = none) (adds : event.add? number = none) :
    stagingOf number (done ++ [event]) = stagingOf number done := by
  rw [stagingOf_append, puts, adds]
  simp

/-- As long as nothing more is staged within the accepted sessions, what they staged stays. -/
theorem committed_append
    (still : ∀ number ∈ acceptedIn done,
      stagingOf number (done ++ [event]) = stagingOf number done) :
    committed (done ++ [event]) = committed done ++
      event.accepted?.toList.map (stagingOf · (done ++ [event])) := by
  rw [committed, acceptedIn_append, List.map_append, List.map_congr_left still]
  rfl

end

/-! ### Replays -/

/-- Apply sessions one after the other. This is the serial execution that all runs are compared
with. -/
def replay (stagings : List Staging) (memory : Memory) : Memory :=
  stagings.foldl (fun memory staging => memory.apply staging.session) memory

theorem replay_append (stagings : List Staging) (staging : Staging) (memory : Memory) :
    replay (stagings ++ [staging]) memory = (replay stagings memory).apply staging.session := by
  simp [replay]

theorem rows_replay (stagings : List Staging) (memory : Memory) :
    (replay stagings memory).rows =
      (stagings.flatMap (·.rows)).foldl putRow memory.rows := by
  induction stagings generalizing memory with
  | nil => rfl
  | cons staging stagings inductionHypothesis =>
    rw [List.flatMap_cons, List.foldl_append]
    exact inductionHypothesis (memory.apply staging.session)

theorem outbox_replay (stagings : List Staging) (memory : Memory) :
    (replay stagings memory).outbox =
      memory.outbox ++ (stagings.flatMap (·.messages)).map (·.asAdded) := by
  induction stagings generalizing memory with
  | nil => simp [replay]
  | cons staging stagings inductionHypothesis =>
    have later := inductionHypothesis (memory.apply staging.session)
    rw [List.flatMap_cons, List.map_append, ← List.append_assoc]
    exact later

theorem commits_replay (stagings : List Staging) (memory : Memory) :
    (replay stagings memory).commits = memory.commits + stagings.length := by
  induction stagings generalizing memory with
  | nil => rfl
  | cons staging stagings inductionHypothesis =>
    have later := inductionHypothesis (memory.apply staging.session)
    rw [List.length_cons, Nat.add_comm stagings.length, ← Nat.add_assoc]
    exact later

/-- No session of a replay stages an identifier that is taken by then, be it by the outbox at the
start or by a session before it. -/
def Acceptable : List Staging → Memory → Prop
  | [], _ => True
  | staging :: stagings, memory =>
    memory.clash? staging.session = none ∧ Acceptable stagings (memory.apply staging.session)

theorem acceptable_append (stagings : List Staging) (staging : Staging) (memory : Memory) :
    Acceptable (stagings ++ [staging]) memory ↔
      Acceptable stagings memory ∧ (replay stagings memory).clash? staging.session = none := by
  induction stagings generalizing memory with
  | nil => simp [Acceptable, replay]
  | cons first stagings inductionHypothesis =>
    rw [List.cons_append, Acceptable, inductionHypothesis, Acceptable, and_assoc]
    rfl

theorem clash?_congr {one other : Memory} (outbox : one.outbox = other.outbox)
    (session : Session) : one.clash? session = other.clash? session := by
  rw [clash?, clash?, outbox]

/-- A replay does not depend on the switches either. -/
theorem SameContents.replay {one other : Memory} (same : SameContents one other)
    (stagings : List Staging) : SameContents (replay stagings one) (replay stagings other) := by
  induction stagings generalizing one other with
  | nil => exact same
  | cons staging stagings inductionHypothesis =>
    exact inductionHypothesis (same.apply staging.session)

theorem Acceptable.congr {stagings : List Staging} {one other : Memory}
    (acceptable : Acceptable stagings one) (same : SameContents one other) :
    Acceptable stagings other := by
  induction stagings generalizing one other with
  | nil => trivial
  | cons staging stagings inductionHypothesis =>
    obtain ⟨free, onward⟩ := acceptable
    exact ⟨clash?_congr same.outbox _ ▸ free, inductionHypothesis onward (same.apply _)⟩

/-- Whether a session is accepted is decided by the messages in the outbox and one switch. Rows have
no say in it. -/
theorem commit_eq_iff (session : Session) (memory : Memory) :
    memory.commit session = (.ok (), memory.apply session) ↔
      memory.failNextCommit = false ∧ memory.clash? session = none := by
  unfold commit
  cases memory.failNextCommit <;> cases memory.clash? session <;> simp

/-! ### The account of what happened -/

/-- What happened so far explains the open sessions and the memory. This is the invariant that every
turn of a session keeps. The memory is explained by `contents`; the other fields are there because
the next turn needs them: what an open session holds once it is committed, that a number is accepted
only once, and that nothing is staged under a number that ended. -/
structure Accounted (start : Memory) (done : List Occurrence) (client : Client) : Prop where
  opened : ∀ number session, client.session? number = some session →
    session = (stagingOf number done).session
  /-- Nothing was staged within a session that was not begun. -/
  unbegun : ∀ number, client.sessions.length ≤ number → stagingOf number done = ⟨[], []⟩
  ended : ∀ event ∈ done, ∀ number,
    event.accepted? = some number ∨ event.dropped? = some number →
    number < client.sessions.length ∧ client.session? number = none
  once : (acceptedIn done).Nodup
  /-- No session that was refused or dropped is among those that were accepted. -/
  apart : ∀ event ∈ done, ∀ number, event.dropped? = some number → number ∉ acceptedIn done
  contents : SameContents client.world.state (replay (committed done) start)
  acceptable : Acceptable (committed done) start

/-- What a turn of sessions may do, told by what happened: it stages within open sessions only, and
what it leaves in the memory is what the accepted session staged. The invariant is kept by these
laws alone, and each kind of turn has only to obey them. -/
structure Lawful (event : Occurrence) : Prop where
  length : event.before.sessions.length ≤ event.after.sessions.length
  opened : ∀ number session, event.after.session? number = some session →
    (∃ earlier, event.before.session? number = some earlier ∧
      session = ⟨earlier.rows ++ (event.put? number).toList,
        earlier.outbox ++ (event.add? number).toList.map (·.asAdded)⟩) ∨
    event.before.sessions.length ≤ number ∧ session = {}
  staged : ∀ number, event.before.session? number = none →
    event.put? number = none ∧ event.add? number = none
  closed : ∀ number, number < event.before.sessions.length →
    event.before.session? number = none → event.after.session? number = none
  ended : ∀ number, event.accepted? = some number ∨ event.dropped? = some number →
    (∃ session, event.before.session? number = some session) ∧ event.after.session? number = none
  silent : event.accepted? = none →
    SameContents event.after.world.state event.before.world.state
  accepts : ∀ number, event.accepted? = some number →
    ∃ session, event.before.session? number = some session ∧
      event.before.world.state.clash? session = none ∧
      event.after.world.state = event.before.world.state.apply session

/-- A number that was not given has no session. -/
theorem session?_eq_none {client : Client} {number : Nat}
    (beyond : client.sessions.length ≤ number) : client.session? number = none := by
  rw [Client.session?, List.getElem?_eq_none beyond]
  rfl

/-- What touches neither sessions nor contents is lawful, a call within a session that is gone above
all. -/
theorem lawful_rests {event : Occurrence}
    (quiet : ∀ number, event.put? number = none ∧ event.add? number = none)
    (lasting : event.accepted? = none ∧ event.dropped? = none)
    (sessions : event.after.sessions = event.before.sessions)
    (contents : SameContents event.after.world.state event.before.world.state) :
    Lawful event := by
  have same (number : Nat) : event.after.session? number = event.before.session? number := by
    rw [Client.session?, Client.session?, sessions]
  refine ⟨Nat.le_of_eq (congrArg List.length sessions.symm), ?_, fun number _ => quiet number, ?_,
    ?_, fun _ => contents, ?_⟩
  · intro number session here
    refine Or.inl ⟨session, same number ▸ here, ?_⟩
    simp [quiet number]
  · exact fun number _ gone => (same number).trans gone
  · intro number ends
    simp [lasting] at ends
  · intro number accepts
    simp [lasting] at accepts

/-- To stage within an open session is lawful: that session grows by what the event says, the others
stay, and so does the memory. -/
theorem lawful_stages {event : Occurrence} {number : Nat} {session : Session}
    (here : event.before.session? number = some session)
    (others : ∀ other, other ≠ number → event.put? other = none ∧ event.add? other = none)
    (lasting : event.accepted? = none ∧ event.dropped? = none)
    (after : event.after = { event.before with
      sessions := event.before.sessions.set number (some
        ⟨session.rows ++ (event.put? number).toList,
          session.outbox ++ (event.add? number).toList.map (·.asAdded)⟩) }) : Lawful event := by
  have inside := Client.lt_of_session? here
  refine ⟨?_, ?_, ?_, ?_, ?_, ?_, ?_⟩
  · simp [after]
  · intro other changed there
    rw [after, Client.session?_set inside] at there
    split at there
    · next same =>
      subst same
      exact Or.inl ⟨session, here, (Option.some.inj there).symm⟩
    · next different =>
      refine Or.inl ⟨changed, there, ?_⟩
      simp [others other different]
  · intro other gone
    apply others other
    rintro rfl
    rw [here] at gone
    cases gone
  · intro other _ gone
    rw [after, Client.session?_set inside, if_neg ?_]
    · exact gone
    · rintro rfl
      rw [here] at gone
      cases gone
  · intro other ends
    simp [lasting] at ends
  · intro
    rw [after]
    exact sameContents_refl _
  · intro other accepts
    simp [lasting] at accepts

/-- To end an open session is lawful, if its contents come into the memory as it is accepted, and
nothing does if it is not. -/
theorem lawful_ends {event : Occurrence} {number : Nat} {session : Session}
    (here : event.before.session? number = some session)
    (quiet : ∀ other, event.put? other = none ∧ event.add? other = none)
    (only : ∀ other, event.accepted? = some other ∨ event.dropped? = some other → other = number)
    (sessions : event.after.sessions = event.before.sessions.set number none)
    (silent : event.accepted? = none →
      SameContents event.after.world.state event.before.world.state)
    (accepts : event.accepted? = some number →
      event.before.world.state.clash? session = none ∧
        event.after.world.state = event.before.world.state.apply session) : Lawful event := by
  have inside := Client.lt_of_session? here
  have after (other : Nat) : event.after.session? other =
      if other = number then none else event.before.session? other := by
    have set : (⟨event.after.world, event.before.sessions.set number none⟩ :
        Client).session? other =
          if other = number then none else event.before.session? other :=
      Client.session?_set inside
    rw [← set, Client.session?, Client.session?, sessions]
  refine ⟨?_, ?_, fun other _ => quiet other, ?_, ?_, silent, ?_⟩
  · simp [sessions]
  · intro other changed there
    rw [after] at there
    split at there
    · cases there
    · refine Or.inl ⟨changed, there, ?_⟩
      simp [quiet other]
  · intro other _ gone
    rw [after, gone, ite_self]
  · intro other ends
    cases only other ends
    exact ⟨⟨session, here⟩, by rw [after, if_pos rfl]⟩
  · intro other accepted
    cases only other (Or.inl accepted)
    exact ⟨session, here, accepts accepted⟩

/-- A turn of sessions does nothing else. The cases of `Takes` fall under the three lemmas before
this one, and polls and records are no turns of sessions. -/
theorem Takes.lawful {client next : Client} {turn : Turn} {answer : Answer}
    (takes : Takes client turn answer next) (ofSession : turn.ofSession = true) :
    Lawful ⟨client, turn, answer, next⟩ := by
  cases takes with
  | begun =>
    refine ⟨by simp, ?_, fun _ _ => ⟨rfl, rfl⟩, ?_, ?_, fun _ => sameContents_refl _, ?_⟩
    · intro number session here
      rw [Client.session?_append] at here
      split at here
      · next last => exact Or.inr ⟨Nat.le_of_eq last.symm, (Option.some.inj here).symm⟩
      · exact Or.inl ⟨session, here, by simp [Occurrence.put?, Occurrence.add?]⟩
    · intro number given gone
      rw [Client.session?_append, if_neg (Nat.ne_of_lt given)]
      exact gone
    · rintro number (accepted | dropped)
      · cases accepted
      · cases dropped
    · intro number accepted
      cases accepted
  | @missing call number within gone =>
    apply lawful_rests
    · exact fun number => by cases call <;> exact ⟨rfl, rfl⟩
    · cases call <;> exact ⟨rfl, rfl⟩
    · rfl
    · exact sameContents_refl _
  | @added number session here message =>
    apply lawful_stages here
    · intro other different
      exact ⟨rfl, if_neg (Ne.symm different)⟩
    · exact ⟨rfl, rfl⟩
    · simp [Occurrence.put?, Occurrence.add?, Session.add]
  | @wrote number session here row =>
    apply lawful_stages here
    · intro other different
      exact ⟨if_neg (Ne.symm different), rfl⟩
    · exact ⟨rfl, rfl⟩
    · simp [Occurrence.put?, Occurrence.add?, Session.write, Session.putRow]
  | @accepted number session here accepts =>
    apply lawful_ends here
    · exact fun _ => ⟨rfl, rfl⟩
    · rintro other (accepted | dropped)
      · exact (Option.some.inj accepted).symm
      · cases dropped
    · rfl
    · intro accepted
      cases accepted
    · exact fun _ => ⟨((commit_eq_iff session _).mp accepts).2, rfl⟩
  | @refused number session error here failNextCommit =>
    apply lawful_ends here
    · exact fun _ => ⟨rfl, rfl⟩
    · rintro other (accepted | dropped)
      · cases accepted
      · exact (Option.some.inj dropped).symm
    · rfl
    · exact fun _ => ⟨rfl, rfl, rfl⟩
    · intro accepted
      cases accepted
  | @abandoned number session here =>
    apply lawful_ends here
    · exact fun _ => ⟨rfl, rfl⟩
    · rintro other (accepted | dropped)
      · cases accepted
      · exact (Option.some.inj dropped).symm
    · rfl
    · exact fun _ => sameContents_refl _
    · intro accepted
      cases accepted
  | looked reads => simp [Turn.ofSession, reads] at ofSession
  | recorded there fate => cases fate <;> cases ofSession
  | unfound records => simp [Turn.ofSession, records] at ofSession
  | orderedCommitFailure =>
    exact lawful_rests (fun _ => ⟨rfl, rfl⟩) ⟨rfl, rfl⟩ rfl ⟨rfl, rfl, rfl⟩
  | orderedFetchFailure => cases ofSession

/-- Who is accepted stages nothing more in the same moment, and is not dropped: a turn is one
call. -/
theorem Occurrence.of_accepted {event : Occurrence} {number : Nat}
    (accepts : event.accepted? = some number) (other : Nat) :
    event.put? other = none ∧ event.add? other = none ∧ event.dropped? = none := by
  obtain ⟨before, turn, answer, after⟩ := event
  unfold accepted? at accepts
  split at accepts
  · next turned answered =>
    dsimp only at turned answered
    subst turned answered
    exact ⟨rfl, rfl, rfl⟩
  · cases accepts

variable {start : Memory} {done : List Occurrence} {event : Occurrence}

/-- An accepted session is one that was accepted at some time. -/
theorem mem_acceptedIn {number : Nat} :
    number ∈ acceptedIn done ↔ ∃ event ∈ done, event.accepted? = some number :=
  List.mem_filterMap

/-- An open session was neither accepted nor dropped, since a number that ended has no session. -/
theorem Accounted.not_ended {client : Client} (accounted : Accounted start done client)
    {number : Nat} {session : Session} (here : client.session? number = some session) :
    number ∉ acceptedIn done ∧ ∀ event ∈ done, event.dropped? ≠ some number := by
  constructor
  · intro accepted
    obtain ⟨event, among, accepts⟩ := mem_acceptedIn.mp accepted
    have gone := (accounted.ended event among number (Or.inl accepts)).2
    rw [here] at gone
    cases gone
  · intro event among drops
    have gone := (accounted.ended event among number (Or.inr drops)).2
    rw [here] at gone
    cases gone

/-- A lawful turn stages nothing within a session that is gone or was not begun. -/
theorem Lawful.stagingOf_closed (lawful : Lawful event) {number : Nat}
    (closed : event.before.session? number = none) :
    stagingOf number (done ++ [event]) = stagingOf number done :=
  have ⟨puts, adds⟩ := lawful.staged number closed
  stagingOf_still puts adds

/-- A lawful turn leaves what the accepted sessions staged, and a session that it accepts comes last
with what it had staged before. -/
theorem Accounted.committed_append (accounted : Accounted start done event.before)
    (lawful : Lawful event) :
    committed (done ++ [event]) =
      committed done ++ event.accepted?.toList.map (stagingOf · done) := by
  have closed (number : Nat) (accepted : number ∈ acceptedIn done) :
      stagingOf number (done ++ [event]) = stagingOf number done :=
    have ⟨other, among, accepts⟩ := mem_acceptedIn.mp accepted
    lawful.stagingOf_closed (accounted.ended other among number (Or.inl accepts)).2
  rw [Memory.committed_append closed]
  cases accepts : event.accepted? with
  | none => rfl
  | some number =>
    obtain ⟨puts, adds, -⟩ := Occurrence.of_accepted accepts number
    rw [Option.toList_some, List.map_singleton, List.map_singleton, stagingOf_still puts adds]

/-- The account is kept by every lawful turn.

Proof: if the event accepts no session, the stagings of the accepted ones stay, because they are
closed and nothing is staged there. If it accepts one, that session is the one its staging explains,
and applying it to the memory is one more step of the replay. -/
theorem Accounted.step (accounted : Accounted start done event.before) (lawful : Lawful event) :
    Accounted start (done ++ [event]) event.after := by
  have earlier := accounted.committed_append lawful
  refine ⟨?opened, ?unbegun, ?ended, ?once, ?apart, ?contents, ?acceptable⟩
  case opened =>
    intro number session here
    rcases lawful.opened number session here with ⟨session, before, rfl⟩ | ⟨beyond, rfl⟩
    · rw [stagingOf_append, accounted.opened number session before]
      simp [Staging.session]
    · rw [lawful.stagingOf_closed (session?_eq_none beyond), accounted.unbegun number beyond]
      rfl
  case unbegun =>
    intro number beyond
    have before := Nat.le_trans lawful.length beyond
    rw [lawful.stagingOf_closed (session?_eq_none before)]
    exact accounted.unbegun number before
  case ended =>
    intro other among number ends
    rcases List.mem_append.mp among with already | last
    · obtain ⟨given, gone⟩ := accounted.ended other already number ends
      exact ⟨Nat.lt_of_lt_of_le given lawful.length, lawful.closed number given gone⟩
    · cases List.mem_singleton.mp last
      obtain ⟨⟨session, here⟩, gone⟩ := lawful.ended number ends
      exact ⟨Nat.lt_of_lt_of_le (Client.lt_of_session? here) lawful.length, gone⟩
  case once =>
    rw [acceptedIn_append]
    cases accepts : event.accepted? with
    | none => simpa using accounted.once
    | some number =>
      obtain ⟨⟨session, here⟩, -⟩ := lawful.ended number (Or.inl accepts)
      have new := (accounted.not_ended here).1
      refine List.nodup_append.mpr ⟨accounted.once, List.nodup_singleton _, ?_⟩
      rintro old already last among rfl
      exact new (List.mem_singleton.mp among ▸ already)
  case apart =>
    intro other among number drops
    rw [acceptedIn_append, List.mem_append]
    rintro (already | now)
    · rcases List.mem_append.mp among with before | last
      · exact accounted.apart other before number drops already
      · cases List.mem_singleton.mp last
        obtain ⟨⟨session, here⟩, -⟩ := lawful.ended number (Or.inr drops)
        exact (accounted.not_ended here).1 already
    · have accepts : event.accepted? = some number := by simpa using now
      rcases List.mem_append.mp among with before | last
      · obtain ⟨⟨session, here⟩, -⟩ := lawful.ended number (Or.inl accepts)
        exact (accounted.not_ended here).2 other before drops
      · cases List.mem_singleton.mp last
        rw [(Occurrence.of_accepted accepts number).2.2] at drops
        cases drops
  case contents =>
    rw [earlier]
    cases accepts : event.accepted? with
    | none =>
      rw [Option.toList_none, List.map_nil, List.append_nil]
      exact (lawful.silent accepts).trans accounted.contents
    | some number =>
      obtain ⟨session, here, -, applied⟩ := lawful.accepts number accepts
      rw [Option.toList_some, List.map_singleton, replay_append,
        ← accounted.opened number session here, applied]
      exact accounted.contents.apply session
  case acceptable =>
    rw [earlier]
    cases accepts : event.accepted? with
    | none =>
      rw [Option.toList_none, List.map_nil, List.append_nil]
      exact accounted.acceptable
    | some number =>
      obtain ⟨session, here, free, -⟩ := lawful.accepts number accepts
      rw [Option.toList_some, List.map_singleton, acceptable_append,
        ← accounted.opened number session here, ← clash?_congr accounted.contents.outbox]
      exact ⟨accounted.acceptable, free⟩

/-! ### Accepted sessions alone -/

/-- The turns of a session that is alone in the store: it is begun, rows and messages are staged in
their order, and it is committed. -/
def Staging.turns (number : Nat) (staging : Staging) : List Turn :=
  .call .begin :: (staging.rows.map (.call <| .write number ·) ++
    (staging.messages.map (.call <| .add number ·) ++ [.call (.commit number)]))

/-- The turns of sessions that run one after the other, numbered from a first one on. -/
def serial (first : Nat) : List Staging → List Turn
  | [] => []
  | staging :: stagings => staging.turns first ++ serial (first + 1) stagings

/-- Turns that each stage something within one open session add up to a fold over that session, and
nothing else changes. -/
theorem after_stages {α : Type} {number : Nat} {turn : α → Turn} (stage : α → Session → Session)
    (stages : ∀ client session item, client.session? number = some session →
      (take client (turn item)).2 =
        { client with sessions := client.sessions.set number (some (stage item session)) })
    (items : List α) {client : Client} {session : Session}
    (here : client.session? number = some session) :
    after client (items.map turn) = { client with
      sessions := client.sessions.set number
        (some (items.foldl (fun session item => stage item session) session)) } := by
  induction items generalizing client session with
  | nil =>
    obtain ⟨front, back, sessions, set⟩ := Client.sessions_of_session? here
    rw [List.foldl_nil, set, ← sessions]
    rfl
  | cons item items inductionHypothesis =>
    have inside := Client.lt_of_session? here
    have opened : Client.session?
        { client with sessions := client.sessions.set number (some (stage item session)) } number =
          some (stage item session) := by
      rw [Client.session?_set inside, if_pos rfl]
    rw [List.map_cons, after, List.foldl_cons, stages client session item here]
    exact (inductionHypothesis opened).trans (by rw [List.set_set, List.foldl_cons])

theorem after_writes {number : Nat} (rows : List StagedRow) {client : Client} {session : Session}
    (here : client.session? number = some session) :
    after client (rows.map (.call <| .write number ·)) = { client with
      sessions := client.sessions.set number (some ⟨session.rows ++ rows, session.outbox⟩) } := by
  have staged (rows : List StagedRow) (session : Session) :
      rows.foldl (fun session row => session.write row) session =
        ⟨session.rows ++ rows, session.outbox⟩ := by
    induction rows generalizing session with
    | nil => simp
    | cons row rows inductionHypothesis =>
      rw [List.foldl_cons, inductionHypothesis]
      simp [Session.write, Session.putRow]
  rw [← staged]
  apply after_stages (fun row session => session.write row) _ rows here
  intro client session row here
  rw [take, perform_write here]

theorem after_adds {number : Nat} (messages : List Message) {client : Client} {session : Session}
    (here : client.session? number = some session) :
    after client (messages.map (.call <| .add number ·)) = { client with
      sessions := client.sessions.set number
        (some ⟨session.rows, session.outbox ++ messages.map (·.asAdded)⟩) } := by
  have staged (messages : List Message) (session : Session) :
      messages.foldl (fun session message => session.add message) session =
        ⟨session.rows, session.outbox ++ messages.map (·.asAdded)⟩ := by
    induction messages generalizing session with
    | nil => simp
    | cons message messages inductionHypothesis =>
      rw [List.foldl_cons, inductionHypothesis]
      simp [Session.add]
  rw [← staged]
  apply after_stages (fun message session => session.add message) _ messages here
  intro client session message here
  rw [take, perform_add here]

/-- A session that is alone in the store and may be accepted is applied. It gets the next number,
and is gone after its commit. -/
theorem after_alone {client : Client} {staging : Staging}
    (quiet : client.world.state.failNextCommit = false)
    (free : client.world.state.clash? staging.session = none) :
    after client (staging.turns client.sessions.length) =
      { world := { client.world with state := client.world.state.apply staging.session }
        sessions := client.sessions ++ [none] } := by
  have set (session changed : Option Session) :
      (client.sessions ++ [session]).set client.sessions.length changed =
        client.sessions ++ [changed] := by
    simp
  have here (session : Session) : Client.session?
      { client with sessions := client.sessions ++ [some session] } client.sessions.length =
        some session := by
    simp [Client.session?]
  have accepts := (commit_eq_iff staging.session client.world.state).mpr ⟨quiet, free⟩
  calc after client (staging.turns client.sessions.length)
      = after (after { client with sessions := client.sessions ++ [some {}] }
          (staging.rows.map (.call <| .write client.sessions.length ·)))
          (staging.messages.map (.call <| .add client.sessions.length ·) ++
            [.call (.commit client.sessions.length)]) := after_append _ _ _
    _ = after (after { client with sessions := client.sessions ++ [some ⟨staging.rows, []⟩] }
          (staging.messages.map (.call <| .add client.sessions.length ·)))
          [.call (.commit client.sessions.length)] := by
        rw [after_writes staging.rows (here {}), after_append, set]
        rfl
    _ = after { client with sessions := client.sessions ++ [some staging.session] }
          [.call (.commit client.sessions.length)] := by
        rw [after_adds staging.messages (here ⟨staging.rows, []⟩), set]
        rfl
    _ = _ := by
        rw [after, List.foldl_cons, List.foldl_nil, take, perform_commit (here staging.session),
          accepts, set]

/-- Sessions that may be accepted one after the other are, and leave their replay. The induction is
on the sessions, over all clients, because each one begins in the store of the one before it. -/
theorem state_after_serial {stagings : List Staging} {client : Client}
    (quiet : client.world.state.failNextCommit = false)
    (acceptable : Acceptable stagings client.world.state) :
    (after client (serial client.sessions.length stagings)).world.state =
      replay stagings client.world.state := by
  induction stagings generalizing client with
  | nil => rfl
  | cons staging stagings inductionHypothesis =>
    obtain ⟨free, onward⟩ := acceptable
    rw [serial, after_append, after_alone quiet free]
    have later := @inductionHypothesis
      { world := { client.world with state := client.world.state.apply staging.session }
        sessions := client.sessions ++ [none] } quiet onward
    rwa [List.length_append] at later

/-! ### Every interleaving -/

/-- What a look at the outbox gives depends on the messages and one switch, so no poll can tell
memories apart that have the same contents. -/
theorem answer_of_reads {call : Call StagedRow} (reads : call.reads = true) {one other : Client}
    (outbox : one.world.state.outbox = other.world.state.outbox)
    (fetch : one.world.state.failNextFetch = other.world.state.failNextFetch) :
    (take one (.call call)).1 = (take other (.call call)).1 := by
  have polled (limit : Int) (eligible : Message → Bool) :
      (one.world.state.poll limit eligible).1 = (other.world.state.poll limit eligible).1 := by
    rw [poll, poll, outbox, fetch]
    split <;> rfl
  cases call with
  | getUnprocessed limit => exact congrArg Answer.pending (polled limit _)
  | getRetryable limit ceiling => exact congrArg Answer.pending (polled limit _)
  | getExhausted limit ceiling =>
    exact congrArg (fun outbox => Answer.messages (.ok (oldestFirst _ limit outbox))) outbox
  | _ => cases reads

/-- No turn of a session has anything to do with the switch for polls. -/
theorem Takes.failNextFetch {client next : Client} {turn : Turn} {answer : Answer}
    (takes : Takes client turn answer next) (ofSession : turn.ofSession = true) :
    next.world.state.failNextFetch = client.world.state.failNextFetch := by
  cases takes with
  | looked reads => simp [Turn.ofSession, reads] at ofSession
  | recorded there fate => cases fate <;> cases ofSession
  | unfound records => simp [Turn.ofSession, records] at ofSession
  | orderedFetchFailure => cases ofSession
  | _ => rfl

/-- What is true of sessions in one store, however their turns come between each other. What a
session staged is read off the events, so a session that stages in one way and is committed in
another would contradict this. -/
structure Serialised (world : World Memory) (turns : List Turn) : Prop where
  /-- Only a session that is accepted changes what anyone can see. -/
  hidden : ∀ event ∈ occurrences { world } turns, event.accepted? = none →
    SameContents event.after.world.state event.before.world.state ∧
      ∀ call : Call StagedRow, call.reads = true →
        (take event.after (.call call)).1 = (take event.before (.call call)).1
  /-- Under every key stands the last row that an accepted session put there. -/
  rows : ∀ table key, (after { world } turns).world.state.rows table key =
    (lastWrite? table key ((committed (occurrences { world } turns)).flatMap (·.rows))).or
      (world.state.rows table key)
  /-- The messages of the accepted sessions stand behind each other, with no attempt behind them. -/
  outbox : (after { world } turns).world.state.outbox = world.state.outbox ++
    ((committed (occurrences { world } turns)).flatMap (·.messages)).map (·.asAdded)
  commits : (after { world } turns).world.state.commits =
    world.state.commits + (acceptedIn (occurrences { world } turns)).length
  /-- No session is accepted twice. -/
  once : (acceptedIn (occurrences { world } turns)).Nodup
  /-- A session that was refused or dropped is not among those that were accepted. -/
  traceless : ∀ event ∈ occurrences { world } turns, ∀ number, event.dropped? = some number →
    number ∉ acceptedIn (occurrences { world } turns)
  /-- The accepted sessions leave the same if they run alone, in the order of their commits. -/
  serial : SameContents (after { world } turns).world.state
    (after (within { world } ({ · with failNextCommit := false }))
      (serial 0 (committed (occurrences { world } turns)))).world.state

theorem accounted_begun (world : World Memory) : Accounted world.state [] { world } where
  opened := fun number session here => by simp [Client.session?] at here
  unbegun := fun _ _ => rfl
  ended := fun _ among => absurd among List.not_mem_nil
  once := List.nodup_nil
  apart := fun _ among => absurd among List.not_mem_nil
  contents := ⟨rfl, rfl, rfl⟩
  acceptable := trivial

/-- Sessions are isolated and serialisable: whatever the order of their turns and whichever commits
are made to fail, rows and messages are those of the accepted sessions alone.

Proof: the invariant `Accounted` holds at the start and survives every turn, as every turn of a
session is lawful (`Takes.lawful`, `Accounted.step`), so it holds at the end by `accumulate`. It
says that the memory is a replay of the accepted stagings, and rows, messages and commits are those
of a replay. That the replay is acceptable is what makes the serial run succeed in a store of its
own (`state_after_serial`). That pending sessions are hidden is a property of single lawful
turns. -/
theorem sessions_serialised (world : World Memory) (turns : List Turn)
    (ofSessions : ∀ turn ∈ turns, turn.ofSession = true) : Serialised world turns := by
  have lawful (client : Client) {turn : Turn} (among : turn ∈ turns) :
      Lawful (occurrence client turn) :=
    (takes_take client turn).lawful (ofSessions turn among)
  have ended : Accounted world.state ([] ++ occurrences { world } turns)
      (after { world } turns) :=
    accumulate (fun done client turn among accounted => accounted.step (lawful client among))
      (accounted_begun world)
  rw [List.nil_append] at ended
  refine ⟨?hidden, ?rows, ?outbox, ?commits, ended.once, ended.apart, ?serial⟩
  case hidden =>
    intro event among pending
    obtain ⟨front, turn, back, rfl, rfl⟩ := exists_of_mem_occurrences among
    have here : turn ∈ front ++ turn :: back := by simp
    have silent := (lawful (after { world } front) here).silent pending
    have fetch := (takes_take (after { world } front) turn).failNextFetch (ofSessions turn here)
    exact ⟨silent, fun call reads => answer_of_reads reads silent.outbox fetch⟩
  case rows =>
    intro table key
    rw [ended.contents.rows, rows_replay, foldl_putRow]
  case outbox => rw [ended.contents.outbox, outbox_replay]
  case commits => rw [ended.contents.commits, commits_replay, committed, List.length_map]
  case serial =>
    have same : SameContents world.state { world.state with failNextCommit := false } :=
      ⟨rfl, rfl, rfl⟩
    have alone : (after (within { world } ({ · with failNextCommit := false }))
        (serial 0 (committed (occurrences { world } turns)))).world.state = _ :=
      state_after_serial rfl (ended.acceptable.congr same)
    rw [alone]
    exact ended.contents.trans (same.replay _)

/-- Three sessions side by side. The first one is refused, the third one commits before the second
one, and a fourth one is dropped. -/
def crossedTurns : List Turn :=
  [.call .begin, .call .begin, .call (.write 0 ⟨"orders", "a", .text "first"⟩),
    .call (.write 1 ⟨"orders", "a", .text "second"⟩), .failNextCommit, .call .begin,
    .call (.add 0 (.numbered 1)), .call (.commit 0),
    .call (.write 2 ⟨"orders", "a", .text "third"⟩),
    .call (.add 1 ((Message.numbered 2).failedWith "refused" 4)), .call (.add 2 (.numbered 3)),
    .call (.commit 2), .call .begin, .call (.add 3 (.numbered 4)), .call (.commit 1),
    .call (.abandon 3)]

/-- The second session wins the row and comes last in the outbox. -/
theorem sessions_serialised_crossedTurns :
    (∀ turn ∈ crossedTurns, turn.ofSession = true) ∧
      acceptedIn (occurrences fresh crossedTurns) = [2, 1] ∧
      (after fresh crossedTurns).world.state.outbox = [.numbered 3, .numbered 2] ∧
      Serialised fresh.world crossedTurns := by
  have ofSessions : ∀ turn ∈ crossedTurns, turn.ofSession = true := by decide
  exact ⟨ofSessions, rfl, rfl, sessions_serialised fresh.world crossedTurns ofSessions⟩

end OutboxRelay.Outbox.Memory

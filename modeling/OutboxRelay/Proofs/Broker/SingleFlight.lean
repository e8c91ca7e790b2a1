import OutboxRelay.Proofs.Broker.Reconnection

/-!
# Reconnecting once

However many callers share a connection and however their moves come between each other, at most one
of them reconnects at any time, and none without a reason: the last attempt failed, or the channel
that it gave was not open at some moment since, or a publish call on that channel failed.

An account says what the steps done so far tell of the state they led to. It is kept by every
transition, and so holds at every moment of a run.
-/

namespace OutboxRelay.Broker.Connection

variable {ρ : Type} {before after : Connection ρ} {move : Move ρ} {done since : List (Step ρ)}
  {caller : CallerId} {channel : ChannelId}

/-! ### Attempts that leave no reason for another one -/

/-- What happened since an attempt of a caller and calls for another one: its connect or declare
call failed, or the channel that it gave was shut or refused a message. Nothing else is a reason. -/
def Justified (caller : CallerId) (since : List (Step ρ)) : Prop :=
  (∃ step ∈ since, step.FailsToReconnect caller) ∨
    ∃ channel, (∃ step ∈ since, step.Connects caller channel) ∧
      ∃ step ∈ since, step.LeavesShut channel ∨ step.Refuses channel

/-- A channel is open and nobody is about to drop it. -/
structure Sound (connection : Connection ρ) (channel : ChannelId) : Prop where
  usable : connection.isOpen channel = true
  kept : ∀ caller error, connection.stages caller ≠ .discarding channel error

/-- The attempt of a caller is under way, or the channel that it gave is cached and sound and nobody
has a reason to connect again. In the last case whoever holds the lock is about to look at the cache
and will find the channel there. -/
inductive Pursued (since : List (Step ρ)) (connection : Connection ρ) (caller : CallerId) :
    Prop where
  | connecting (connecting : connection.stages caller = .connecting)
  | opened (channel : ChannelId) (gained : ∃ step ∈ since, step.Connects caller channel)
      (sound : connection.Sound channel)
      (holding : connection.stages caller = .declaring channel ∨
        connection.stages caller = .storing channel)
  | cached (channel : ChannelId) (gained : ∃ step ∈ since, step.Connects caller channel)
      (sound : connection.Sound channel) (cached : connection.cached = some channel)
      (settled : ∀ other, (connection.stages other).holds = true →
        connection.stages other = .rechecking)

/-- Something that was true of some step done still is when one more is done. -/
theorem exists_of_append {holds : Step ρ → Prop} {step : Step ρ}
    (already : (∃ step ∈ done, holds step) ∨ holds step) :
    ∃ earlier ∈ done ++ [step], holds earlier := by
  rcases already with ⟨earlier, among, true_⟩ | here
  · exact ⟨earlier, List.mem_append_left _ among, true_⟩
  · exact ⟨step, List.mem_append_right _ (List.mem_singleton_self _), here⟩

/-- A reason stays a reason, whatever happens after it. -/
theorem Justified.mono {later : List (Step ρ)} (justified : Justified caller since)
    (within : ∀ step ∈ since, step ∈ later) : Justified caller later := by
  rcases justified with ⟨step, among, fails⟩ | ⟨channel, ⟨step, among, connects⟩, spoil, also, how⟩
  · exact Or.inl ⟨step, within step among, fails⟩
  · exact Or.inr ⟨channel, ⟨step, within step among, connects⟩, spoil, within spoil also, how⟩

/-- Whoever reconnects holds the lock. -/
theorem Reconnecting.holds {connection : Connection ρ} {caller : CallerId}
    (reconnecting : connection.Reconnecting caller) :
    (connection.stages caller).holds = true := by
  rcases reconnecting with connecting | ⟨channel, declaring⟩
  · rw [connecting]
    rfl
  · rw [declaring]
    rfl

/-- A channel that is known stays known. -/
theorem Transition.has (transition : Transition before move after) {channel : ChannelId}
    (has : before.Has channel) : after.Has channel := by
  refine ⟨has.1, Nat.le_trans has.2 ?_⟩
  cases transition.adds with
  | nothing _ channels | attempt _ _ _ _ _ channels | publish _ _ _ _ _ _ channels =>
    exact Nat.le_of_eq channels.symm
  | channel _ _ _ _ channels => exact channels ▸ Nat.le_succ _

theorem Transition.of_connecting (transition : Transition before move after)
    (orderly : Orderly before) (connecting : before.stages caller = .connecting) :
    after.stages caller = .connecting ∨
      Step.FailsToReconnect caller ⟨before, move, after⟩ ∨
      Step.Connects caller (before.channels.length + 1) ⟨before, move, after⟩ := by
  have := @orderly.first_queued
  cases transition <;> grind [Step.FailsToReconnect, Step.Fails, Step.Connects, Reconnecting]

theorem Transition.of_declaring (transition : Transition before move after)
    (orderly : Orderly before) (declaring : before.stages caller = .declaring channel) :
    after.stages caller = .declaring channel ∨ after.stages caller = .storing channel ∨
      Step.FailsToReconnect caller ⟨before, move, after⟩ := by
  have := @orderly.first_queued
  cases transition <;> grind [Step.FailsToReconnect, Step.Fails, Reconnecting]

theorem Transition.of_storing (transition : Transition before move after)
    (orderly : Orderly before) (storing : before.stages caller = .storing channel) :
    after.stages caller = .storing channel ∨
      after.cached = some channel ∧ ∀ other, (after.stages other).holds = true →
        after.stages other = .rechecking := by
  have := @orderly.first_queued
  have := @orderly.alone
  cases transition <;> grind [Stage.holds]

theorem Transition.of_cached (transition : Transition before move after)
    (sound : before.Sound channel) (cached : before.cached = some channel)
    (settled : ∀ other, (before.stages other).holds = true →
      before.stages other = .rechecking) :
    after.cached = some channel ∧ ∀ other, (after.stages other).holds = true →
      after.stages other = .rechecking := by
  have usable : before.openChannel? = some channel := by
    simp [openChannel?, cached, sound.usable]
  have := sound.kept
  cases transition <;> grind [Stage.holds]

/-- A sound channel stays sound unless the step is a reason to drop it: it was shut, or a publish
call on it failed. -/
theorem Transition.sound (transition : Transition before move after)
    (sound : before.Sound channel) (has : before.Has channel) :
    after.Sound channel ∨ Step.LeavesShut channel ⟨before, move, after⟩ ∨
      Step.Refuses channel ⟨before, move, after⟩ := by
  by_cases refuses : Step.Refuses channel ⟨before, move, after⟩
  · exact Or.inr (Or.inr refuses)
  cases usable : after.isOpen channel with
  | false => exact Or.inr (Or.inl ⟨transition.has has, usable⟩)
  | true =>
    refine Or.inl ⟨usable, fun dropper error discarding => ?_⟩
    rcases transition.discarding discarding with already | now
    · exact sound.kept dropper error already
    · exact refuses now

/-- As long as an attempt is pursued, nobody begins another one. A caller is about to connect only
after its second look at the cache found nothing, and then it holds the lock. -/
theorem Pursued.not_retiring (pursued : Pursued since before caller) (orderly : Orderly before)
    (other : CallerId) : before.stages other ≠ .retiring := by
  intro retiring
  have holds : (before.stages other).holds = true := by rw [retiring]; rfl
  have notHere {stage : Stage} (here : before.stages caller = stage)
      (holding : stage.holds = true) (different : stage ≠ .retiring) : False := by
    rw [← here] at holding different
    exact different (orderly.alone holding holds ▸ retiring)
  cases pursued with
  | connecting connecting => exact notHere connecting rfl nofun
  | opened channel gained sound holding =>
    rcases holding with declaring | storing
    · exact notHere declaring rfl nofun
    · exact notHere storing rfl nofun
  | cached channel gained sound cached settled =>
    rw [settled other holds] at retiring
    cases retiring

/-! ### Calls that begin -/

/-- The connect call of an attempt is made by the caller that goes on. -/
theorem Transition.attempts (transition : Transition before move after)
    (attempts : Step.Attempts caller ⟨before, move, after⟩) :
    before.stages caller = .retiring ∧ after.stages caller = .connecting := by
  obtain ⟨proceeds, begins⟩ := attempts
  have begins : after.calls = before.calls ++ [.connect] := begins
  cases transition.adds with
  | nothing calls => simp [calls] at begins
  | attempt other proceeding retiring connecting =>
    cases proceeding.symm.trans proceeds
    exact ⟨retiring, connecting⟩
  | channel _ _ _ calls | publish _ _ _ _ _ calls => simp [calls] at begins

/-- Every connect call is an attempt of somebody. -/
theorem Transition.begins_connect (transition : Transition before move after)
    (begins : Step.Begins .connect ⟨before, move, after⟩) :
    ∃ caller, Step.Attempts caller ⟨before, move, after⟩ := by
  have calls_ : after.calls = before.calls ++ [.connect] := begins
  cases transition.adds with
  | attempt caller proceeds => exact ⟨caller, proceeds, begins⟩
  | nothing calls => simp [calls] at calls_
  | channel _ _ _ calls | publish _ _ _ _ _ calls => simp [calls] at calls_

/-- A publish call is made by a caller that was given the channel. -/
theorem Transition.publishes (transition : Transition before move after)
    {properties : Properties} {payload : ρ}
    (begins : Step.Begins (.publish channel properties payload) ⟨before, move, after⟩) :
    ∃ caller, before.stages caller = .ready channel := by
  have begins : after.calls = before.calls ++ [.publish channel properties payload] := begins
  cases transition.adds with
  | nothing calls => simp [calls] at begins
  | attempt _ _ _ _ calls | channel _ _ _ calls => simp [calls] at begins
  | publish caller other _ _ ready calls =>
    rw [calls] at begins
    cases List.append_cancel_left begins
    exact ⟨caller, ready⟩

/-- The channel that a connect call gives is declared in the same step. -/
theorem Transition.connects (transition : Transition before move after)
    (connects : Step.Connects caller channel ⟨before, move, after⟩) :
    Step.Begins (.declare channel) ⟨before, move, after⟩ := by
  obtain ⟨has, new⟩ := (transition.connects_iff channel).mp ⟨caller, connects⟩
  have declaring := transition.declaring connects.2
  have connecting : before.stages caller = .connecting := connects.1
  cases transition.adds with
  | channel _ _ _ calls =>
    obtain ⟨_, same, _⟩ := declaring.resolve_left (by simp [connecting])
    exact same ▸ calls
  | nothing _ channels | attempt _ _ _ _ _ channels | publish _ _ _ _ _ _ channels =>
    exact absurd ⟨has.1, channels ▸ has.2⟩ new

/-- While a connect call is in progress, nothing was connected or declared since it began, so the
channel that it gives is the next thing on the record. -/
theorem Booked.connecting {rounds : List (Option ChannelId)} (booked : Booked before rounds)
    (connecting : before.stages caller = .connecting) :
    ∃ earlier, before.reconnections = earlier ++ [.connect] := by
  obtain ⟨earlier, rfl⟩ := booked.current caller connecting
  exact ⟨earlier.flatMap callsOf, by simp [booked.calls, callsOf]⟩

/-- Two steps of a kind stand one behind the other. -/
theorem exists_two {steps : List (Step ρ)} {kind : Step ρ → Bool} (twice : 2 ≤ steps.countP kind) :
    ∃ front first middle second back,
      steps = front ++ first :: (middle ++ second :: back) ∧ kind first = true ∧
        kind second = true := by
  rw [List.countP_eq_length_filter] at twice
  obtain ⟨first, second, rest, found⟩ : ∃ first second rest,
      steps.filter kind = first :: second :: rest := by
    match found : steps.filter kind, twice with
    | first :: second :: rest, _ => exact ⟨first, second, rest, rfl⟩
  obtain ⟨front, back, parts, _, one, found⟩ := List.filter_eq_cons_iff.mp found
  obtain ⟨middle, back, rfl, _, another, _⟩ := List.filter_eq_cons_iff.mp found
  exact ⟨front, first, middle, second, back, parts, one, another⟩

/-! ### The account of a run -/

/-- What the steps done so far tell of the state that they led to. It joins what is known of the
lock and of the record of attempts, and says which steps a channel, a declaration or a failure goes
back to. -/
structure Account (done : List (Step ρ)) (connection : Connection ρ) : Prop where
  orderly : Orderly connection
  rounds : ∃ rounds, Booked connection rounds
  connected : ∀ channel, connection.Has channel ↔
    ∃ step ∈ done, ∃ caller, step.Connects caller channel
  declared : ∀ channel, connection.Offers channel → ∃ step ∈ done, step.Declares channel
  known : ∀ channel, (∃ step ∈ done, step.Declares channel) → connection.Has channel
  declaring : ∀ caller channel, connection.stages caller = .declaring channel →
    connection.Has channel
  failed : ∀ caller error, (connection.stages caller).failure? = some error →
    ∃ step ∈ done, ∃ failed, step.Fails failed

theorem account_fresh : Account [] ({} : Connection ρ) where
  orderly := orderly_fresh
  rounds := ⟨[], booked_fresh⟩
  connected := fun _ => ⟨fun has => absurd has.1 (Nat.not_lt_of_le has.2), nofun⟩
  declared := fun _ offers => offers.elim nofun nofun
  known := nofun
  declaring := nofun
  failed := nofun

/-- Every transition keeps the account. Each field is kept by a lemma about that kind of event, and
the past is the old one with one step more. -/
theorem Account.step (account : Account done before)
    (transition : Transition before move after) :
    Account (done ++ [⟨before, move, after⟩]) after where
  orderly := account.orderly.step transition
  rounds :=
    have ⟨_, booked⟩ := account.rounds
    booked.step account.orderly transition
  connected := fun channel => by
    constructor
    · intro has
      apply exists_of_append
      by_cases already : before.Has channel
      · exact Or.inl ((account.connected channel).mp already)
      · exact Or.inr ((transition.connects_iff channel).mpr ⟨has, already⟩)
    · rintro ⟨step, among, connects⟩
      rcases List.mem_append.mp among with earlier | last
      · exact transition.has ((account.connected channel).mpr ⟨step, earlier, connects⟩)
      · cases List.mem_singleton.mp last
        exact ((transition.connects_iff channel).mp connects).1
  declared := fun channel offers => by
    apply exists_of_append
    exact (transition.offers offers).imp_left (account.declared channel)
  known := fun channel => by
    rintro ⟨step, among, declares⟩
    rcases List.mem_append.mp among with earlier | last
    · exact transition.has (account.known channel ⟨step, earlier, declares⟩)
    · cases List.mem_singleton.mp last
      obtain ⟨caller, _, _, declaring⟩ := declares
      exact transition.has (account.declaring caller channel declaring)
  declaring := fun caller channel declaring => by
    rcases transition.declaring declaring with already | ⟨_, new, last⟩
    · exact transition.has (account.declaring caller channel already)
    · exact ⟨new ▸ Nat.succ_pos _, Nat.le_of_eq last.symm⟩
  failed := fun caller error failing => by
    apply exists_of_append
    exact (transition.failing failing).imp_left (account.failed caller error)

/-- A channel that anyone works with is known. -/
theorem Account.offered (account : Account done before) {channel : ChannelId}
    (offers : before.Offers channel) : before.Has channel :=
  account.known channel (account.declared channel offers)

/-- A channel is sound as soon as it is connected, unless it is born closed: nobody can have worked
with it before. In particular nobody is about to drop it. -/
theorem Account.sound_new (account : Account done before)
    (transition : Transition before move after)
    (connects : Step.Connects caller channel ⟨before, move, after⟩) :
    after.Sound channel ∨ Step.LeavesShut channel ⟨before, move, after⟩ := by
  obtain ⟨has, new⟩ := (transition.connects_iff channel).mp ⟨caller, connects⟩
  cases usable : after.isOpen channel with
  | false => exact Or.inr ⟨has, usable⟩
  | true =>
    refine Or.inl ⟨usable, fun dropper error discarding => new (account.offered (Or.inr ?_))⟩
    rcases transition.discarding discarding with already | ⟨publisher, _, publishing⟩
    · exact ⟨dropper, by rw [already]; rfl⟩
    · exact ⟨publisher, by rw [show before.stages publisher = _ from publishing]; rfl⟩

/-- Every transition gives a reason for another attempt or leaves none.

The cases are those of the attempt: while it connects the call may fail, while it declares or caches
the channel may be shut as well, and once the channel is cached a publish call on it may fail. -/
theorem Pursued.step (pursued : Pursued since before caller) (account : Account done before)
    (within : ∀ step ∈ since, step ∈ done) (transition : Transition before move after) :
    Justified caller (since ++ [⟨before, move, after⟩]) ∨
      Pursued (since ++ [⟨before, move, after⟩]) after caller := by
  have gainedStill {channel : ChannelId}
      (gained : ∃ step ∈ since, step.Connects caller channel) :
      ∃ step ∈ since ++ [⟨before, move, after⟩], step.Connects caller channel :=
    exists_of_append (Or.inl gained)
  have failure (fails : Step.FailsToReconnect caller ⟨before, move, after⟩) :
      Justified caller (since ++ [⟨before, move, after⟩]) :=
    Or.inl (exists_of_append (Or.inr fails))
  have reason {channel : ChannelId}
      (gained : ∃ step ∈ since ++ [⟨before, move, after⟩], step.Connects caller channel)
      (spoiled : Step.LeavesShut channel ⟨before, move, after⟩ ∨
        Step.Refuses channel ⟨before, move, after⟩) :
      Justified caller (since ++ [⟨before, move, after⟩]) :=
    Or.inr ⟨channel, gained, exists_of_append (Or.inr spoiled)⟩
  have known {channel : ChannelId} (gained : ∃ step ∈ since, step.Connects caller channel) :
      before.Has channel := by
    obtain ⟨step, among, connects⟩ := gained
    exact (account.connected channel).mpr ⟨step, within step among, caller, connects⟩
  cases pursued with
  | connecting connecting =>
    rcases transition.of_connecting account.orderly connecting with still | fails | connects
    · exact Or.inr (.connecting still)
    · exact Or.inl (failure fails)
    · have gained := @exists_of_append _ since _ _ (Or.inr connects)
      rcases account.sound_new transition connects with sound | shut
      · exact Or.inr (.opened _ gained sound (Or.inl connects.2))
      · exact Or.inl (reason gained (Or.inl shut))
  | opened channel gained sound holding =>
    rcases transition.sound sound (known gained) with sound | spoiled
    · rcases holding with declaring | storing
      · rcases transition.of_declaring account.orderly declaring with still | storing | fails
        · exact Or.inr (.opened channel (gainedStill gained) sound (Or.inl still))
        · exact Or.inr (.opened channel (gainedStill gained) sound (Or.inr storing))
        · exact Or.inl (failure fails)
      · rcases transition.of_storing account.orderly storing with still | ⟨cached, settled⟩
        · exact Or.inr (.opened channel (gainedStill gained) sound (Or.inr still))
        · exact Or.inr (.cached channel (gainedStill gained) sound cached settled)
    · exact Or.inl (reason (gainedStill gained) spoiled)
  | cached channel gained sound cached settled =>
    have ⟨cachedStill, settledStill⟩ := transition.of_cached sound cached settled
    rcases transition.sound sound (known gained) with sound | spoiled
    · exact Or.inr (.cached channel (gainedStill gained) sound cachedStill settledStill)
    · exact Or.inl (reason (gainedStill gained) spoiled)

/-- What is true since an attempt of a caller, with the steps done up to its beginning. Either there
is a reason for the next attempt by now, or the attempt is still pursued. -/
structure Watched (done : List (Step ρ)) (caller : CallerId) (since : List (Step ρ))
    (connection : Connection ρ) : Prop where
  account : Account (done ++ since) connection
  reason : Justified caller since ∨ Pursued since connection caller

theorem Watched.step (watched : Watched done caller since before)
    (transition : Transition before move after) :
    Watched done caller (since ++ [⟨before, move, after⟩]) after := by
  refine ⟨List.append_assoc .. ▸ watched.account.step transition, ?_⟩
  rcases watched.reason with justified | pursued
  · exact Or.inl (justified.mono fun step among => List.mem_append_left _ among)
  · exact pursued.step watched.account (fun step among => List.mem_append_right _ among) transition

/-! ### Runs -/

variable {steps : List (Step ρ)} {final : Connection ρ}

/-- What the account says before and after each step of a run. The claims about single steps are
read off here. -/
theorem Leads.account (leads : Leads {} steps final) {front back : List (Step ρ)} {step : Step ρ}
    (parts : steps = front ++ step :: back) :
    Account front step.before ∧ Transition step.before step.move step.after ∧
      Account (front ++ [step]) step.after ∧ Leads step.after back final := by
  subst parts
  obtain ⟨middle, earlier, later⟩ := leads.split
  obtain ⟨rfl, transition, onward⟩ := later.head
  have account : Account front step.before :=
    earlier.accumulate (fun transition account => account.step transition) account_fresh
  exact ⟨account, transition, account.step transition, onward⟩

/-- Between two attempts there is a reason for the second one.

From the first attempt on it is watched, step by step up to the second one. If there were no reason
by then, the first attempt would still be pursued, and nobody begins another one during that. -/
theorem Leads.justified (leads : Leads {} steps final)
    {front middle back : List (Step ρ)} {first second : Step ρ} {other : CallerId}
    (parts : steps = front ++ first :: (middle ++ second :: back))
    (one : first.Attempts caller) (another : second.Attempts other) :
    Justified caller middle := by
  obtain ⟨-, begun, account, onward⟩ := leads.account parts
  obtain ⟨ending, between, later⟩ := onward.split
  obtain ⟨rfl, again, -⟩ := later.head
  have watched : Watched (front ++ [first]) caller ([] ++ middle) second.before :=
    between.accumulate (fun transition watched => watched.step transition)
      ⟨by rwa [List.append_nil], Or.inr (.connecting (begun.attempts one).2)⟩
  rcases watched.reason with justified | pursued
  · exact justified
  · exact absurd (again.attempts another).1 (pursued.not_retiring watched.account.orderly other)

/-! ### The number of calls

Calls are counted from here on, so that payloads have to be told apart. -/

variable [DecidableEq ρ] {rounds : List (Option ChannelId)}

/-- At most one call begins in a step. -/
theorem Transition.noted (transition : Transition before move after) (call : Call ρ) :
    after.calls.count call = before.calls.count call +
      [(⟨before, move, after⟩ : Step ρ)].countP fun step => step.Begins call := by
  have single {begun : Call ρ} (calls : after.calls = before.calls ++ [begun]) :
      after.calls.count call = before.calls.count call +
        [(⟨before, move, after⟩ : Step ρ)].countP fun step => step.Begins call := by
    have same : (⟨before, move, after⟩ : Step ρ).Begins call ↔ begun = call := by
      unfold Step.Begins
      rw [calls]
      simp
    rw [calls, List.count_append]
    simp [List.countP_cons, same, List.count_singleton]
  cases transition.adds with
  | nothing calls channels =>
    have silent : ¬(⟨before, move, after⟩ : Step ρ).Begins call := by
      unfold Step.Begins
      rw [calls]
      simp
    simp [calls, silent]
  | attempt _ _ _ _ calls | channel _ _ _ calls | publish _ _ _ _ _ calls => exact single calls

/-- The calls noted at the end of a run are those that began in some step of it, each as often. -/
theorem Leads.noted (leads : Leads {} steps final) (call : Call ρ) :
    final.calls.count call = steps.countP fun step => step.Begins call := by
  let counted (done : List (Step ρ)) (connection : Connection ρ) : Prop :=
    connection.calls.count call = done.countP fun step => step.Begins call
  have ended : counted ([] ++ steps) final := by
    refine leads.accumulate (fun transition before => ?_) rfl
    exact (transition.noted call).trans (before ▸ List.countP_append.symm)
  rwa [List.nil_append] at ended

theorem count_declare_callsOf (rounds : List (Option ChannelId)) (channel : ChannelId) :
    (rounds.flatMap callsOf).count (.declare channel : Call ρ) =
      (rounds.filterMap id).count channel := by
  induction rounds with
  | nil => rfl
  | cons gained rounds inductionHypothesis =>
    rw [List.flatMap_cons, List.count_append, inductionHypothesis]
    cases gained with
    | none => simp [callsOf]
    | some other => simp [callsOf, List.count_cons, Nat.add_comm]

theorem count_connect_callsOf (rounds : List (Option ChannelId)) :
    (rounds.flatMap callsOf).count (.connect : Call ρ) = rounds.length := by
  induction rounds with
  | nil => rfl
  | cons gained rounds inductionHypothesis =>
    rw [List.flatMap_cons, List.count_append, inductionHypothesis]
    cases gained <;> simp [callsOf, Nat.add_comm]

/-- A connect or declare call is counted among the reconnections. -/
theorem count_reconnections (connection : Connection ρ) {call : Call ρ}
    (reconnects : call.reconnects = true) :
    connection.reconnections.count call = connection.calls.count call :=
  List.count_filter reconnects

/-- A channel is declared once if it was connected, and otherwise never, because the attempts gave
the channels one by one. -/
theorem Booked.count_declare (booked : Booked before rounds) (channel : ChannelId) :
    before.calls.count (.declare channel) ≤ 1 ∧
      (before.calls.count (.declare channel) = 1 ↔ before.Has channel) := by
  rw [← count_reconnections before rfl, booked.calls, count_declare_callsOf, booked.channels]
  have once : (List.range' 1 before.channels.length).count channel ≤ 1 :=
    List.nodup_iff_count.mp (List.nodup_range' ..) channel
  refine ⟨once, ?_⟩
  have among : channel ∈ List.range' 1 before.channels.length ↔ before.Has channel := by
    rw [List.mem_range'_1, Nat.add_comm, Nat.lt_succ_iff]
    rfl
  rw [← among, ← List.count_pos_iff]
  omega

/-- As many connect calls began as there were attempts. -/
theorem Booked.count_connect (booked : Booked before rounds) :
    before.calls.count .connect = rounds.length := by
  rw [← count_reconnections before rfl, booked.calls, count_connect_callsOf]

/-! ### Single flights -/

/-- If nothing fails and no channel is shut, one reconnection is enough for whoever has returned.
Two attempts would need a reason between them, and no attempt would leave nothing to return. -/
theorem Leads.sufficient (leads : Leads {} steps final)
    (flawless : ∀ step ∈ steps, ∀ caller, ¬step.Fails caller)
    (lasting : ∀ step ∈ steps, ∀ channel, ¬step.LeavesShut channel)
    {result : Except Error ChannelId} (returned : final.stages caller = .finished result) :
    final.reconnections = [.connect, .declare 1] := by
  have account : Account ([] ++ steps) final :=
    leads.accumulate (fun transition account => account.step transition) account_fresh
  rw [List.nil_append] at account
  have unjustified (attempter : CallerId) {part : List (Step ρ)}
      (within : ∀ step ∈ part, step ∈ steps) : ¬Justified attempter part := by
    rintro (⟨step, among, fails, _⟩ | ⟨channel, _, step, among, shut | ⟨_, fails, _⟩⟩)
    · exact flawless step (within step among) _ fails
    · exact lasting step (within step among) _ shut
    · exact flawless step (within step among) _ fails
  have single : final.calls.count .connect < 2 := by
    rw [leads.noted, ← Nat.not_le]
    intro twice
    obtain ⟨front, first, middle, second, back, parts, one, another⟩ := exists_two twice
    obtain ⟨caller, one⟩ := (leads.account parts).2.1.begins_connect (of_decide_eq_true one)
    have parts_ : steps = (front ++ first :: middle) ++ second :: back := by simp [parts]
    obtain ⟨other, another⟩ :=
      (leads.account parts_).2.1.begins_connect (of_decide_eq_true another)
    have within : ∀ step ∈ middle, step ∈ steps := fun step among => by simp [parts, among]
    exact unjustified caller within (leads.justified parts one another)
  obtain ⟨channel, has⟩ : ∃ channel, final.Has channel := by
    cases result with
    | error error =>
      obtain ⟨step, among, failed, fails⟩ := account.failed caller error (by rw [returned]; rfl)
      exact absurd fails (flawless step among failed)
    | ok channel => exact ⟨channel, account.offered (Or.inr ⟨caller, by rw [returned]; rfl⟩)⟩
  obtain ⟨rounds, booked⟩ := account.rounds
  rw [booked.count_connect] at single
  rw [booked.calls]
  have gained := booked.channels
  obtain ⟨number, some_⟩ : ∃ number, final.channels.length = number + 1 :=
    Nat.exists_eq_succ_of_ne_zero (Nat.ne_of_gt (Nat.lt_of_lt_of_le has.1 has.2))
  rw [some_, List.range'_succ] at gained
  match rounds with
  | [] => cases gained
  | [none] => cases gained
  | [some channel] =>
    cases (List.cons.inj gained).1
    rfl
  | _ :: _ :: rest => exact absurd single (Nat.not_lt_of_le (Nat.le_add_left 2 rest.length))

/-- What is true of the steps of a run and of the state at its end. The steps are the whole history,
and nothing is assumed of the order in which callers, broker and world come. -/
structure SingleFlight (steps : List (Step ρ)) (final : Connection ρ) : Prop where
  /-- Every call to the broker begins in a step. -/
  noted : ∀ call, final.calls.count call = steps.countP fun step => step.Begins call
  /-- No two connect or declare calls are ever in progress at the same time. -/
  alone : ∀ step ∈ steps, ∀ first second, step.after.Reconnecting first →
    step.after.Reconnecting second → first = second
  /-- Every channel that a connect call gives is declared at once, and nothing is connected or
  declared between the two calls. -/
  declares : ∀ step ∈ steps, ∀ caller channel, step.Connects caller channel →
    step.Begins (.declare channel) ∧
      ∃ earlier, step.before.reconnections = earlier ++ [.connect] ∧
        step.after.reconnections = earlier ++ [.connect, .declare channel]
  /-- No channel is declared twice, and none that was not connected. -/
  once : ∀ channel, final.calls.count (.declare channel) ≤ 1 ∧
    (final.calls.count (.declare channel) = 1 ↔
      ∃ step ∈ steps, ∃ caller, step.Connects caller channel)
  /-- Messages are published on declared channels only. -/
  declared : ∀ front step back, steps = front ++ step :: back →
    ∀ channel properties payload, step.Begins (.publish channel properties payload) →
      ∃ earlier ∈ front, earlier.Declares channel
  /-- No attempt to connect follows another one without a reason between them. -/
  justified : ∀ front first middle second back,
    steps = front ++ first :: (middle ++ second :: back) →
    ∀ caller other, first.Attempts caller → second.Attempts other → Justified caller middle
  /-- If nothing fails and no channel closes, one reconnection serves everyone who has returned. -/
  sufficient : (∀ step ∈ steps, ∀ caller, ¬step.Fails caller) →
    (∀ step ∈ steps, ∀ channel, ¬step.LeavesShut channel) →
    ∀ caller, (∃ result, final.stages caller = .finished result) →
      final.reconnections = [.connect, .declare 1]

/-- Reconnections are single and justified, for every order in which the moves of any number of
callers, of the broker and of the world around come.

Proof: the account holds at every moment, by `Account.step` along the run. It says that whoever has
a connect or declare call in progress holds the lock, of whom there is one; it contains the record
of the attempts, so that a channel is declared in the step that gives it, and once; and it takes
every channel in use back to its declaration. Reasons between attempts come of `Leads.justified`,
which follows one attempt until the next, and the corollary for runs without failures is
`Leads.sufficient`. -/
theorem single_flight {moves : List (Move ρ)} (run : run? {} moves = some final) :
    SingleFlight (Connection.steps {} moves) final := by
  have leads := leads_of_run? run
  have ended : Account ([] ++ Connection.steps {} moves) final :=
    leads.accumulate (fun transition account => account.step transition) account_fresh
  rw [List.nil_append] at ended
  obtain ⟨rounds, booked⟩ := ended.rounds
  constructor
  · exact leads.noted
  · intro step among first second one another
    obtain ⟨front, back, parts⟩ := List.append_of_mem among
    obtain ⟨_, _, account, _⟩ := leads.account parts
    exact account.orderly.alone one.holds another.holds
  · intro step among caller channel connects
    obtain ⟨front, back, parts⟩ := List.append_of_mem among
    obtain ⟨account, transition, _⟩ := leads.account parts
    obtain ⟨rounds, booked⟩ := account.rounds
    obtain ⟨earlier, connecting⟩ := booked.connecting connects.1
    have begins := transition.connects connects
    refine ⟨begins, earlier, connecting, ?_⟩
    rw [reconnections_of_calls begins, connecting]
    simp [Call.reconnects]
  · intro channel
    rw [← ended.connected channel]
    exact booked.count_declare channel
  · intro front step back parts channel properties payload begins
    obtain ⟨account, transition, _⟩ := leads.account parts
    obtain ⟨caller, ready⟩ := transition.publishes begins
    exact account.declared channel (Or.inr ⟨caller, by rw [ready]; rfl⟩)
  · intro front first middle second back parts caller other one another
    exact leads.justified parts one another
  · intro flawless lasting caller returns
    obtain ⟨result, returned⟩ := returns
    exact leads.sufficient flawless lasting returned

/-- Two callers want to publish and find no channel. The second one waits while the first one
connects. Both publish on the channel; the first one is refused, drops it and leaves the third
caller a reason to connect again. -/
def crossedPublishers : List Move :=
  [.call 1 (.publish "placed" "first"), .call 2 (.publish "placed" "second"),
    .proceed 1, .proceed 2, .proceed 1, .proceed 2, .proceed 1, .proceed 1, .reply 1 none true,
    .reply 1 none true, .proceed 1, .proceed 2, .proceed 1, .proceed 2,
    .reply 1 (some (.publish "refused")) true, .reply 2 none true, .proceed 1,
    .call 3 .channel, .proceed 3, .proceed 3, .proceed 3, .proceed 3, .reply 3 none true,
    .reply 3 none true, .proceed 3, .proceed 3]

theorem single_flight_crossedPublishers :
    ∃ final, run? {} crossedPublishers = some final ∧
      final.reconnections = [.connect, .declare 1, .connect, .declare 2] ∧
      SingleFlight (Connection.steps {} crossedPublishers) final :=
  ⟨_, rfl, rfl, single_flight rfl⟩

end OutboxRelay.Broker.Connection

import OutboxRelay.Proofs.Broker.Transition

/-!
# Steps of a reconnection

What a step of a run does to the calls to the broker, the channels and the stages of the callers:
the call that begins in it, the channel that comes into use by it, and what a caller must have done
to be where it is. The connect and declare calls made so far are those of the attempts to reconnect,
one attempt after the other: a connect call and then the declare call for the channel that it gave.
-/

namespace OutboxRelay.Broker

variable {ρ : Type}

/-- Whether a call is part of a reconnection. -/
def Call.reconnects : Call ρ → Bool
  | .connect | .declare _ => true
  | .publish .. => false

/-! ### What happens in a step -/

namespace Connection

/-- The connect and declare calls, in the order in which they began. Calls that publish are left
out. -/
def reconnections (connection : Connection ρ) : List (Call ρ) :=
  connection.calls.filter (·.reconnects)

/-- A connect or declare call of a caller is in progress. -/
def Reconnecting (connection : Connection ρ) (caller : CallerId) : Prop :=
  connection.stages caller = .connecting ∨
    ∃ channel, connection.stages caller = .declaring channel

/-- Whether a channel was ever connected. Channels are numbered in the order of their connect calls,
from one on. -/
def Has (connection : Connection ρ) (channel : ChannelId) : Prop :=
  0 < channel ∧ channel ≤ connection.channels.length

end Connection

namespace Step

/-- A call to the broker begins. It is told by the record of calls, whoever makes it. -/
def Begins (call : Call ρ) (step : Step ρ) : Prop :=
  step.after.calls = step.before.calls ++ [call]

instance [DecidableEq ρ] (call : Call ρ) (step : Step ρ) : Decidable (step.Begins call) :=
  inferInstanceAs (Decidable (_ = _))

/-- A caller's connect call begins, which is the beginning of an attempt to reconnect. -/
def Attempts (caller : CallerId) (step : Step ρ) : Prop :=
  step.move = .proceed caller ∧ step.Begins .connect

/-- A caller's connect call gives a channel, for which the declare call begins in the same step. -/
def Connects (caller : CallerId) (channel : ChannelId) (step : Step ρ) : Prop :=
  step.before.stages caller = .connecting ∧ step.after.stages caller = .declaring channel

/-- A call to the broker fails: the broker ends the call of a caller with an error. -/
def Fails (caller : CallerId) (step : Step ρ) : Prop :=
  ∃ error bornOpen, step.move = .reply caller (some error) bornOpen

/-- A caller's connect or declare call fails. -/
def FailsToReconnect (caller : CallerId) (step : Step ρ) : Prop :=
  step.Fails caller ∧ step.before.Reconnecting caller

/-- The declare call for a channel succeeds. -/
def Declares (channel : ChannelId) (step : Step ρ) : Prop :=
  ∃ caller bornOpen, step.move = .reply caller none bornOpen ∧
    step.before.stages caller = .declaring channel

/-- A publish call on a channel fails. Whoever made it has reason to drop the channel. -/
def Refuses (channel : ChannelId) (step : Step ρ) : Prop :=
  ∃ caller, step.Fails caller ∧ step.before.stages caller = .publishing channel

/-- A channel is not open once the step is done, be it shut from outside or born closed. -/
def LeavesShut (channel : ChannelId) (step : Step ρ) : Prop :=
  step.after.Has channel ∧ step.after.isOpen channel = false

end Step

namespace Connection

variable {before after : Connection ρ} {move : Move ρ}

/-! ### Channels that are offered -/

/-- A channel is cached, or some caller works with it beyond its declaration. -/
def Offers (connection : Connection ρ) (channel : ChannelId) : Prop :=
  connection.cached = some channel ∨
    ∃ caller, (connection.stages caller).offered? = some channel

/-- Only the caller that declared a channel caches it, and is then ready to use it. Every other step
keeps the cached channel or drops it. -/
theorem Transition.caches (transition : Transition before move after) {channel : ChannelId}
    (cached : after.cached = some channel) :
    before.cached = some channel ∨
      ∃ maker, before.stages maker = .storing channel ∧ after.stages maker = .ready channel := by
  cases transition <;> grind

/-- A caller comes to work with a channel by finding it cached or by having it declared. -/
theorem Transition.offered (transition : Transition before move after) {caller : CallerId}
    {channel : ChannelId} (offered : (after.stages caller).offered? = some channel) :
    (before.stages caller).offered? = some channel ∨ before.cached = some channel ∨
      before.stages caller = .declaring channel ∧ Step.Declares channel ⟨before, move, after⟩ := by
  have := @openChannel?_eq_some _ before
  cases transition <;> grind [Stage.offered?, Step.Declares]

/-- Only a declare call that succeeds brings a channel into use. -/
theorem Transition.offers (transition : Transition before move after) {channel : ChannelId}
    (offers : after.Offers channel) :
    before.Offers channel ∨ Step.Declares channel ⟨before, move, after⟩ := by
  rcases offers with cached | ⟨caller, offered⟩
  · rcases transition.caches cached with cached | ⟨maker, storing, _⟩
    · exact Or.inl (Or.inl cached)
    · exact Or.inl (Or.inr ⟨maker, by rw [storing]; rfl⟩)
  · rcases transition.offered offered with offered | cached | ⟨_, declares⟩
    · exact Or.inl (Or.inr ⟨caller, offered⟩)
    · exact Or.inl (Or.inl cached)
    · exact Or.inr declares

/-! ### Calls that begin -/

/-- What a transition adds to the calls and the channels: at most one call, and a channel only at
the end of a connect call. -/
inductive Adds (before : Connection ρ) (move : Move ρ) (after : Connection ρ) : Prop where
  | nothing (calls : after.calls = before.calls)
    (channels : after.channels.length = before.channels.length)
  | attempt (caller : CallerId) (proceeds : move = .proceed caller)
    (retiring : before.stages caller = .retiring) (connecting : after.stages caller = .connecting)
    (calls : after.calls = before.calls ++ [.connect])
    (channels : after.channels.length = before.channels.length)
  | channel (caller : CallerId) (connecting : before.stages caller = .connecting)
    (declaring : after.stages caller = .declaring (before.channels.length + 1))
    (calls : after.calls = before.calls ++ [.declare (before.channels.length + 1)])
    (channels : after.channels.length = before.channels.length + 1)
  | publish (caller : CallerId) (channel : ChannelId) (properties : Properties) (payload : ρ)
    (ready : before.stages caller = .ready channel)
    (calls : after.calls = before.calls ++ [.publish channel properties payload])
    (channels : after.channels.length = before.channels.length)

theorem Transition.adds (transition : Transition before move after) : Adds before move after := by
  cases transition with
  | @connect caller retiring =>
    exact .attempt caller rfl retiring (stages_moveTo_self _ _ _) rfl rfl
  | @connected caller bornOpen connecting =>
    exact .channel caller connecting (stages_moveTo_self _ _ _) rfl List.length_append
  | @publish caller channel eventType payload ready asked =>
    exact .publish caller channel _ payload ready rfl rfl
  | changed => exact .nothing rfl List.length_set
  | spared | stored | unconnected | undeclared => exact .nothing (by simp) (by simp)
  | _ => exact .nothing rfl rfl

/-- A caller is at its connect call only once that began. -/
theorem Transition.connecting (transition : Transition before move after) {caller : CallerId}
    (connecting : after.stages caller = .connecting) :
    before.stages caller = .connecting ∨ after.calls = before.calls ++ [.connect] := by
  cases transition <;> grind

/-- A caller is at its declare call only once its connect call gave the channel. -/
theorem Transition.declaring (transition : Transition before move after) {caller : CallerId}
    {channel : ChannelId} (declaring : after.stages caller = .declaring channel) :
    before.stages caller = .declaring channel ∨
      before.stages caller = .connecting ∧ channel = before.channels.length + 1 ∧
        after.channels.length = channel := by
  cases transition <;> grind

/-- A caller drops a channel only once a publish call on it failed. -/
theorem Transition.discarding (transition : Transition before move after) {caller : CallerId}
    {channel : ChannelId} {error : Error}
    (discarding : after.stages caller = .discarding channel error) :
    before.stages caller = .discarding channel error ∨
      Step.Refuses channel ⟨before, move, after⟩ := by
  cases transition <;> grind [Step.Refuses, Step.Fails]

/-- Nobody returns a failure that no call to the broker reported. -/
theorem Transition.failing (transition : Transition before move after) {caller : CallerId}
    {error : Error} (failing : (after.stages caller).failure? = some error) :
    (before.stages caller).failure? = some error ∨
      ∃ failed, Step.Fails failed ⟨before, move, after⟩ := by
  cases transition with
  | unconnected | undeclared | refused => exact Or.inr ⟨_, _, _, rfl⟩
  | _ => exact Or.inl (by grind [Stage.failure?])

/-- A channel is new exactly if a connect call gave it. This ties the numbers of channels to the
events of the run. -/
theorem Transition.connects_iff (transition : Transition before move after)
    (channel : ChannelId) :
    (∃ caller, Step.Connects caller channel ⟨before, move, after⟩) ↔
      after.Has channel ∧ ¬before.Has channel := by
  constructor
  · rintro ⟨caller, connecting, declaring⟩
    rcases transition.declaring declaring with already | ⟨_, same, last⟩
    · rw [show before.stages caller = .connecting from connecting] at already
      cases already
    · constructor
      · exact ⟨same ▸ Nat.succ_pos _, Nat.le_of_eq last.symm⟩
      · exact fun known => Nat.not_succ_le_self _ (same ▸ known.2)
  · rintro ⟨has, new⟩
    cases transition.adds with
    | channel caller connecting declaring _ channels =>
      have last : channel = before.channels.length + 1 := by
        have beyond : ¬channel ≤ before.channels.length := fun known => new ⟨has.1, known⟩
        exact Nat.le_antisymm (channels ▸ has.2) (Nat.lt_of_not_le beyond)
      exact ⟨caller, connecting, last ▸ declaring⟩
    | nothing _ channels | attempt _ _ _ _ _ channels | publish _ _ _ _ _ _ channels =>
      exact absurd ⟨has.1, channels ▸ has.2⟩ new

/-! ### The record of reconnections -/

/-- The calls of an attempt to reconnect: a connect call and, if that gave a channel, the declare
call for it. -/
def callsOf (gained : Option ChannelId) : List (Call ρ) :=
  .connect :: gained.toList.map .declare

/-- What the attempts so far gave, in order. An attempt that failed gave nothing, and neither did
the last one as long as its connect call is in progress. The list of attempts explains the calls and
the channels at once, which is why the two cannot disagree. -/
structure Booked (connection : Connection ρ) (rounds : List (Option ChannelId)) : Prop where
  calls : connection.reconnections = rounds.flatMap callsOf
  channels : rounds.filterMap id = List.range' 1 connection.channels.length
  current : ∀ caller, connection.stages caller = .connecting →
    ∃ earlier, rounds = earlier ++ [none]

theorem booked_fresh : Booked ({} : Connection ρ) [] := ⟨rfl, rfl, nofun⟩

theorem reconnections_of_calls {call : Call ρ} (calls : after.calls = before.calls ++ [call]) :
    after.reconnections =
      before.reconnections ++ if call.reconnects then [call] else [] := by
  unfold reconnections
  rw [calls, List.filter_append]
  cases reconnects : call.reconnects <;> simp [reconnects]

/-- Every transition keeps the record. A channel ends the last attempt, which is its own, because no
other caller can be at a connect call. A transition that begins an attempt appends one that gave
nothing yet. -/
theorem Booked.step {rounds : List (Option ChannelId)} (booked : Booked before rounds)
    (orderly : Orderly before) (transition : Transition before move after) :
    ∃ rounds, Booked after rounds := by
  have current {caller : CallerId} (quiet : after.calls ≠ before.calls ++ [.connect])
      (connecting : after.stages caller = .connecting) : ∃ earlier, rounds = earlier ++ [none] :=
    booked.current caller ((transition.connecting connecting).resolve_right quiet)
  cases transition.adds with
  | nothing calls channels =>
    refine ⟨rounds, ?_, channels ▸ booked.channels, fun caller => current ?_⟩
    · rw [← booked.calls, reconnections, calls]
      rfl
    · simp [calls]
  | attempt caller _ _ _ calls channels =>
    refine ⟨rounds ++ [none], ?_, ?_, fun _ _ => ⟨rounds, rfl⟩⟩
    · rw [reconnections_of_calls calls, booked.calls, List.flatMap_append]
      rfl
    · rw [List.filterMap_append, booked.channels, channels]
      exact List.append_nil _
  | channel caller connecting declaring calls channels =>
    obtain ⟨earlier, rfl⟩ := booked.current caller connecting
    refine ⟨earlier ++ [some (before.channels.length + 1)], ?_, ?_, ?_⟩
    · rw [reconnections_of_calls calls, booked.calls]
      simp [callsOf, Call.reconnects]
    · have gained : earlier.filterMap id = List.range' 1 before.channels.length := by
        simpa using booked.channels
      rw [channels, List.range'_1_concat, List.filterMap_append, gained, Nat.add_comm]
      rfl
    · intro other stillConnecting
      rcases transition.connecting stillConnecting with already | new
      · have same : other = caller :=
          orderly.alone (by rw [already]; rfl) (by rw [connecting]; rfl)
        rw [same, declaring] at stillConnecting
        cases stillConnecting
      · rw [calls] at new
        cases List.append_cancel_left new
  | publish caller channel properties payload ready calls channels =>
    refine ⟨rounds, ?_, channels ▸ booked.channels, fun caller => current ?_⟩
    · rw [reconnections_of_calls calls, booked.calls]
      simp [Call.reconnects]
    · simp [calls]

end Connection

end OutboxRelay.Broker

import OutboxRelay.Proofs.Broker.CacheLock

/-!
# Progress of callers

As long as some caller has not returned and no call to the broker is in progress, some caller that
has not returned can go on: somebody inside the lock of the cached channel, or the first in its
queue, or, if nobody is there, a caller that waits for nobody. Whoever holds the reconnect lock
never waits for anyone who waits for it.

Every move of a caller takes it closer to its return, and no move of another one takes it back, so
that a caller is through after a number of moves that is fixed in advance.
-/

namespace OutboxRelay.Broker

variable {ρ : Type}

namespace Stage

/-- Whether a caller at this stage has called and not returned. -/
def underway : Stage → Bool
  | .idle | .finished _ => false
  | _ => true

/-- Whether a call to the broker is in progress for a caller at this stage. -/
def calling : Stage → Bool
  | .connecting | .declaring _ | .publishing _ => true
  | _ => false

/-- Whether a caller at this stage needs nobody else to go on, but for the lock of the cached
channel. -/
def able : Stage → Bool
  | .looking | .arriving | .rechecking | .retiring | .storing _ | .ready _ | .discarding .. => true
  | _ => false

/-- How many stages a caller has before it at most. The number falls with every stage, whichever way
a caller takes. -/
def ahead : Stage → Nat
  | .idle => 12
  | .looking => 11
  | .arriving => 10
  | .queued => 9
  | .rechecking => 8
  | .retiring => 7
  | .connecting => 6
  | .declaring _ => 5
  | .storing _ => 4
  | .ready _ => 3
  | .publishing _ => 2
  | .discarding .. => 1
  | .finished _ => 0

variable {stage : Stage}

theorem able_of_access? (accesses : stage.access? ≠ none) : stage.able = true := by
  revert accesses
  cases stage <;> simp [access?, able]

theorem underway_of_able (able : stage.able = true) : stage.underway = true := by
  revert able
  cases stage <;> simp [Stage.able, underway]

theorem underway_of_holds (holds : stage.holds = true) : stage.underway = true := by
  revert holds
  cases stage <;> simp [Stage.holds, underway]

/-- Whoever holds the reconnect lock waits for the broker or can go on. It never waits for another
caller to give it something. -/
theorem able_of_holds (holds : stage.holds = true) (quiet : stage.calling = false) :
    stage.able = true := by
  revert holds quiet
  cases stage <;> simp [Stage.holds, calling, able]

theorem able_or_waits (underway : stage.underway = true) (quiet : stage.calling = false) :
    stage.able = true ∨ stage.waits = true := by
  revert underway quiet
  cases stage <;> simp [Stage.underway, calling, able, waits]

end Stage

namespace Connection

variable {before after : Connection ρ} {move : Move ρ} {caller : CallerId}

/-- Whoever needs nobody else can go on. -/
theorem proceeds_of_able (able : (before.stages caller).able = true) :
    ∃ after, before.next? (.proceed caller) = some after := by
  simp only [next?, proceed?]
  revert able
  cases before.stages caller <;> simp [Stage.able]

/-- The broker can end a call that is in progress. -/
theorem replies_of_calling (calling : (before.stages caller).calling = true) :
    ∃ after, before.next? (.reply caller none true) = some after := by
  simp only [next?, reply?]
  revert calling
  cases before.stages caller <;> simp [Stage.calling]

/-- If no call to the broker is in progress, somebody needs nobody else. A caller that waits for the
reconnect lock waits for its holder, who does not wait. -/
theorem Orderly.able (orderly : Orderly before)
    (quiet : ∀ caller, (before.stages caller).calling = false)
    (underway : (before.stages caller).underway = true) :
    ∃ other, (before.stages other).able = true := by
  rcases Stage.able_or_waits underway (quiet caller) with able | waits
  · exact ⟨caller, able⟩
  · have queued := (orderly.queue caller).mp waits
    cases held : before.holder with
    | none =>
      rw [orderly.busy held] at queued
      cases queued
    | some holder =>
      exact ⟨holder, Stage.able_of_holds ((orderly.holder holder).mpr held) (quiet holder)⟩

/-- A caller's own move takes it closer to its return, and so it has only so many moves. -/
theorem Transition.ahead_lt (transition : Transition before move after)
    (moves : move.caller? = some caller) :
    (after.stages caller).ahead < (before.stages caller).ahead := by
  cases transition <;> cases moves <;> simp_all [Stage.ahead]

/-- No move takes a caller back. -/
theorem Transition.ahead_le (transition : Transition before move after)
    (orderly : Orderly before) (caller : CallerId) :
    (after.stages caller).ahead ≤ (before.stages caller).ahead := by
  by_cases moves : move.caller? = some caller
  · exact Nat.le_of_lt (transition.ahead_lt moves)
  · rcases (transition.bystander orderly moves).2 with same | ⟨queued, rechecking⟩
    · exact Nat.le_of_eq (congrArg Stage.ahead same)
    · rw [queued, rechecking]
      exact Nat.le_succ 8

end Connection

namespace Guarded

variable {before after : Guarded ρ} {move : Move ρ} {caller : CallerId}

/-- Whether a move ends a caller's call to the broker with a failure. -/
def Move.failsFor (caller : CallerId) : Move ρ → Bool
  | .act (.reply other (some _) _) => other = caller
  | _ => false

/-- If no call to the broker is in progress, somebody who has not returned can go on. Whoever is
inside the lock of the cached channel can. If nobody is, the first in its queue can enter; and if
nobody waits there either, whoever needs nobody else can go on or be let in at once.

The two locks cannot block each other, because a caller inside the lock of the cached channel waits
for nothing. -/
theorem Kept.progress (kept : Kept before)
    (quiet : ∀ caller, (before.connection.stages caller).calling = false)
    (underway : (before.connection.stages caller).underway = true) :
    ∃ other, (before.connection.stages other).underway = true ∧
      ∃ move, move.caller? = some other ∧ move.failsFor other = false ∧
        ∃ after, before.next? move = some after := by
  have underway_of_access? {other : CallerId} (accesses : before.access? other ≠ none) :
      (before.connection.stages other).underway = true :=
    Stage.underway_of_able (Stage.able_of_access? accesses)
  cases entered : before.inside with
  | cons first others =>
    have inside : first ∈ before.inside := entered ▸ List.mem_cons_self
    have accesses := kept.accessing first (List.mem_append_left _ inside)
    obtain ⟨after, possible⟩ := Connection.proceeds_of_able (Stage.able_of_access? accesses)
    refine ⟨first, underway_of_access? accesses, .act (.proceed first), rfl, rfl, ?_⟩
    simp [next?, bars, Broker.Move.caller?, inside, possible]
  | nil =>
    cases waits : before.waiting with
    | cons first others =>
      have accesses := kept.accessing first (by simp [waits])
      refine ⟨first, underway_of_access? accesses, .enter first, rfl, rfl, ?_⟩
      simp [next?, waits, admits_of_empty entered accesses]
    | nil =>
      obtain ⟨other, able⟩ := kept.orderly.able quiet underway
      refine ⟨other, Stage.underway_of_able able, ?_⟩
      by_cases accesses : before.access? other = none
      · obtain ⟨after, possible⟩ := Connection.proceeds_of_able able
        refine ⟨.act (.proceed other), rfl, rfl, ?_⟩
        simp [next?, bars, Broker.Move.caller?, accesses, possible]
      · refine ⟨.ask other, rfl, rfl, ?_⟩
        simp [next?, entered, waits, accesses, admits_of_empty entered accesses]

/-- How many moves a caller has before it at most: up to three for each of its stages, since it may
have to ask for the lock of the cached channel and to enter it first. -/
def ahead (guarded : Guarded ρ) (caller : CallerId) : Nat :=
  3 * (guarded.connection.stages caller).ahead +
    if caller ∈ guarded.inside then 0 else if caller ∈ guarded.waiting then 1 else 2

theorem ahead_le (guarded : Guarded ρ) (caller : CallerId) :
    guarded.ahead caller ≤ 3 * (guarded.connection.stages caller).ahead + 2 := by
  unfold ahead
  split
  · omega
  · split <;> omega

/-- Whoever is let in was not inside. -/
theorem Kept.outside (kept : Kept before) {waiting : List CallerId}
    (waits : before.waiting = caller :: waiting) : caller ∉ before.inside := by
  intro inside
  refine (List.nodup_append.mp kept.once).2.2 caller inside caller ?_ rfl
  rw [waits]
  exact List.mem_cons_self

/-- A caller's own move takes it closer to its return. -/
theorem Transition.ahead_lt (transition : Transition before move after) (kept : Kept before)
    (moves : move.caller? = some caller) : after.ahead caller < before.ahead caller := by
  cases transition with
  | @entered entering _ waiting admits how =>
    have outside : entering ∉ before.inside ∧ move.caller? = some entering := by
      rcases how with ⟨rfl, outside, _, _⟩ | ⟨rfl, waits⟩
      · exact ⟨outside, rfl⟩
      · exact ⟨kept.outside waits, rfl⟩
    cases outside.2.symm.trans moves
    simp only [ahead, outside.1, List.mem_cons_self, if_true, if_false]
    split <;> omega
  | queued accesses outside new =>
    cases moves
    simp [ahead, outside, new]
  | @acted move after free transition =>
    have closer := transition.ahead_lt moves
    calc ahead _ caller
        ≤ 3 * (after.stages caller).ahead + 2 := ahead_le _ caller
      _ < 3 * (before.connection.stages caller).ahead := by omega
      _ ≤ before.ahead caller := Nat.le_add_right _ _

/-- No move of another caller takes a caller back. -/
theorem Transition.ahead_le (transition : Transition before move after) (kept : Kept before)
    (caller : CallerId) : after.ahead caller ≤ before.ahead caller := by
  by_cases moves : move.caller? = some caller
  · exact Nat.le_of_lt (transition.ahead_lt kept moves)
  cases transition with
  | @entered entering _ waiting admits how =>
    have same : (caller ∈ entering :: before.inside ↔ caller ∈ before.inside) ∧
        (caller ∈ waiting ↔ caller ∈ before.waiting) := by
      rcases how with ⟨rfl, _, _, rfl⟩ | ⟨rfl, waits⟩
      · have other : caller ≠ entering := fun same => moves (congrArg some same.symm)
        simp [other]
      · have other : caller ≠ entering := fun same => moves (congrArg some same.symm)
        simp [waits, other]
    simp [ahead, same]
  | @queued entering =>
    have other : caller ≠ entering := fun same => moves (congrArg some same.symm)
    simp [ahead, other]
  | @acted move after free transition =>
    have other : move.caller? ≠ some caller := moves
    have stays : caller ∈ before.inside.filter (move.caller? ≠ some ·) ↔
        caller ∈ before.inside := by
      simp [other]
    have closer := transition.ahead_le kept.orderly caller
    simp only [ahead, stays]
    omega

/-- In a run, a caller makes no more moves than it has before it, by induction on the moves. -/
theorem countP_add_ahead_le {moves : List (Move ρ)} {start final : Guarded ρ} (kept : Kept start)
    (run : run? start moves = some final) (caller : CallerId) :
    moves.countP (·.caller? = some caller) + final.ahead caller ≤ start.ahead caller := by
  induction moves generalizing start with
  | nil =>
    cases run
    simp
  | cons move moves inductionHypothesis =>
    obtain ⟨after, possible, onward⟩ := Option.bind_eq_some_iff.mp run
    have transition := transition_of_next? possible
    have rest := inductionHypothesis (kept.step transition) onward
    rw [List.countP_cons]
    split
    · next moves =>
      have closer := transition.ahead_lt kept (of_decide_eq_true moves)
      omega
    · have closer := transition.ahead_le kept caller
      omega

/-- Whoever has called is never again as if it had not. -/
theorem Transition.begun (transition : Transition before move after) (kept : Kept before)
    (begun : before.connection.stages caller ≠ .idle) :
    after.connection.stages caller ≠ .idle := by
  cases transition with
  | entered | queued => exact begun
  | acted free transition =>
    have closer := transition.ahead_le kept.orderly caller
    intro idle
    rw [idle] at closer
    revert begun closer
    cases before.connection.stages caller <;> simp [Stage.ahead]

/-! ### A caller on its own -/

/-- No other caller is between its call and its return. Others may have returned, or not called
yet. -/
def Alone (guarded : Guarded ρ) (caller : CallerId) : Prop :=
  ∀ other, other ≠ caller → (guarded.connection.stages other).underway = false

/-- A caller stays alone as long as only it moves. -/
theorem Transition.alone (transition : Transition before move after) (kept : Kept before)
    (own : move.caller? = some caller ∨ move.caller? = none) (alone : before.Alone caller) :
    after.Alone caller := by
  intro other different
  have resting := alone other different
  cases transition with
  | entered | queued => exact resting
  | @acted move after free transition =>
    have moves : move.caller? ≠ some other := by
      intro moves
      rcases own with own | nobody
      · exact different (Option.some.inj (moves.symm.trans own))
      · cases moves.symm.trans nobody
    rcases (transition.bystander kept.orderly moves).2 with same | ⟨queued, _⟩
    · exact same ▸ resting
    · rw [queued] at resting
      cases resting

/-- A caller has called, and no other one is between its call and its return. -/
structure Solitary (guarded : Guarded ρ) (caller : CallerId) : Prop where
  kept : Kept guarded
  alone : guarded.Alone caller
  begun : guarded.connection.stages caller ≠ .idle

theorem Solitary.step (solitary : before.Solitary caller)
    (own : move.caller? = some caller ∨ move.caller? = none)
    (transition : Transition before move after) : after.Solitary caller :=
  ⟨solitary.kept.step transition, transition.alone solitary.kept own solitary.alone,
    transition.begun solitary.kept solitary.begun⟩

theorem Solitary.run (solitary : before.Solitary caller) {moves : List (Move ρ)}
    (own : ∀ move ∈ moves, move.caller? = some caller ∨ move.caller? = none)
    (run : run? before moves = some after) : after.Solitary caller :=
  @holds_of_run? _ (Solitary · caller) _ _ _
    (fun among transition solitary => Solitary.step solitary (own _ among) transition) run solitary

/-- A solitary caller that has not returned can go on, without any failure. If it waits for the
broker, the broker may answer; otherwise the one that can go on is itself. -/
theorem Solitary.proceeds (solitary : before.Solitary caller)
    (underway : (before.connection.stages caller).underway = true) :
    ∃ move, move.caller? = some caller ∧ move.failsFor caller = false ∧
      ∃ after, before.next? move = some after := by
  cases calls : (before.connection.stages caller).calling with
  | true =>
    obtain ⟨after, possible⟩ := Connection.replies_of_calling calls
    have accesses : before.access? caller = none := by
      unfold Guarded.access?
      revert calls
      cases before.connection.stages caller <;> simp [Stage.calling, Stage.access?]
    refine ⟨.act (.reply caller none true), rfl, rfl, ?_⟩
    simp [next?, bars, Broker.Move.caller?, accesses, possible]
  | false =>
    have quiet (other : CallerId) : (before.connection.stages other).calling = false := by
      by_cases same : other = caller
      · rw [same, calls]
      · have resting := solitary.alone other same
        revert resting
        cases before.connection.stages other <;> simp [Stage.calling, Stage.underway]
    obtain ⟨other, itself, move, own, unfailing, possible⟩ := solitary.kept.progress quiet underway
    have same : other = caller := by
      apply Decidable.not_not.mp
      intro different
      rw [solitary.alone other different] at itself
      cases itself
    subst same
    exact ⟨move, own, unfailing, possible⟩

/-- A solitary caller can go on until it has returned, without any failure. The induction is on the
moves that it has before it. -/
theorem Solitary.returns (solitary : before.Solitary caller) :
    ∃ moves final, (∀ move ∈ moves, move.caller? = some caller ∧ move.failsFor caller = false) ∧
      run? before moves = some final ∧
      ∃ result, final.connection.stages caller = .finished result := by
  induction bound : before.ahead caller using Nat.strongRecOn generalizing before with
  | _ bound inductionHypothesis =>
    subst bound
    cases underway : (before.connection.stages caller).underway with
    | false =>
      have begun := solitary.begun
      refine ⟨[], before, nofun, rfl, ?_⟩
      revert underway begun
      cases before.connection.stages caller <;> simp [Stage.underway]
    | true =>
      obtain ⟨move, own, unfailing, after, possible⟩ := solitary.proceeds underway
      have transition := transition_of_next? possible
      have closer := transition.ahead_lt solitary.kept own
      obtain ⟨moves, final, owns, run, returned⟩ :=
        inductionHypothesis _ closer (solitary.step (Or.inl own) transition) rfl
      refine ⟨move :: moves, final, ?_, ?_, returned⟩
      · intro other among
        rcases List.mem_cons.mp among with rfl | later
        · exact ⟨own, unfailing⟩
        · exact owns other later
      · rw [run?, possible]
        exact run

end Guarded

end OutboxRelay.Broker

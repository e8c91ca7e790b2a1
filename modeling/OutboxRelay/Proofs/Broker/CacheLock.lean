import OutboxRelay.Proofs.Broker.Transition

/-!
# The lock of the cached channel

The cached channel of a shared connection stands behind a lock of its own, which readers share and a
writer has for itself. A caller that is about to look at the cached channel or to change it asks for
the lock. It is let in at once if nobody waits and those inside leave room, and queues otherwise.
Once inside it takes its step and leaves the lock in the same moment, so that nobody ever waits for
anything else while it is inside.

Forgetting the lock leaves a run of the connection, and every run of the connection is what is left
of one with the lock.
-/

namespace OutboxRelay.Broker

variable {ρ : Type}

/-- How the cached channel is used. Readers may be inside together, a writer only alone. -/
inductive Access where
  | read
  | write
deriving DecidableEq

/-- How a caller at this stage is about to use the cached channel. -/
def Stage.access? : Stage → Option Access
  | .looking | .rechecking => some .read
  | .retiring | .storing _ | .discarding .. => some .write
  | _ => none

/-- A connection with the lock of its cached channel. The lock is fair: whoever comes while others
wait queues behind them. -/
structure Guarded (ρ : Type) where
  connection : Connection ρ := {}
  /-- Who is inside the lock. -/
  inside : List CallerId := []
  /-- Who waits for it, the first in the queue first. -/
  waiting : List CallerId := []

namespace Guarded

/-- One step with the lock. Entering it and acting are separate steps, so that others can come
between them. -/
inductive Move (ρ : Type) where
  /-- A caller asks to be let in. -/
  | ask (caller : CallerId)
  /-- The first in the queue is let in. -/
  | enter (caller : CallerId)
  /-- The connection takes a step. -/
  | act (move : Broker.Move ρ)

/-- The caller that a move takes on. -/
def Move.caller? : Move ρ → Option CallerId
  | .ask caller | .enter caller => some caller
  | .act move => move.caller?

/-- How a caller is about to use the cached channel. -/
def access? (guarded : Guarded ρ) (caller : CallerId) : Option Access :=
  (guarded.connection.stages caller).access?

/-- Whether those inside leave room for a caller: a reader goes beside readers, a writer alone. -/
def admits (guarded : Guarded ρ) (caller : CallerId) : Bool :=
  match guarded.access? caller with
  | some .read => guarded.inside.all fun other => guarded.access? other = some .read
  | some .write => guarded.inside.isEmpty
  | none => false

/-- Whether a move is a use of the cached channel by somebody who is not inside. -/
def bars (guarded : Guarded ρ) (move : Broker.Move ρ) : Bool :=
  match move.caller? with
  | some caller => (guarded.access? caller).isSome && !guarded.inside.contains caller
  | none => false

/-- The state after a move, if the move is possible. -/
def next? (guarded : Guarded ρ) : Move ρ → Option (Guarded ρ)
  | .ask caller =>
    if guarded.access? caller = none ∨ caller ∈ guarded.inside ∨ caller ∈ guarded.waiting then none
    else if guarded.waiting = [] ∧ guarded.admits caller then
      some { guarded with inside := caller :: guarded.inside }
    else some { guarded with waiting := guarded.waiting ++ [caller] }
  | .enter caller =>
    if guarded.waiting.head? = some caller ∧ guarded.admits caller then
      some { guarded with inside := caller :: guarded.inside, waiting := guarded.waiting.tail }
    else none
  | .act move =>
    if guarded.bars move then none
    else (guarded.connection.next? move).map fun after =>
      { guarded with
        connection := after, inside := guarded.inside.filter (move.caller? ≠ some ·) }

/-- The state after a sequence of moves, if every one of them is possible. -/
def run? : Guarded ρ → List (Move ρ) → Option (Guarded ρ)
  | guarded, [] => some guarded
  | guarded, move :: moves => (guarded.next? move).bind (run? · moves)

/-- The steps that the connection takes, without those that only concern the lock. -/
def acts (moves : List (Move ρ)) : List (Broker.Move ρ) :=
  moves.filterMap fun
    | .act move => some move
    | _ => none

/-! ### Transitions -/

/-- What a move can be, with the lock. A step of the connection takes the caller that makes it out
of the lock. -/
inductive Transition (before : Guarded ρ) : Move ρ → Guarded ρ → Prop where
  /-- A caller is let in, after it has waited or at once. -/
  | entered {caller : CallerId} {move : Move ρ} {waiting : List CallerId}
      (admits : before.admits caller = true)
      (how : move = .ask caller ∧ caller ∉ before.inside ∧ caller ∉ before.waiting ∧
          waiting = before.waiting ∨
        move = .enter caller ∧ before.waiting = caller :: waiting) :
    Transition before move { before with inside := caller :: before.inside, waiting }
  | queued {caller : CallerId} (accesses : before.access? caller ≠ none)
      (outside : caller ∉ before.inside) (new : caller ∉ before.waiting) :
    Transition before (.ask caller) { before with waiting := before.waiting ++ [caller] }
  | acted {move : Broker.Move ρ} {after : Connection ρ}
      (free : ∀ caller, move.caller? = some caller → before.access? caller ≠ none →
        caller ∈ before.inside)
      (transition : Connection.Transition before.connection move after) :
    Transition before (.act move)
      { before with
        connection := after, inside := before.inside.filter (move.caller? ≠ some ·) }

theorem mem_inside_of_not_bars {guarded : Guarded ρ} {move : Broker.Move ρ} {caller : CallerId}
    (free : ¬guarded.bars move = true) (moves : move.caller? = some caller)
    (accesses : guarded.access? caller ≠ none) : caller ∈ guarded.inside := by
  simpa [bars, moves, Option.isSome_iff_ne_none, accesses] using free

/-- A possible move is a transition. -/
theorem transition_of_next? {before after : Guarded ρ} {move : Move ρ}
    (possible : before.next? move = some after) : Transition before move after := by
  cases move with
  | ask caller =>
    simp only [next?] at possible
    split at possible
    · cases possible
    · next asks =>
      rw [not_or, not_or] at asks
      obtain ⟨accesses, outside, new⟩ := asks
      split at possible
      · next room =>
        cases possible
        exact .entered room.2 (Or.inl ⟨rfl, outside, new, rfl⟩)
      · cases possible
        exact .queued accesses outside new
  | enter caller =>
    simp only [next?] at possible
    split at possible
    · next room =>
      cases possible
      obtain ⟨rest, waiting⟩ := List.head?_eq_some_iff.mp room.1
      refine .entered room.2 (Or.inr ⟨rfl, ?_⟩)
      rw [waiting, List.tail_cons]
    · cases possible
  | act move =>
    simp only [next?] at possible
    split at possible
    · cases possible
    · next free =>
      obtain ⟨next, moved, rfl⟩ := Option.map_eq_some_iff.mp possible
      exact .acted (fun _ => mem_inside_of_not_bars free) (Connection.transition_of_next? moved)

/-! ### The lock and the connection -/

theorem mem_acts {move : Broker.Move ρ} {moves : List (Move ρ)} :
    move ∈ acts moves ↔ .act move ∈ moves := by
  rw [acts, List.mem_filterMap]
  constructor
  · rintro ⟨other, among, same⟩
    cases other with
    | act => exact Option.some.inj same ▸ among
    | _ => cases same
  · exact fun among => ⟨_, among, rfl⟩

/-- Without the lock, a run is a run of the connection. All that is known of connections holds of
guarded ones by this. -/
theorem run?_acts {moves : List (Move ρ)} {start final : Guarded ρ}
    (run : run? start moves = some final) :
    Connection.run? start.connection (acts moves) = some final.connection := by
  induction moves generalizing start with
  | nil =>
    cases run
    rfl
  | cons move moves inductionHypothesis =>
    obtain ⟨after, possible, onward⟩ := Option.bind_eq_some_iff.mp run
    have rest := inductionHypothesis onward
    cases move with
    | ask caller | enter caller =>
      have same : after.connection = start.connection := by
        cases transition_of_next? possible <;> rfl
      rwa [same] at rest
    | act move =>
      simp only [next?] at possible
      split at possible
      · cases possible
      · obtain ⟨next, moved, rfl⟩ := Option.map_eq_some_iff.mp possible
        exact Option.bind_eq_some_iff.mpr ⟨next, moved, rest⟩

theorem access?_of_admits {guarded : Guarded ρ} {caller : CallerId}
    (admits : guarded.admits caller = true) : guarded.access? caller ≠ none := by
  intro none
  simp [Guarded.admits, none] at admits

/-- The lock lets anyone in while nobody is inside. -/
theorem admits_of_empty {guarded : Guarded ρ} {caller : CallerId} (empty : guarded.inside = [])
    (accesses : guarded.access? caller ≠ none) : guarded.admits caller = true := by
  unfold admits
  split
  · simp [empty]
  · simp [empty]
  · next none => exact absurd none accesses

theorem run?_append (earlier later : List (Move ρ)) (start : Guarded ρ) :
    run? start (earlier ++ later) = (run? start earlier).bind (run? · later) := by
  induction earlier generalizing start with
  | nil => rfl
  | cons move earlier inductionHypothesis =>
    simp only [List.cons_append, run?]
    cases start.next? move with
    | none => rfl
    | some after => exact inductionHypothesis after

/-- Every run of the connection is one with the lock, for whoever uses the cached channel may enter
the lock right before. So the lock forbids no order of steps. -/
theorem exists_run? {moves : List (Broker.Move ρ)} {start final : Connection ρ}
    (run : Connection.run? start moves = some final) :
    ∃ guardedMoves, acts guardedMoves = moves ∧
      run? { connection := start } guardedMoves = some { connection := final } := by
  induction moves generalizing start with
  | nil =>
    cases run
    exact ⟨[], rfl, rfl⟩
  | cons move moves inductionHypothesis =>
    obtain ⟨after, possible, onward⟩ := Option.bind_eq_some_iff.mp run
    obtain ⟨rest, same, onward⟩ := inductionHypothesis onward
    cases barred : bars { connection := start } move with
    | false =>
      refine ⟨.act move :: rest, by simp [acts, ← same], ?_⟩
      simpa [run?, next?, barred, possible] using onward
    | true =>
      obtain ⟨caller, moves⟩ : ∃ caller, move.caller? = some caller := by
        cases moves : move.caller? with
        | none => simp [bars, moves] at barred
        | some caller => exact ⟨caller, rfl⟩
      have accesses : access? { connection := start } caller ≠ none := by
        simpa [bars, moves, Option.isSome_iff_ne_none] using barred
      refine ⟨.ask caller :: .act move :: rest, by simp [acts, ← same], ?_⟩
      have enters : next? { connection := start } (.ask caller) =
          some { connection := start, inside := [caller] } := by
        simp [next?, accesses, admits_of_empty rfl accesses]
      have leaves : next? { connection := start, inside := [caller] } (.act move) =
          some { connection := after } := by
        simp [next?, bars, moves, possible]
      rw [run?, enters, Option.bind_some, run?, leaves, Option.bind_some]
      exact onward

/-! ### Who is inside and who waits -/

/-- The lock agrees with the stages of the callers, and a writer has it for itself. -/
structure Kept (guarded : Guarded ρ) : Prop where
  orderly : guarded.connection.Orderly
  /-- Whoever is inside or waits is about to use the cached channel. -/
  accessing : ∀ caller ∈ guarded.inside ++ guarded.waiting, guarded.access? caller ≠ none
  once : (guarded.inside ++ guarded.waiting).Nodup
  /-- A writer is alone. -/
  exclusive : ∀ caller ∈ guarded.inside, guarded.access? caller = some .write →
    guarded.inside = [caller]

theorem kept_fresh : Kept ({} : Guarded ρ) :=
  ⟨Connection.orderly_fresh, nofun, List.nodup_nil, nofun⟩

variable {before : Guarded ρ}

/-- Whoever is let in leaves a writer alone. -/
theorem Kept.enter (kept : Kept before) {caller : CallerId} {waiting : List CallerId}
    (admits : before.admits caller = true)
    (once : (caller :: before.inside ++ waiting).Nodup)
    (waited : ∀ other ∈ waiting, other ∈ before.waiting) :
    Kept { before with inside := caller :: before.inside, waiting } where
  orderly := kept.orderly
  accessing := by
    intro other among
    have accesses : before.access? caller ≠ none := access?_of_admits admits
    rcases List.mem_append.mp among with inside | waits
    · rcases List.mem_cons.mp inside with rfl | inside
      · exact accesses
      · exact kept.accessing other (List.mem_append_left _ inside)
    · exact kept.accessing other (List.mem_append_right _ (waited other waits))
  once := once
  exclusive := by
    intro other inside writes_
    have writes : before.access? other = some .write := writes_
    unfold Guarded.admits at admits
    rcases List.mem_cons.mp inside with rfl | inside
    · rw [writes] at admits
      simpa using admits
    · split at admits
      · have reads := List.all_eq_true.mp admits other inside
        simp [writes] at reads
      · rw [List.isEmpty_iff.mp admits] at inside
        cases inside
      · cases admits

/-- Whoever waits or stays inside while another caller moves is about to use the cached channel as
before. The move may only hand the reconnect lock to it, for which nobody waits while inside. -/
theorem Kept.untouched (kept : Kept before) {move : Broker.Move ρ} {after : Connection ρ}
    (free : ∀ caller, move.caller? = some caller → before.access? caller ≠ none →
      caller ∈ before.inside)
    (transition : Connection.Transition before.connection move after) {caller : CallerId}
    (among : caller ∈ before.inside.filter (move.caller? ≠ some ·) ++ before.waiting) :
    (after.stages caller).access? = before.access? caller ∧ before.access? caller ≠ none := by
  have within : caller ∈ before.inside ++ before.waiting :=
    (List.filter_sublist.append_right _).mem among
  have accesses := kept.accessing caller within
  have moves : move.caller? ≠ some caller := by
    intro moves
    have inside := free caller moves accesses
    rcases List.mem_append.mp among with stays | waits
    · simp [moves] at stays
    · exact (List.nodup_append.mp kept.once).2.2 caller inside caller waits rfl
  refine ⟨?_, accesses⟩
  rcases (transition.bystander kept.orderly moves).2 with same | ⟨queued, _⟩
  · rw [same]
    rfl
  · rw [Guarded.access?, queued] at accesses
    exact absurd rfl accesses

/-- Every transition keeps the lock in order: entering, queueing, and a step of the connection that
takes its caller out. -/
theorem Kept.step (kept : Kept before) {move : Move ρ} {after : Guarded ρ}
    (transition : Transition before move after) : Kept after := by
  cases transition with
  | @entered caller move waiting admits how =>
    rcases how with ⟨_, outside, new, rfl⟩ | ⟨_, waits⟩
    · refine kept.enter admits ?_ fun _ waits => waits
      refine List.nodup_cons.mpr ⟨?_, kept.once⟩
      simp [outside, new]
    · refine kept.enter admits ?_ fun other among => waits ▸ List.mem_cons_of_mem _ among
      have once := kept.once
      rw [waits] at once
      exact List.perm_middle.nodup_iff.mp once
  | @queued caller accesses outside new =>
    refine ⟨kept.orderly, ?_, ?_, kept.exclusive⟩
    · intro other among
      rw [← List.append_assoc, List.mem_append, List.mem_singleton] at among
      rcases among with already | rfl
      · exact kept.accessing other already
      · exact accesses
    · rw [← List.append_assoc, List.nodup_append]
      refine ⟨kept.once, List.pairwise_singleton _ _, ?_⟩
      intro other among last same both
      rw [List.mem_singleton.mp same] at both
      rw [both] at among
      rcases List.mem_append.mp among with inside | waits
      · exact outside inside
      · exact new waits
  | @acted move after free transition =>
    have untouched := @Kept.untouched _ _ kept _ _ free transition
    refine ⟨kept.orderly.step transition, ?_, ?_, ?_⟩
    · intro other among
      have ⟨same, accesses⟩ := untouched among
      exact fun none => accesses (same.symm.trans none)
    · exact kept.once.sublist (List.filter_sublist.append_right _)
    · intro other stays writes
      have ⟨same, _⟩ := untouched (List.mem_append_left _ stays)
      have alone := kept.exclusive other (List.mem_filter.mp stays).1 (same.symm.trans writes)
      show before.inside.filter _ = [other]
      rw [alone]
      exact List.filter_eq_self.mpr fun lone among =>
        List.mem_singleton.mp among ▸ (List.mem_filter.mp stays).2

/-- What every move of a run keeps is true at its end. The moves may be restricted, to those of one
caller for instance. -/
theorem holds_of_run? {holds : Guarded ρ → Prop} {moves : List (Move ρ)} {start final : Guarded ρ}
    (kept : ∀ {before after move}, move ∈ moves → Transition before move after → holds before →
      holds after)
    (run : run? start moves = some final) (first : holds start) : holds final := by
  induction moves generalizing start with
  | nil =>
    cases run
    exact first
  | cons move moves inductionHypothesis =>
    obtain ⟨after, possible, onward⟩ := Option.bind_eq_some_iff.mp run
    apply inductionHypothesis (fun among => kept (List.mem_cons_of_mem _ among)) onward
    exact kept List.mem_cons_self (transition_of_next? possible) first

/-- The lock is in order throughout a run. -/
theorem Kept.run {moves : List (Move ρ)} {final : Guarded ρ} (kept : Kept before)
    (run : run? before moves = some final) : Kept final :=
  holds_of_run? (fun _ transition kept => kept.step transition) run kept

end Guarded

end OutboxRelay.Broker

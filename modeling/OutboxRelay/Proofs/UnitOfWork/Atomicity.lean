import OutboxRelay.Proofs.Outbox.Memory
import OutboxRelay.Proofs.UnitOfWork.Steps
import OutboxRelay.Rehearsal.Reaction
import OutboxRelay.Rehearsal.Entity

/-!
# Atomicity of units of work

A commit on a site does all of its work or none of it. If the session opens, every step stages and
the store accepts the session, then the rows are the old ones under everything staged, the later
write to a key hiding the earlier one; the staged messages stand behind the old outbox in the order
of staging; and one more commit is counted. Otherwise the first error met is the answer, and rows,
outbox and the number of commits are what they were.

Entities and handlers are arbitrary as long as they reach the store through the session alone. The
order in which they take effect is that of the steps of the unit of work: tracking, then dispatch.
-/

namespace OutboxRelay.UnitOfWork

open Outbox (InSession Memory Message Session StagedRow)
open Rehearsal (Site)

variable {ε κ : Type} [EventFamily κ]

/-! ### What a commit sets out to do -/

/-- The world once the clock was read for the audit stamp, which is the first thing that a commit
does. -/
def clocked (world : World Site) : World Site :=
  { world with readings := world.readings + 1 }

/-- The tracked entities under the audit stamp of a commit that begins in a world. -/
def stamped (work : UnitOfWork ε κ Site Session) (tracked : List (Tracked ε))
    (world : World Site) : List (Tracked ε) :=
  tracked.map (work.stamp (world.clock world.readings))

/-- The writes of a commit, in the order of tracking. Entities are written as they are once their
events were taken off. -/
def commitWrites (work : UnitOfWork ε κ Site Session) (tracked : List (Tracked ε))
    (world : World Site) : List (InSession Site Session UInt64) :=
  work.writes ((work.stamped tracked world).map work.cleared)

/-- The handler calls of a commit, in the order of dispatch: the calls for every event that the
tracked entities have pending once they are stamped. -/
def commitCalls (work : UnitOfWork ε κ Site Session) (tracked : List (Tracked ε))
    (world : World Site) : List (InSession Site Session UInt64) :=
  invocations work.dispatcher (pendingEvents work.model (work.stamped tracked world))

/-- The value of the last write to a key. Earlier writes to the same key leave no trace. -/
def lastWrite? (table key : String) : List StagedRow → Option Json
  | [] => none
  | row :: rest =>
    (lastWrite? table key rest).or
      (if table = row.table ∧ key = row.key then some row.value else none)

/-! ### What a commit leaves behind -/

/-- A memory with contributions applied on top of it: a key that was written has its last value, all
other keys have what they had, and the messages stand behind those that were there. -/
structure Applied (contributions : List Contribution) (before after : Memory) : Prop where
  rows (table key : String) : after.rows table key =
    (lastWrite? table key (contributions.flatMap (·.rows))).or (before.rows table key)
  outbox : after.outbox = before.outbox ++ contributions.flatMap (·.messages)
  commits : after.commits = before.commits + 1

/-- A memory that a failed commit left as it was. -/
structure Untouched (before after : Memory) : Prop where
  rows : after.rows = before.rows
  outbox : after.outbox = before.outbox
  commits : after.commits = before.commits

/-- The first error that a commit meets: the session does not open, or a step fails behind steps
that ran, or all steps ran and the store refuses the session. -/
inductive FirstError (steps : List (InSession Site Session UInt64)) (world : World Site) :
    Outbox.Error → Prop where
  | opening {error : Outbox.Error} (refused : (Site.store.begin.perform world).1 = .error error) :
      FirstError steps world error
  | working {error : Outbox.Error} (opened : Site.store.begin.perform world = (.ok {}, world))
      (stops : StopsWith steps (world, {}) error) : FirstError steps world error
  | closing {error : Outbox.Error} {contributions : List Contribution} {reached : World Site}
      {session : Session} (opened : Site.store.begin.perform world = (.ok {}, world))
      (run : Runs steps (world, {}) contributions (reached, session))
      (refused : ((Site.store.commit session).perform reached).1 = .error error) :
      FirstError steps world error

/-- Applying staged rows one after the other leaves the last write to each key, and what stood
there under a key that none of them names. -/
theorem foldl_putRow (rows : List StagedRow) (before : String → String → Option Json)
    (table key : String) :
    rows.foldl Memory.putRow before table key =
      (lastWrite? table key rows).or (before table key) := by
  induction rows generalizing before with
  | nil => rfl
  | cons row rest inductionHypothesis =>
    rw [List.foldl_cons, inductionHypothesis, lastWrite?, Option.or_assoc]
    congr 1
    unfold Memory.putRow
    split <;> rfl

/-- Under a key of a memory with a session applied stands the last row that the session put there,
or what stood there before. -/
theorem rows_apply (session : Session) (before : Memory) (table key : String) :
    (before.apply session).rows table key =
      (lastWrite? table key session.rows).or (before.rows table key) :=
  foldl_putRow session.rows before.rows table key

/-- The last write is the later part's, if that writes at all. -/
theorem lastWrite?_append (table key : String) (front back : List StagedRow) :
    lastWrite? table key (front ++ back) =
      (lastWrite? table key back).or (lastWrite? table key front) := by
  induction front with
  | nil => simp [lastWrite?]
  | cons row rest inductionHypothesis =>
    rw [List.cons_append, lastWrite?, inductionHypothesis, Option.or_assoc, lastWrite?]

/-- A session that the store accepts is applied as a whole: all that the steps contributed, in their
order, and one more commit. -/
theorem applied_of_commit {contributions : List Contribution} {session : Session}
    {before after : Memory} (staged : session = ⟨contributions.flatMap (·.rows),
      contributions.flatMap (·.messages)⟩)
    (accepted : before.commit session = (.ok (), after)) : Applied contributions before after := by
  have applied : after = before.apply session := Memory.eq_apply_of_commit accepted
  subst applied staged
  exact ⟨fun table key => rows_apply _ _ table key, rfl, rfl⟩

/-- A session that the store refuses leaves rows, outbox and the number of commits as they were. -/
theorem untouched_of_commit {session : Session} {before after : Memory} {error : Outbox.Error}
    (refused : before.commit session = (.error error, after)) : Untouched before after := by
  have kept := Memory.commit_error (congrArg Prod.fst refused)
  rw [refused] at kept
  exact ⟨kept.1, kept.2.1, kept.2.2⟩

/-! ### Atomicity -/

/-- Every step of a commit stages only, if entities and handlers do: each step is a write of an
entity or a call of a handler. -/
theorem staging_steps {work : UnitOfWork ε κ Site Session} (entities : List (Tracked ε))
    (events : List (DomainEvent κ))
    (persisting : ∀ change entity, StagesOnly (work.model.persist change entity))
    (handling : ∀ kind, ∀ handle ∈ work.dispatcher.handlers kind, ∀ fact,
      StagesOnly (handle fact)) :
    ∀ step ∈ work.writes entities ++ invocations work.dispatcher events, StagesOnly step := by
  intro step member
  rcases List.mem_append.mp member with written | called
  · obtain ⟨tracked, -, rfl⟩ := List.mem_map.mp written
    exact persisting tracked.change tracked.entity
  · obtain ⟨event, -, among⟩ := List.mem_flatMap.mp called
    obtain ⟨handle, registered, rfl⟩ := List.mem_map.mp among
    exact (handling event.kind handle registered event.fact).bind fun _ => stagesOnly_pure 0

/-- A commit performs its writes and its handler calls in a session of its own. The answer is what
is left of its result once the settled entities are left out. -/
theorem commit_eq_inSession (work : UnitOfWork ε κ Site Session) (tracked : List (Tracked ε))
    (world : World Site) (stored : work.store = Site.store) :
    (inSession Site.store
        (total (work.commitWrites tracked world ++ work.commitCalls tracked world))).perform
        (clocked world) =
      (((work.commit tracked).run world).1.1, ((work.commit tracked).run world).2) := by
  rw [← stored, commitWrites, commitCalls, ← flatMap_harvested, ← stage_eq_total]
  rfl

/-- The commit does all of its work: every write and every handler call runs, the answer is the sum
of the rows that the entities report, and all contributions are applied together. Counts and their
sum are machine words, so that the answer is the sum of the plain numbers where that fits a word. -/
def Committed (work : UnitOfWork ε κ Site Session) (tracked : List (Tracked ε))
    (world : World Site) : Prop :=
  let outcome := (work.commit tracked).run world
  ∃ written called middle reached,
    Runs (work.commitWrites tracked world) (clocked world, {}) written middle ∧
    Runs (work.commitCalls tracked world) middle called reached ∧
    outcome.1.1 = .ok (sumOfCounts (written.map (·.count))) ∧
    ((written.map (·.count.toNat)).sum < UInt64.size →
      (sumOfCounts (written.map (·.count))).toNat = (written.map (·.count.toNat)).sum) ∧
    Applied (written ++ called) world.state.memory outcome.2.state.memory

/-- The commit does nothing: the answer is the first error that it met, and rows, outbox and the
number of commits are those of before. -/
def RolledBack (work : UnitOfWork ε κ Site Session) (tracked : List (Tracked ε))
    (world : World Site) : Prop :=
  let outcome := (work.commit tracked).run world
  ∃ error,
    FirstError (work.commitWrites tracked world ++ work.commitCalls tracked world)
      (clocked world) error ∧
    outcome.1.1 = .error error ∧ Untouched world.state.memory outcome.2.state.memory

section

variable {work : UnitOfWork ε κ Site Session} {tracked : List (Tracked ε)} {world : World Site}
  (stored : work.store = Site.store)

include stored

/-- A commit whose session does not open does nothing. No step of it is performed. -/
theorem rolledBack_of_unopened (blocked : (clocked world).state.faults .begin ≠ 0) :
    work.RolledBack tracked world := by
  have performed := work.commit_eq_inSession tracked world stored
  rw [perform_inSession_unopened blocked] at performed
  injection performed with answered final
  refine ⟨Site.injected .begin, .opening ?_, answered.symm, ?_⟩
  · rw [Site.perform_begin, if_neg blocked]
  · rw [← final]
    constructor <;> rfl

variable (ready : (clocked world).state.faults .begin = 0)

include ready

/-- A commit one of whose steps fails does nothing: the steps in front of it staged only. -/
theorem rolledBack_of_stopped {error : Outbox.Error} {left : World Site × Session}
    (stops : StopsWith (work.commitWrites tracked world ++ work.commitCalls tracked world)
      (clocked world, {}) error)
    (kept : left.1.state.memory = world.state.memory)
    (totalled : (total (work.commitWrites tracked world ++ work.commitCalls tracked world)).perform
      (clocked world, {}) = (.error error, left)) : work.RolledBack tracked world := by
  have performed := work.commit_eq_inSession tracked world stored
  rw [perform_inSession_failed ready totalled] at performed
  injection performed with answered final
  refine ⟨error, .working (Site.perform_begin_ready ready) stops, answered.symm, ?_⟩
  rw [← final, kept]
  constructor <;> rfl

/-- A commit whose steps all run ends as the store's own commit of the session does: applied as a
whole, or refused with the first error that there was. -/
theorem settled_of_run {contributions : List Contribution} {reached : World Site × Session}
    (run : Runs (work.commitWrites tracked world ++ work.commitCalls tracked world)
      (clocked world, {}) contributions reached)
    (totalled : (total (work.commitWrites tracked world ++ work.commitCalls tracked world)).perform
      (clocked world, {}) = (.ok (sumOfCounts (contributions.map (·.count))), reached)) :
    work.Committed tracked world ∨ work.RolledBack tracked world := by
  obtain ⟨reached, session⟩ := reached
  have performed := work.commit_eq_inSession tracked world stored
  have memory : reached.state.memory = world.state.memory := run.memory_eq
  have content := run.session_eq
  rw [perform_inSession_closed ready totalled, memory] at performed
  injection performed with answered final
  rcases committed : world.state.memory.commit session with ⟨error | _, closed⟩
  · rw [committed] at answered final
    refine Or.inr ⟨error, .closing (Site.perform_begin_ready ready) run ?_, answered.symm, ?_⟩
    · rw [Site.perform_commit, memory, committed]
    · rw [← final]
      exact untouched_of_commit committed
  · rw [committed] at answered final
    obtain ⟨written, called, middle, rfl, writing, calling⟩ := run.split
    refine Or.inl ⟨written, called, middle, (reached, session), writing, calling, ?_, ?_, ?_⟩
    · rw [← answered, List.map_append, sumOfCounts_append, calling.sum_count_invocations,
        UInt64.add_zero]
      rfl
    · intro fits
      rw [← Function.comp_def UInt64.toNat, ← List.map_map] at fits ⊢
      exact toNat_sumOfCounts fits
    · rw [← final]
      exact applied_of_commit content committed

end

/-- A unit of work is atomic: it does all of its work or nothing, whatever the entities, the
handlers, the committed state and the planned faults are.

Proof: writes and handler calls are steps of one list, which all run or are stopped by a first
failure (`total_cases`). A step that fails, or a session that is refused, leaves the committed state
as the steps in front of it did, which is how the commit found it (`rolledBack_of_stopped`). If all
steps run, the store's own commit of the session decides (`settled_of_run`). -/
theorem commit_atomic (work : UnitOfWork ε κ Site Session) (tracked : List (Tracked ε))
    (world : World Site) (stored : work.store = Site.store)
    (persisting : ∀ change entity, StagesOnly (work.model.persist change entity))
    (handling : ∀ kind, ∀ handle ∈ work.dispatcher.handlers kind, ∀ fact,
      StagesOnly (handle fact)) :
    work.Committed tracked world ∨ work.RolledBack tracked world := by
  let steps := work.commitWrites tracked world ++ work.commitCalls tracked world
  have staging : ∀ step ∈ steps, StagesOnly step := staging_steps _ _ persisting handling
  by_cases ready : (clocked world).state.faults .begin = 0
  · rcases total_cases steps staging (clocked world, {}) with
      ⟨contributions, reached, run, totalled⟩ | ⟨error, left, stops, kept, totalled⟩
    · exact settled_of_run stored ready run totalled
    · exact Or.inr (rolledBack_of_stopped stored ready stops kept totalled)
  · exact Or.inr (rolledBack_of_unopened stored ready)

/-! ### Entities and handlers that are described by data -/

open Rehearsal (Converter Entity Reaction Refusal)

/-- Described entities reach the store through the session alone. -/
theorem stagesOnly_persist (change : Change) (entity : Entity) :
    StagesOnly (Entity.persist change entity) := by
  unfold Entity.persist
  split
  · exact stagesOnly_throw _
  · intro world session
    exact ⟨rfl, [⟨Entity.table, entity.id, entity.row change⟩], [], by simp; rfl⟩

/-- A refusal leaves every state as it is, whatever it is that refuses. -/
theorem respects_refuse {τ : Type} {relation : τ → τ → Prop}
    (reflexive : ∀ state, relation state state) (refusal? : Option Refusal) (eventType : String)
    (fact : Rehearsal.Sample.Fact) :
    Effect.Respects relation (Rehearsal.refuse refusal? eventType fact) := by
  unfold Rehearsal.refuse
  cases refusal? with
  | none => exact Effect.respects_pure reflexive ()
  | some refusal =>
    dsimp only
    split
    · exact Effect.respects_throw reflexive _
    · exact Effect.respects_pure reflexive ()

/-- A described converter leaves the committed state as it is. -/
theorem memory_convert (converter : Converter) (kind : Rehearsal.Sample.Kind)
    (fact : Rehearsal.Sample.Fact) (world : World Site) :
    ((converter.convert kind fact).perform world).2.state.memory = world.state.memory := by
  let sameMemory (before after : World Site) : Prop := after.state.memory = before.state.memory
  have reflexive : ∀ world, sameMemory world world := fun _ => rfl
  have transitive : ∀ a b c, sameMemory a b → sameMemory b c → sameMemory a c :=
    fun _ _ _ first second => second.trans first
  have respected : Effect.Respects sameMemory (converter.convert kind fact) := by
    refine (respects_refuse reflexive converter.refusal _ fact).bind transitive fun _ => ?_
    refine Effect.Respects.bind transitive (fun world => rfl) fun drawn => ?_
    dsimp only
    split
    · exact Effect.respects_pure reflexive _
    · exact Effect.respects_throw reflexive _
  exact respected world

/-- So do described handlers: a recorder puts at most one row behind the others, and a converter
adds at most one message. -/
theorem stagesOnly_handler (reaction : Reaction) (kind : Rehearsal.Sample.Kind)
    (fact : Rehearsal.Sample.Fact) :
    StagesOnly (reaction.handler kind fact) := by
  cases reaction with
  | record recorder =>
    have refusing : StagesOnly
        (Rehearsal.refuse recorder.refusal (EventFamily.eventType kind) fact :
          InSession Site Session Unit) :=
      stagesOnly_of_still (respects_refuse (fun _ => rfl) recorder.refusal _ fact)
    refine StagesOnly.bind ?_ fun _ => refusing
    intro world session
    refine ⟨rfl, ?_⟩
    cases recorder.table with
    | none => exact ⟨[], [], by simp; rfl⟩
    | some table => exact ⟨[⟨table, fact.aggregate, fact.payload⟩], [], by simp; rfl⟩
  | convert converter =>
    refine StagesOnly.bind (stagesOnly_outside ?_) fun event => stagesOnly_add event.toMessage
    exact memory_convert converter kind fact

/-- Registering a handler that stages only keeps a dispatcher one whose handlers all do. So the
assumption on a dispatcher is checked handler by handler. -/
theorem stagesOnly_register [DecidableEq κ] (dispatcher : Dispatcher κ Site Session) {added : κ}
    (handler : Handler Site Session added) (stages : ∀ fact, StagesOnly (handler fact))
    (handling : ∀ kind, ∀ handle ∈ dispatcher.handlers kind, ∀ fact, StagesOnly (handle fact)) :
    ∀ kind, ∀ handle ∈ (dispatcher.register added handler).handlers kind, ∀ fact,
      StagesOnly (handle fact) := by
  intro kind handle member
  by_cases same : kind = added
  · subst same
    rw [Dispatcher.handlers_register_self] at member
    rcases List.mem_append.mp member with earlier | last
    · exact handling kind handle earlier
    · rw [List.mem_singleton.mp last]
      exact stages
  · rw [Dispatcher.handlers_register_ne handler dispatcher same] at member
    exact handling kind handle member

/-- A unit of work whose first handler adds a message for every event and whose second handler
refuses the amount 99. -/
def watchful : UnitOfWork Entity Rehearsal.Sample.Kind Site Session where
  store := Site.store
  model := Entity.model
  dispatcher := Dispatcher.empty
    |>.register .alpha ((Reaction.convert
        ⟨"accounts.deposited.v1", "accounts", none, none, none, none⟩).handler .alpha)
    |>.register .alpha ((Reaction.record
        ⟨"audit", some "seen", some ⟨99, .handler, "rejected"⟩⟩).handler .alpha)
  user := "alice"

/-- An account with two deposits pending, the second of which is refused once the first one's
message and row are staged. -/
def depositor : Entity where
  id := "a"
  events := [⟨.alpha, (⟨"a", 10, ⟨0, 0⟩⟩ : Rehearsal.Sample.Fact)⟩,
    ⟨.alpha, (⟨"a", 99, ⟨0, 0⟩⟩ : Rehearsal.Sample.Fact)⟩]

theorem commit_atomic_watchful :
    (∀ change entity, StagesOnly (watchful.model.persist change entity)) ∧
    (∀ kind, ∀ handle ∈ watchful.dispatcher.handlers kind, ∀ fact, StagesOnly (handle fact)) ∧
    (watchful.Committed [⟨.added, depositor⟩] Site.quietWorld ∨
      watchful.RolledBack [⟨.added, depositor⟩] Site.quietWorld) := by
  have handling : ∀ kind, ∀ handle ∈ watchful.dispatcher.handlers kind, ∀ fact,
      StagesOnly (handle fact) := by
    refine stagesOnly_register _ _ (stagesOnly_handler _ .alpha) ?_
    refine stagesOnly_register _ _ (stagesOnly_handler _ .alpha) ?_
    intro kind handle member
    cases member
  exact ⟨stagesOnly_persist, handling,
    commit_atomic watchful [⟨.added, depositor⟩] Site.quietWorld rfl stagesOnly_persist handling⟩

end OutboxRelay.UnitOfWork

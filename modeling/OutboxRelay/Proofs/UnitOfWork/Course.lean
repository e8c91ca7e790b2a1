import Mathlib.Data.List.Forall2
import OutboxRelay.Order.Service
import OutboxRelay.Proofs.UnitOfWork.Steps
import OutboxRelay.Rehearsal.Entity
import OutboxRelay.Rehearsal.Reaction

/-!
# The course of a commit

What a commit asks of its store, its entities and its handlers, in the order in which it asks. The
order is observed: a unit of work is watched by putting a journal beside its state and an entry into
the journal at every step, which says how the step ended. Watching changes nothing else.

The steps that a commit sets out to take are a script: open the session, write every entity, call
every handler of every event, close the session. The journal of a run is the whole script if the
answer is a number of rows; otherwise it is a front of the script whose last step failed. Each part
of a commit accounts for its own part of the script, and a sequence accounts for the parts in order.

Entities are settled before any of this begins, so that it does not matter for them how the run
ends. What an entity may be is restricted only by what its stamp and its pending events mean.
-/

namespace OutboxRelay

open Outbox (InSession)

/-- The audit fields and the pending events of an entity are parts of it that do not overlap, and
events that were taken off are gone. An entity that is no root has no events and never gets any. -/
structure EntityModel.Lawful {ε κ σ S : Type} [EventFamily κ] (model : EntityModel ε κ σ S) :
    Prop where
  audit_withAudit (audit : Audit) (entity : ε) : model.audit (model.withAudit audit entity) = audit
  pending_withAudit (audit : Audit) (entity : ε) :
    model.pending? (model.withAudit audit entity) = model.pending? entity
  audit_clearPending (entity : ε) : model.audit (model.clearPending entity) = model.audit entity
  pending_clearPending (entity : ε) {events : List (DomainEvent κ)}
    (root : model.pending? entity = some events) :
    model.pending? (model.clearPending entity) = some []

/-- Orders are aggregate roots of that kind, whatever storage they are written to. -/
theorem Order.lawful_model {σ S : Type} (persist : Change → Order → InSession σ S UInt64) :
    (Order.model persist).Lawful := by
  constructor
  · simp [Order.model]
  · simp [Order.model]
  · simp [Order.model, Order.clearPending]
  · simp [Order.model, Order.clearPending]

/-- The entities of a rehearsal are of that kind, whether they are roots or not. -/
theorem Rehearsal.Entity.lawful_model : Rehearsal.Entity.model.Lawful := by
  constructor
  · simp [Rehearsal.Entity.model]
  · simp [Rehearsal.Entity.model]
  · simp [Rehearsal.Entity.model]
  · simp +contextual [Rehearsal.Entity.model]

namespace UnitOfWork

variable {ε κ σ S α β : Type} [EventFamily κ]

/-! ### Journals -/

/-- What a commit asks of store, entities and handlers. A handler is named by its event and its
place, because it is a function and cannot be compared. -/
inductive Step (ε κ : Type) [EventFamily κ] where
  | begin
  | persist (tracked : Tracked ε)
  /-- Call the handler that stands in a place among those of the event's kind. -/
  | call (event : DomainEvent κ) (place : Nat)
  | close

/-- Whether a step calls a handler; the other steps are those of the store and of the entities. -/
def Step.isCall : Step ε κ → Bool
  | call .. => true
  | _ => false

/-- A step that was taken, and how it failed if it did. -/
structure Entry (ε κ : Type) [EventFamily κ] where
  step : Step ε κ
  failure? : Option Outbox.Error

/-- A step that was taken with success, as it stands in a journal. -/
def Entry.passed (step : Step ε κ) : Entry ε κ := ⟨step, none⟩

/-- A step that was taken with a result. -/
def Entry.ended (step : Step ε κ) : Except Outbox.Error α → Entry ε κ
  | .ok _ => ⟨step, none⟩
  | .error failure => ⟨step, some failure⟩

/-- The steps that were taken, the first one first. -/
abbrev Journal (ε κ : Type) [EventFamily κ] : Type := List (Entry ε κ)

/-- A world with a journal beside its state. Nothing that works on the state can see the journal. -/
def keeping (journal : Journal ε κ) (world : World σ) : World (σ × Journal ε κ) :=
  world.withState (world.state, journal)

/-- Put an entry into the journal for a step on the world. The step itself works on the state alone,
as it does without a journal. -/
def watch (step : Step ε κ) (effect : Effect (World σ) Outbox.Error α) :
    Effect (World (σ × Journal ε κ)) Outbox.Error α :=
  .ofPair fun world =>
    let (result, reached) := effect.perform (world.withState world.state.1)
    (result, keeping (world.state.2 ++ [.ended step result]) reached)

/-- Put an entry into the journal for a step within a session. -/
def watchInSession (step : Step ε κ) (body : InSession σ S α) : InSession (σ × Journal ε κ) S α :=
  .ofPair fun (world, session) =>
    let (result, reached, left) := body.perform (world.withState world.state.1, session)
    (result, keeping (world.state.2 ++ [.ended step result]) reached, left)

/-- A store that is watched when a session is opened and when it is closed. -/
def watchedStore (store : Outbox.Store σ S) : Outbox.Store (σ × Journal ε κ) S :=
  { store.onPart Prod.fst fun state kept => (state, kept.2) with
    begin := watch .begin store.begin
    commit session := watch .close (store.commit session) }

/-- Entities that are watched when they are written. In all else the model is the one that was
given. -/
def watchedModel (model : EntityModel ε κ σ S) : EntityModel ε κ (σ × Journal ε κ) S where
  audit := model.audit
  withAudit := model.withAudit
  pending? := model.pending?
  clearPending := model.clearPending
  persist change entity := watchInSession (.persist ⟨change, entity⟩) (model.persist change entity)

/-- Handlers that are watched when they are called, each under its place of registration. -/
def watchedDispatcher (dispatcher : Dispatcher κ σ S) : Dispatcher κ (σ × Journal ε κ) S where
  handlers kind := (dispatcher.handlers kind).zipIdx.map fun (handle, place) fact =>
    watchInSession (.call ⟨kind, fact⟩ place) (handle fact)

/-- The same unit of work, watched at every step. -/
def watched (work : UnitOfWork ε κ σ S) : UnitOfWork ε κ (σ × Journal ε κ) S where
  store := watchedStore work.store
  model := watchedModel work.model
  dispatcher := watchedDispatcher work.dispatcher
  user := work.user

/-- The journal of a commit, kept by a watched copy of the unit of work in the very run of the
commit. -/
def course (work : UnitOfWork ε κ σ S) (tracked : List (Tracked ε)) (world : World σ) :
    Journal ε κ :=
  ((work.watched.commit tracked).run (keeping [] world)).2.state.2

/-! ### Scripts -/

/-- The calls that an event leads to: one for every handler of its kind, numbered in the order of
registration. -/
def calls (dispatcher : Dispatcher κ σ S) (event : DomainEvent κ) : List (Step ε κ) :=
  (List.range (dispatcher.handlerCount event.kind)).map (.call event)

/-- What happens between opening and closing the session: the writes of all entities, then the calls
for all events. -/
def workScript (work : UnitOfWork ε κ σ S) (entities : List (Tracked ε))
    (events : List (DomainEvent κ)) : List (Step ε κ) :=
  entities.map .persist ++ events.flatMap (calls work.dispatcher)

/-- All that a commit sets out to do for entities and events. -/
def script (work : UnitOfWork ε κ σ S) (entities : List (Tracked ε))
    (events : List (DomainEvent κ)) : List (Step ε κ) :=
  .begin :: work.workScript entities events ++ [.close]

/-- Journal and result of a run account for a script: either every step of it passed, or those in
front of one passed and that one failed, and its failure is the result. So the script is taken from
the front without gaps, and nothing happens behind a failure. -/
inductive Accounts (script : List (Step ε κ)) : Journal ε κ → Except Outbox.Error α → Prop where
  | whole (value : α) : Accounts script (script.map .passed) (.ok value)
  | broken {front rest : List (Step ε κ)} {failing : Step ε κ} (failure : Outbox.Error)
    (parts : script = front ++ failing :: rest) :
    Accounts script (front.map .passed ++ [⟨failing, some failure⟩]) (.error failure)

theorem accounts_single (step : Step ε κ) (result : Except Outbox.Error α) :
    Accounts [step] [.ended step result] result := by
  cases result with
  | ok value => exact .whole value
  | error failure => exact .broken failure (List.nil_append [step]).symm

/-- A run that goes on behind a success accounts for both parts: the journal of the second stands
behind that of the first, and the result is that of the second. -/
theorem Accounts.append {first second : List (Step ε κ)} {early late : Journal ε κ} {value : α}
    {result : Except Outbox.Error β} (begun : Accounts first early (.ok value))
    (continued : Accounts second late result) :
    Accounts (first ++ second) (early ++ late) result := by
  cases begun with
  | whole =>
    cases continued with
    | whole later =>
      rw [← List.map_append]
      exact .whole later
    | @broken front rest failing failure parts =>
      rw [← List.append_assoc, ← List.map_append]
      exact .broken failure (by rw [parts, List.append_assoc])

/-- A run that ends in the first part says nothing of the second, whose steps are the ones not
reached. -/
theorem Accounts.stop {first : List (Step ε κ)} {entries : Journal ε κ} {failure : Outbox.Error}
    (broken : Accounts first entries (.error failure : Except Outbox.Error α))
    (second : List (Step ε κ)) :
    Accounts (first ++ second) entries (.error failure : Except Outbox.Error β) := by
  cases broken with
  | broken failure parts => exact .broken failure (by rw [parts, List.append_assoc]; rfl)

theorem Accounts.map {script : List (Step ε κ)} {entries : Journal ε κ}
    {result : Except Outbox.Error α} (accounts : Accounts script entries result) (give : α → β) :
    Accounts script entries (result.map give) := by
  cases accounts with
  | whole value => exact .whole (give value)
  | broken failure parts => exact .broken failure parts

/-- Nothing is in the journal but steps of the script, so that what is no step of it did not
happen. -/
theorem Accounts.step_mem {script : List (Step ε κ)} {entries : Journal ε κ}
    {result : Except Outbox.Error α} (accounts : Accounts script entries result) :
    ∀ entry ∈ entries, entry.step ∈ script := by
  cases accounts with
  | whole value =>
    intro entry member
    obtain ⟨step, among, rfl⟩ := List.mem_map.mp member
    exact among
  | broken failure parts =>
    subst parts
    intro entry member
    rcases List.mem_append.mp member with before | last
    · obtain ⟨step, among, rfl⟩ := List.mem_map.mp before
      exact List.mem_append_left _ among
    · rw [List.mem_singleton.mp last]
      exact List.mem_append_right _ List.mem_cons_self

/-- Before a step that is none of the first ones, all of the first ones passed. This is how calls of
handlers are known to come behind the writes. -/
theorem Accounts.isPrefix {first second : List (Step ε κ)} {entries : Journal ε κ}
    {result : Except Outbox.Error α} (accounts : Accounts (first ++ second) entries result)
    {entry : Entry ε κ} (taken : entry ∈ entries) (later : entry.step ∉ first) :
    first.map .passed <+: entries := by
  cases accounts with
  | whole value =>
    rw [List.map_append]
    exact List.prefix_append _ _
  | @broken front rest failing failure parts =>
    rcases List.append_eq_append_iff.mp parts with ⟨more, rfl, -⟩ | ⟨more, rfl, others⟩
    · rw [List.map_append, List.append_assoc]
      exact List.prefix_append _ _
    · -- The run ends within the first steps, unless it ends right behind them.
      cases more with
      | nil =>
        rw [List.append_nil]
        exact List.prefix_append _ _
      | cons step others' =>
        obtain ⟨rfl, -⟩ := List.cons.inj others
        have among : Accounts (front ++ failing :: others')
            (front.map .passed ++ [⟨failing, some failure⟩])
            (.error failure : Except Outbox.Error α) :=
          .broken failure rfl
        exact absurd (among.step_mem entry taken) later

/-! ### Watched computations -/

/-- A computation within a session is watched over a script: it does what the plain one does and
puts entries into the journal that account for the script. It holds for every journal that was kept
before, which is what lets computations be put together. -/
def Watches (script : List (Step ε κ)) (watched : InSession (σ × Journal ε κ) S α)
    (plain : InSession σ S α) : Prop :=
  ∀ world session journal, ∃ entries, Accounts script entries (plain.perform (world, session)).1 ∧
    watched.perform (keeping journal world, session) =
      ((plain.perform (world, session)).1,
        keeping (journal ++ entries) (plain.perform (world, session)).2.1,
        (plain.perform (world, session)).2.2)

theorem watches_pure (value : α) :
    Watches (ε := ε) (κ := κ) [] (pure value : InSession (σ × Journal ε κ) S α) (pure value) := by
  intro world session journal
  exact ⟨[], .whole value, by simp⟩

theorem watches_single (step : Step ε κ) (body : InSession σ S α) :
    Watches [step] (watchInSession step body) body := by
  intro world session journal
  exact ⟨_, accounts_single step _, rfl⟩

/-- A sequence is watched over the scripts of its parts. If the first part fails, its journal is
that of the whole; otherwise the second part adds its entries behind. -/
theorem Watches.bind {first second : List (Step ε κ)} {watched : InSession (σ × Journal ε κ) S α}
    {plain : InSession σ S α} {next : α → InSession (σ × Journal ε κ) S β}
    {plainNext : α → InSession σ S β} (begun : Watches first watched plain)
    (continued : ∀ value, Watches second (next value) (plainNext value)) :
    Watches (first ++ second) (watched >>= next) (plain >>= plainNext) := by
  intro world session journal
  obtain ⟨early, accounted, same⟩ := begun world session journal
  rcases performed : plain.perform (world, session) with ⟨failure | value, reached, left⟩
  · rw [performed] at accounted same
    rw [Effect.perform_bind_error performed, Effect.perform_bind_error same]
    exact ⟨early, accounted.stop second, rfl⟩
  · rw [performed] at accounted same
    obtain ⟨late, rest, alike⟩ := continued value reached left (journal ++ early)
    rw [Effect.perform_bind_ok performed, Effect.perform_bind_ok same]
    exact ⟨early ++ late, accounted.append rest, by rw [alike, List.append_assoc]⟩

/-- Giving something else back is not watched. -/
theorem Watches.bind_pure {script : List (Step ε κ)} {watched : InSession (σ × Journal ε κ) S α}
    {plain : InSession σ S α} (begun : Watches script watched plain) (give : α → β) :
    Watches script (watched >>= fun value => pure (give value))
      (plain >>= fun value => pure (give value)) := by
  rw [← List.append_nil script]
  exact begun.bind fun value => watches_pure (give value)

/-- Writing entities is watched over their writes, in the order of tracking. The induction is on the
entities, and each write is a step of its own. -/
theorem watches_persistAll (work : UnitOfWork ε κ σ S) (entities : List (Tracked ε)) :
    Watches (entities.map .persist) (work.watched.persistAll entities)
      (work.persistAll entities) := by
  induction entities with
  | nil => exact watches_pure 0
  | cons tracked rest inductionHypothesis =>
    have first : Watches [.persist tracked]
        (work.watched.model.persist tracked.change tracked.entity)
        (work.model.persist tracked.change tracked.entity) :=
      watches_single _ _
    exact first.bind fun rows => inductionHypothesis.bind_pure (rows + ·)

/-- The handlers of an event are watched over one call each, in the order of registration. The
induction goes over the handlers from some place on. -/
theorem watches_handlers (event : DomainEvent κ) (handlers : List (Handler σ S event.kind))
    (start : Nat) :
    Watches (ε := ε) ((List.range' start handlers.length).map (.call event))
      (((handlers.zipIdx start).map fun (handle, place) fact =>
        watchInSession (ε := ε) (.call ⟨event.kind, fact⟩ place) (handle fact)).forM
          fun handle => handle event.fact)
      (handlers.forM fun handle => handle event.fact) := by
  induction handlers generalizing start with
  | nil => exact watches_pure ()
  | cons handle rest inductionHypothesis =>
    have first : Watches (ε := ε) [.call event start]
        (watchInSession (.call ⟨event.kind, event.fact⟩ start) (handle event.fact))
        (handle event.fact) :=
      watches_single _ _
    exact first.bind fun _ => inductionHypothesis (start + 1)

/-- Dispatch is watched over the calls of one event after the other, those of an event without
handlers being none. -/
theorem watches_dispatch (dispatcher : Dispatcher κ σ S) (events : List (DomainEvent κ)) :
    Watches (ε := ε) (events.flatMap (calls dispatcher))
      ((watchedDispatcher dispatcher).dispatch events) (dispatcher.dispatch events) := by
  induction events with
  | nil => exact watches_pure ()
  | cons event rest inductionHypothesis =>
    have first : Watches (ε := ε) (calls dispatcher event)
        ((watchedDispatcher dispatcher).dispatchOne event) (dispatcher.dispatchOne event) := by
      rw [calls, List.range_eq_range']
      exact watches_handlers event (dispatcher.handlers event.kind) 0
    exact first.bind fun _ => inductionHypothesis

/-- What happens within the session is watched over the writes and then the calls. -/
theorem watches_stage (work : UnitOfWork ε κ σ S) (entities : List (Tracked ε))
    (events : List (DomainEvent κ)) :
    Watches (work.workScript entities events) (work.watched.stage entities events)
      (work.stage entities events) := by
  exact (watches_persistAll work entities).bind fun rows =>
    (watches_dispatch (ε := ε) work.dispatcher events).bind_pure fun _ => rows

/-- The answer of a commit that did not come to its end is the failure of the step that failed,
unless the store failed to abandon the session. That step is not in the journal, as it is asked for
only once everything is over. -/
inductive Follows (work : UnitOfWork ε κ σ S) (script : List (Step ε κ)) (entries : Journal ε κ) :
    Except Outbox.Error α → Prop where
  | accounted {result : Except Outbox.Error α} (accounts : Accounts script entries result) :
    Follows work script entries result
  | unabandoned {failure error : Outbox.Error} {session : S} {world : World σ}
    (accounts : Accounts script entries (.error failure : Except Outbox.Error α))
    (stuck : ((work.store.abandon session).perform world).1 = .error error) :
    Follows work script entries (.error error)

/-- Whatever the answer, the journal accounts for the script: also where the session could not be
abandoned, the steps in front of that were taken in order. -/
theorem Follows.exists_accounts {work : UnitOfWork ε κ σ S} {script : List (Step ε κ)}
    {entries : Journal ε κ} {result : Except Outbox.Error α}
    (follows : work.Follows script entries result) :
    ∃ ended : Except Outbox.Error α, Accounts script entries ended := by
  cases follows with
  | accounted accounts => exact ⟨_, accounts⟩
  | unabandoned accounts stuck => exact ⟨_, accounts⟩

/-- Opening and closing a session are watched, abandoning it is not. -/
theorem perform_watch (step : Step ε κ) (effect : Effect (World σ) Outbox.Error α)
    (journal : Journal ε κ) (world : World σ) :
    (watch step effect).perform (keeping journal world) =
      ((effect.perform world).1, keeping (journal ++ [.ended step (effect.perform world).1])
        (effect.perform world).2) := rfl

/-- Abandoning a session leaves the journal as it is. -/
theorem perform_abandon_watched (work : UnitOfWork ε κ σ S) (session : S) (journal : Journal ε κ)
    (world : World σ) :
    (work.watched.store.abandon session).perform (keeping journal world) =
      (((work.store.abandon session).perform world).1,
        keeping journal ((work.store.abandon session).perform world).2) := rfl

/-- Writing entities and handing on their events, each in a session of its own: watched or not, it
does the same, and its journal follows the script. The cases are those of a session: not opened,
closed behind its work, or abandoned. -/
theorem follows_write (work : UnitOfWork ε κ σ S) (entities : List (Tracked ε))
    (events : List (DomainEvent κ)) (world : World σ) (journal : Journal ε κ) :
    ∃ entries, work.Follows (work.script entities events) entries
        ((work.write entities events).perform world).1 ∧
      (work.watched.write entities events).perform (keeping journal world) =
        (((work.write entities events).perform world).1,
          keeping (journal ++ entries) ((work.write entities events).perform world).2) := by
  have watchedOpening := perform_watch (ε := ε) (κ := κ) .begin work.store.begin journal world
  rcases opening : work.store.begin.perform world with ⟨failure | session, begun⟩
  · rw [opening] at watchedOpening
    rw [write, write, perform_inSession_refused opening, perform_inSession_refused watchedOpening]
    exact ⟨_, .accounted (.broken failure (List.nil_append _).symm), rfl⟩
  · rw [opening] at watchedOpening
    have opened : Accounts (ε := ε) (κ := κ) [.begin] [.passed .begin]
        (.ok session : Except Outbox.Error S) := .whole session
    obtain ⟨entries, accounted, same⟩ :=
      watches_stage work entities events begun session (journal ++ [.passed .begin])
    rcases performed : (work.stage entities events).perform (begun, session) with
      ⟨failure | rows, reached, left⟩
    · rw [performed] at accounted same
      have stopped : Accounts (work.script entities events) (.passed .begin :: entries)
          (.error failure : Except Outbox.Error UInt64) :=
        (opened.append accounted).stop [.close]
      have watchedAbandoning :=
        perform_abandon_watched work left (journal ++ [.passed .begin] ++ entries) reached
      refine ⟨.passed .begin :: entries, ?_⟩
      rw [write, write, perform_inSession_error opening performed,
        perform_inSession_error watchedOpening same]
      rcases abandoning : (work.store.abandon left).perform reached with ⟨error | ⟨⟩, gone⟩
      · rw [abandoning] at watchedAbandoning
        rw [Effect.perform_bind_error abandoning, Effect.perform_bind_error watchedAbandoning]
        exact ⟨.unabandoned stopped (congrArg Prod.fst abandoning), by simp⟩
      · rw [abandoning] at watchedAbandoning
        rw [Effect.perform_bind_ok abandoning, Effect.perform_bind_ok watchedAbandoning]
        exact ⟨.accounted stopped, by simp⟩
    · rw [performed] at accounted same
      have closed := ((opened.append accounted).append
        (accounts_single .close ((work.store.commit left).perform reached).1)).map fun _ => rows
      have watchedClosing : (work.watched.store.commit left).perform
          (keeping (journal ++ [.passed .begin] ++ entries) reached) = _ :=
        perform_watch .close (work.store.commit left) _ reached
      refine ⟨.passed .begin :: entries ++
        [.ended .close ((work.store.commit left).perform reached).1], ?_⟩
      rw [write, write, perform_inSession_ok opening performed,
        perform_inSession_ok watchedOpening same, watchedClosing]
      exact ⟨.accounted closed, by simp⟩

/-! ### Settled entities -/

/-- What becomes of an entity in a commit: it is stamped for its change, and if it is a root, then
no event of it is left pending. -/
structure Settles (work : UnitOfWork ε κ σ S) (now : Instant) (before after : Tracked ε) :
    Prop where
  change : after.change = before.change
  added (created : before.change = .added) : work.model.audit after.entity =
    { work.model.audit before.entity with createdBy := some work.user, createdOn := some now }
  modified (changed : before.change = .modified) : work.model.audit after.entity =
    { work.model.audit before.entity with modifiedBy := some work.user, modifiedOn := some now }
  pending : work.model.pending? after.entity = (work.model.pending? before.entity).map fun _ => []

variable {work : UnitOfWork ε κ σ S}

/-- The stamp takes no events off, since audit fields and pending events are different parts of an
entity. -/
theorem pending_stamp (lawful : work.model.Lawful) (now : Instant) (tracked : Tracked ε) :
    work.model.pending? (work.stamp now tracked).entity = work.model.pending? tracked.entity :=
  lawful.pending_withAudit _ _

/-- So stamping all entities leaves all pending events as they are. -/
theorem pendingEvents_stamp (lawful : work.model.Lawful) (now : Instant)
    (tracked : List (Tracked ε)) :
    pendingEvents work.model (tracked.map (work.stamp now)) = pendingEvents work.model tracked := by
  rw [pendingEvents, List.filterMap_map]
  exact congrArg List.flatten (List.filterMap_congr fun one _ => pending_stamp lawful now one)

/-- Taking events off leaves the audit fields as they are. -/
theorem audit_cleared (lawful : work.model.Lawful) (tracked : Tracked ε) :
    work.model.audit (work.cleared tracked).entity = work.model.audit tracked.entity := by
  unfold cleared
  split
  · exact lawful.audit_clearPending _
  · rfl

/-- Once events were taken off, a root has none left, and any other entity has none as before. -/
theorem pending_cleared (lawful : work.model.Lawful) (tracked : Tracked ε) :
    work.model.pending? (work.cleared tracked).entity =
      (work.model.pending? tracked.entity).map fun _ => [] := by
  unfold cleared
  cases root : work.model.pending? tracked.entity with
  | some events => exact lawful.pending_clearPending _ root
  | none => exact root

theorem change_cleared (tracked : Tracked ε) : (work.cleared tracked).change = tracked.change := by
  unfold cleared
  split <;> rfl

/-- An entity that was stamped and whose events were taken off is settled, whichever change it was
tracked for. -/
theorem settles_cleared_stamp (lawful : work.model.Lawful) (now : Instant) (tracked : Tracked ε) :
    work.Settles now tracked (work.cleared (work.stamp now tracked)) := by
  have stamped : work.model.audit (work.cleared (work.stamp now tracked)).entity =
      (work.model.audit tracked.entity).stamp tracked.change work.user now := by
    rw [audit_cleared lawful]
    exact lawful.audit_withAudit _ _
  constructor
  · rw [change_cleared]
    rfl
  · intro created
    rw [stamped, created]
    rfl
  · intro changed
    rw [stamped, changed]
    rfl
  · rw [pending_cleared lawful, pending_stamp lawful]

/-- Settled entities have no events that a commit could take off, so that a later commit of the same
entities hands nothing on again. -/
theorem eq_nil_of_settles {now : Instant} {before after : List (Tracked ε)}
    (settles : List.Forall₂ (work.Settles now) before after) :
    ∀ tracked ∈ after, ∀ events ∈ work.model.pending? tracked.entity, events = [] := by
  induction settles with
  | nil => simp
  | @cons earlier later before after settled rest inductionHypothesis =>
    refine List.forall_mem_cons.mpr ⟨fun events root => ?_, inductionHypothesis⟩
    rw [settled.pending] at root
    obtain ⟨_, _, rfl⟩ := Option.map_eq_some_iff.mp root
    rfl

/-! ### Commits -/

/-- A commit that left its entities settled and gave a result: its events are handed on once, in
order, and only behind the writes. -/
structure OnceInOrder (work : UnitOfWork ε κ σ S) (tracked : List (Tracked ε)) (world : World σ)
    (result : Except Outbox.Error UInt64) (settled : List (Tracked ε)) (reached : World σ) :
    Prop where
  /-- The settled entities are written, and what is handed on behind them is the pending events of
  the tracked entities, in the order of tracking and within an entity in the order of raising. -/
  handed : (work.write settled (pendingEvents work.model tracked)).perform
    { world with readings := world.readings + 1 } = (result, reached)
  /-- The journal is one of this very run. -/
  watched : (work.watched.commit tracked).run (keeping [] world) =
    ((result, settled), keeping (work.course tracked world) reached)
  /-- The run takes the steps of its script one after the other, up to the first one that fails. -/
  follows : work.Follows (work.script settled (pendingEvents work.model tracked))
    (work.course tracked world) result
  /-- A handler is called only once the session was opened and every entity was written. -/
  guarded : ∀ entry ∈ work.course tracked world, entry.step.isCall = true →
    (.begin :: settled.map .persist).map .passed <+: work.course tracked world
  /-- Where the commit succeeds, every handler of every event was called once and succeeded. -/
  complete : ∀ rows, result = .ok rows → work.course tracked world =
    (work.script settled (pendingEvents work.model tracked)).map .passed
  /-- However the commit ends, every entity is stamped and keeps no event pending. -/
  settles : List.Forall₂ (work.Settles (world.clock world.readings)) tracked settled
  /-- A later commit of entities that this one left hands nothing on and calls no handler. -/
  once : ∀ again : UnitOfWork ε κ σ S, again.model = work.model →
    ∀ later : List (Tracked ε), (∀ entity ∈ later.map (·.entity), entity ∈ settled.map (·.entity)) →
      pendingEvents again.model later = [] ∧
        ∀ world, ∀ entry ∈ again.course later world, entry.step.isCall = false

/-- The world once the clock was read for the stamp. -/
def stampedWorld (world : World σ) : World σ :=
  { world with readings := world.readings + 1 }

/-- A commit writes its settled entities and hands on the events that were pending before.
Everything else in a commit happens to the entities before anything is asked of the store. -/
theorem commit_eq_write (lawful : work.model.Lawful) (tracked : List (Tracked ε))
    (world : World σ) :
    (work.commit tracked).run world =
      let settled := tracked.map fun entity =>
        work.cleared (work.stamp (world.clock world.readings) entity)
      let written :=
        (work.write settled (pendingEvents work.model tracked)).perform (stampedWorld world)
      ((written.1, settled), written.2) := by
  have events : (tracked.map (work.stamp (world.clock world.readings))).flatMap work.harvested =
      pendingEvents work.model tracked := by
    rw [flatMap_harvested, pendingEvents_stamp lawful]
  have settled : (tracked.map (work.stamp (world.clock world.readings))).map work.cleared =
      tracked.map fun entity => work.cleared (work.stamp (world.clock world.readings) entity) := by
    simp
  rw [← events, ← settled]
  rfl

/-- Watching is lawful where the entities are, as it changes neither audit fields nor events. -/
theorem lawful_watched (lawful : work.model.Lawful) : work.watched.model.Lawful :=
  ⟨lawful.audit_withAudit, lawful.pending_withAudit, lawful.audit_clearPending,
    lawful.pending_clearPending⟩

/-- The journal of a commit is one of this very commit and follows its script: the commit that is
watched gives the same result and reaches the same state. -/
theorem course_follows (lawful : work.model.Lawful) (tracked : List (Tracked ε)) (world : World σ) :
    work.Follows
        (work.script ((work.commit tracked).run world).1.2 (pendingEvents work.model tracked))
        (work.course tracked world) ((work.commit tracked).run world).1.1 ∧
      (work.watched.commit tracked).run (keeping [] world) =
        (((work.commit tracked).run world).1,
          keeping (work.course tracked world) ((work.commit tracked).run world).2) := by
  let settled := tracked.map fun entity =>
    work.cleared (work.stamp (world.clock world.readings) entity)
  obtain ⟨entries, follows, same⟩ := follows_write work settled (pendingEvents work.model tracked)
    (stampedWorld world) []
  have watched : (work.watched.commit tracked).run (keeping [] world) =
      ((((work.watched.write settled (pendingEvents work.model tracked)).perform
          (keeping [] (stampedWorld world))).1, settled),
        ((work.watched.write settled (pendingEvents work.model tracked)).perform
          (keeping [] (stampedWorld world))).2) :=
    commit_eq_write (lawful_watched lawful) tracked (keeping [] world)
  have journal : work.course tracked world = entries := by
    rw [course, watched, same]
    rfl
  rw [journal, watched, same, commit_eq_write lawful]
  exact ⟨follows, rfl⟩

/-- No call is among what happens before the calls: opening a session calls nobody, and neither does
a write. -/
theorem isCall_eq_false_of_mem {entities : List (Tracked ε)} {step : Step ε κ}
    (member : step ∈ .begin :: entities.map .persist) : step.isCall = false := by
  rcases List.mem_cons.mp member with rfl | written
  · rfl
  · obtain ⟨entity, -, rfl⟩ := List.mem_map.mp written
    rfl

/-- Where nothing is pending, no handler is called, because the script has no call in it. -/
theorem isCall_eq_false_of_course (lawful : work.model.Lawful) {tracked : List (Tracked ε)}
    (none : pendingEvents work.model tracked = []) (world : World σ) :
    ∀ entry ∈ work.course tracked world, entry.step.isCall = false := by
  intro entry taken
  obtain ⟨follows, -⟩ := course_follows lawful tracked world
  rw [none] at follows
  obtain ⟨ended, accounts⟩ := follows.exists_accounts
  have among : entry.step ∈ (.begin :: ((work.commit tracked).run world).1.2.map .persist) ++
      [.close] := by
    simpa [script, workScript] using accounts.step_mem entry taken
  rcases List.mem_append.mp among with before | last
  · exact isCall_eq_false_of_mem before
  · rw [List.mem_singleton.mp last]
    rfl

/-- Every entity is settled, however a commit ends. The entities are stamped and relieved of their
events before the session is opened, so that no failure of the store can make a difference. -/
theorem commit_settles (lawful : work.model.Lawful) (tracked : List (Tracked ε)) (world : World σ) :
    List.Forall₂ (work.Settles (world.clock world.readings)) tracked
      ((work.commit tracked).run world).1.2 := by
  rw [commit_eq_write lawful]
  induction tracked with
  | nil => exact .nil
  | cons entity rest inductionHypothesis =>
    exact .cons (settles_cleared_stamp lawful _ entity) inductionHypothesis

/-- Stamping, taking events off, writing and handing on: whatever store, handlers and entities do,
the events of a commit are handed on once, in order, and only behind the writes.

Proof: a commit is the write of its settled entities (`commit_eq_write`), and its journal accounts
for the script of that write (`course_follows`). Every call in the journal stands behind the steps
in front of the calls, all of which therefore passed (`Accounts.isPrefix`). Entities that are
settled have nothing pending, so that a later commit of them calls nobody. -/
theorem commit_onceInOrder (lawful : work.model.Lawful) {tracked settled : List (Tracked ε)}
    {world reached : World σ} {result : Except Outbox.Error UInt64}
    (committed : (work.commit tracked).run world = ((result, settled), reached)) :
    work.OnceInOrder tracked world result settled reached := by
  have settles := commit_settles lawful tracked world
  obtain ⟨follows, watched⟩ := course_follows lawful tracked world
  rw [committed] at settles follows watched
  refine ⟨?_, watched, follows, ?_, ?_, settles, ?_⟩
  · rw [commit_eq_write lawful] at committed
    cases committed
    rfl
  · intro entry taken call
    have later : entry.step ∉ .begin :: settled.map Step.persist := fun member =>
      absurd call (by rw [isCall_eq_false_of_mem member]; decide)
    have parts : work.script settled (pendingEvents work.model tracked) =
        (.begin :: settled.map .persist) ++
          ((pendingEvents work.model tracked).flatMap (calls work.dispatcher) ++ [.close]) := by
      simp [script, workScript]
    rw [parts] at follows
    obtain ⟨ended, accounts⟩ := follows.exists_accounts
    exact accounts.isPrefix taken later
  · rintro rows rfl
    cases follows with
    | accounted accounts =>
      generalize work.course tracked world = entries at accounts
      cases accounts
      rfl
  · intro again same later among
    have none : pendingEvents again.model later = [] := by
      refine List.flatten_eq_nil_iff.mpr fun events harvested => ?_
      obtain ⟨tracked, member, root⟩ := List.mem_filterMap.mp harvested
      obtain ⟨left, leftSettled, alike⟩ :=
        List.mem_map.mp (among tracked.entity (List.mem_map_of_mem member))
      rw [same, ← alike] at root
      exact eq_nil_of_settles settles left leftSettled events root
    exact ⟨none, fun world => isCall_eq_false_of_course (same ▸ lawful) none world⟩

/-- A unit of work with two handlers of one kind of events, the second of which refuses the amount
99, and none of any other kind. -/
def clerk : UnitOfWork Rehearsal.Entity Rehearsal.Sample.Kind Rehearsal.Site Outbox.Session where
  store := Rehearsal.Site.store
  model := Rehearsal.Entity.model
  dispatcher := Dispatcher.empty
    |>.register .alpha ((Rehearsal.Reaction.record ⟨"ledger", none, none⟩).handler .alpha)
    |>.register .alpha ((Rehearsal.Reaction.record
        ⟨"limits", none, some ⟨99, .handler, "over the limit"⟩⟩).handler .alpha)
  user := "alice"

/-- An event of an account. -/
def deposit (kind : Rehearsal.Sample.Kind) (amount : Int) : Rehearsal.Sample.Event :=
  ⟨kind, (⟨"account", amount, ⟨0, 0⟩⟩ : Rehearsal.Sample.Fact)⟩

/-- Two aggregate roots and between them an entity that is none. -/
def accounts : List (Tracked Rehearsal.Entity) :=
  [⟨.added, { id := "first", events := [deposit .alpha 10] }⟩,
   ⟨.modified, { id := "plain", isRoot := false, events := [deposit .alpha 7] }⟩,
   ⟨.modified, { id := "last", events := [deposit .beta 1, deposit .alpha 99, deposit .alpha 5] }⟩]

/-- The second handler of the second event with handlers fails. The event behind it is not handed
on, neither now nor by a later commit. -/
theorem commit_onceInOrder_clerk : clerk.model.Lawful ∧
    ∃ settled reached, (clerk.commit accounts).run Rehearsal.Site.quietWorld =
        ((.error (.handler "alpha.happened" "over the limit"), settled), reached) ∧
      clerk.OnceInOrder accounts Rehearsal.Site.quietWorld
        (.error (.handler "alpha.happened" "over the limit")) settled reached ∧
      (clerk.course accounts Rehearsal.Site.quietWorld).map (·.step.isCall) =
        [false, false, false, false, true, true, true, true] :=
  ⟨Rehearsal.Entity.lawful_model, _, _, rfl,
    commit_onceInOrder Rehearsal.Entity.lawful_model rfl, rfl⟩

end UnitOfWork

end OutboxRelay

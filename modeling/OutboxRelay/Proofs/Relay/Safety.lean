import Mathlib.Data.List.Nodup
import OutboxRelay.Proofs.Relay.System

/-!
# Safety of the relay

What holds at every moment, however calls of the service and moves of processors come between each
other and whatever fails. A message on the bus has the type and the content of a committed message,
which names a stored order and says of it only what is so. A message counts as processed only after
the bus accepted it. Nothing that was committed is lost, and what is not processed comes back.

A processor works on parts of messages that it fetched some time ago. They stay true of the outbox,
because what was added to it never changes; that an attempt was accepted stays true because the bus
keeps its messages. So what the stages of processors claim survives every move of anyone else.
-/

namespace OutboxRelay.Relay

open Delivery (Config Delivers)
open OutboxRelay.Order (Announces Called Consistent DistinctDraws siteService)
open Outbox (Memory Message Pending)
open Rehearsal (Faults Site)

/-! ### What is only added to -/

/-- A world that others have moved on. Identifiers and readings are drawn from the same sources, the
messages that were added are there as they were added, and the bus still carries what it carried.
This is all that a processor in the middle of its cycle can rely on. -/
structure Grows (draws : Nat) (before after : World Site) : Prop
    extends Site.Passes draws before after where
  added : before.state.memory.added <+: after.state.memory.added
  published : before.state.bus.published <+: after.state.bus.published

theorem grows_refl (draws : Nat) (world : World Site) : Grows draws world world :=
  ⟨Site.passes_refl draws world, List.prefix_rfl, List.prefix_rfl⟩

theorem Grows.trans {first second : Nat} {before middle after : World Site}
    (grows : Grows first before middle) (further : Grows second middle after) :
    Grows (first + second) before after :=
  ⟨grows.toPasses.trans further.toPasses, grows.added.trans further.added,
    grows.published.trans further.published⟩

/-- A call of the service adds messages behind those that there are, and never touches the bus. -/
theorem grows_of_called {before after : World Site} (called : Called before after) :
    Grows 2 before after := by
  refine ⟨called.passes, ?_, ?_⟩
  · rcases called with ⟨_, _, rests | ⟨_, _, _, _, commits⟩⟩
    · have same : before.state.memory.added = after.state.memory.added := by
        rw [Memory.added, Memory.added, rests.memory.outbox]
      exact same ▸ List.prefix_rfl
    · rw [commits.memory, Memory.added_apply]
      exact List.prefix_append _ _
  · rcases called with ⟨_, _, rests | ⟨_, _, _, _, commits⟩⟩
    · exact rests.bus ▸ List.prefix_rfl
    · exact commits.bus ▸ List.prefix_rfl

/-- A step of delivery that leaves the bus alone adds no message, and changes none but for its
marks. -/
theorem grows_of_delivers {mayMark : Identifier → Prop} {before after : World Site} (draws : Nat)
    (delivers : Delivers mayMark before after) (bus : after.state.bus = before.state.bus) :
    Grows draws before after := by
  refine ⟨delivers.passes draws, ?_, ?_⟩
  · exact delivers.memory.added ▸ List.prefix_rfl
  · exact bus ▸ List.prefix_rfl

/-- An attempt adds at most one message to the bus. -/
theorem grows_of_attempt (draws : Nat) (config : Config) (message : Pending) (world : World Site) :
    Grows draws world (((Site.processor config).attempt message).run world).2 := by
  rw [Delivery.run_attempt]
  refine ⟨Site.passes_withState draws world _, List.prefix_rfl, ?_⟩
  rcases world.state.bus.publish_cases message.eventType message.content with
    ⟨error, _, kept⟩ | ⟨_, kept⟩
  · exact kept ▸ List.prefix_rfl
  · exact kept ▸ List.prefix_append _ _

theorem grows_of_disturbed (draws : Nat) (faults : Faults) (failNextCommit failNextFetch : Bool)
    (refused : List String) (unavailable : Bool) (world : World Site) :
    Grows draws world
      (Site.disturbed faults failNextCommit failNextFetch refused unavailable world) :=
  ⟨Site.passes_withState draws world _, List.prefix_rfl, List.prefix_rfl⟩

/-- Every move only adds, and draws two identifiers at most: one for an order and one for a message.
The cases are the moves, each of which is a call, a step of delivery or a change of switches. -/
theorem step_grows (configs : Nat → Config) (system : System) (move : Move) :
    Grows 2 system.world (step configs system move).world := by
  cases move with
  | place user customerId totalCents =>
    rw [step_place]
    dsimp only
    exact grows_of_called (Order.called_place user customerId totalCents.toInt system.world)
  | cancel user id reason =>
    rw [step_cancel]
    dsimp only
    exact grows_of_called (Order.called_cancel user id reason system.world)
  | fetch p =>
    rcases step_fetch_cases configs system p with idle | nothing
    · rw [step_fetch idle]
      obtain ⟨delivers, bus, _⟩ := Delivery.fetch_delivers (configs p).batchSize
        (configs p).maxRetries system.world
      exact grows_of_delivers 2 delivers bus
    · rw [nothing]
      exact grows_refl 2 _
  | publish p =>
    rcases step_publish_cases configs system p with ⟨message, queue, due⟩ | nothing
    · rw [step_publish due]
      exact grows_of_attempt 2 (configs p) message system.world
    · rw [nothing]
      exact grows_refl 2 _
  | record p =>
    rcases step_record_cases configs system p with ⟨message, answer, queue, answered⟩ | nothing
    · rw [step_record answered]
      obtain ⟨delivers, bus⟩ := Delivery.record_delivers (configs p) message answer system.world
      exact grows_of_delivers 2 delivers bus
    · rw [nothing]
      exact grows_refl 2 _
  | reset id =>
    obtain ⟨delivers, bus⟩ := Delivery.reset_delivers id system.world
    exact grows_of_delivers 2 delivers bus
  | disturb => exact grows_of_disturbed _ _ _ _ _ _ _

/-- So does every run, by induction on its moves. The bound on the identifiers drawn is what a
witness needs to know that they were distinct. -/
theorem run_grows (configs : Nat → Config) (system : System) (moves : List Move) :
    Grows (2 * moves.length) system.world (run configs system moves).world := by
  induction moves generalizing system with
  | nil => exact grows_refl _ _
  | cons move rest inductionHypothesis =>
    have both :=
      (step_grows configs system move).trans (inductionHypothesis (step configs system move))
    rw [List.length_cons, Nat.mul_succ, Nat.add_comm]
    exact both

/-! ### What holds at every moment -/

/-- The bus accepted a message of this type with this content. It is said of the content and not of
the identifier, since an envelope is all that a subscriber is given. -/
def Accepted (world : World Site) (eventType content : String) : Prop :=
  ∃ message ∈ world.state.bus.published,
    message.eventType? = some eventType ∧ message.payload = content

/-- A part of a message of the outbox. It is compared with the message as it was added, so that it
stays true whatever delivery marks on that message. -/
def Known (world : World Site) (pending : Pending) : Prop :=
  ∃ row ∈ world.state.memory.added, row.id = pending.id ∧ row.eventType = pending.eventType ∧
    row.content = pending.content

/-- What the bus accepted it keeps, so that an answer is true for as long as it waits to be
recorded. -/
theorem Accepted.grow {draws : Nat} {before after : World Site} {eventType content : String}
    (accepted : Accepted before eventType content) (grows : Grows draws before after) :
    Accepted after eventType content := by
  obtain ⟨message, among, same⟩ := accepted
  exact ⟨message, grows.published.subset among, same⟩

/-- What was added is there for good, so that a copy stays a part of its message for as long as it
is held. -/
theorem Known.grow {draws : Nat} {before after : World Site} {pending : Pending}
    (known : Known before pending) (grows : Grows draws before after) : Known after pending := by
  obtain ⟨row, among, same⟩ := known
  exact ⟨row, grows.added.subset among, same⟩

/-- What the world says for the stage of a processor: the messages that it holds are parts of
messages of the outbox, and an attempt that it takes for accepted was. -/
structure Backs (world : World Site) (stage : Stage) : Prop where
  known : ∀ pending ∈ stage.held, Known world pending
  accepted : ∀ message queue, stage = .recording message (.ok ()) queue →
    Accepted world message.eventType message.content

theorem Backs.grow {draws : Nat} {before after : World Site} {stage : Stage}
    (backs : Backs before stage) (grows : Grows draws before after) : Backs after stage :=
  ⟨fun pending member => (backs.known pending member).grow grows,
    fun message queue same => (backs.accepted message queue same).grow grows⟩

/-- A site on which orders, outbox and bus belong together: every message says something true of a
stored order, the bus carries nothing but what was committed, and no message is marked as processed
that the bus did not accept. -/
structure SoundSite (world : World Site) : Prop where
  consistent : Consistent world.ids world.drawn world.state.memory
  published : ∀ message ∈ world.state.bus.published, ∃ row ∈ world.state.memory.added,
    message.eventType? = some row.eventType ∧ message.payload = row.content
  processed : ∀ row ∈ world.state.memory.outbox, row.isProcessed = true →
    Accepted world row.eventType row.content

/-- A system whose site is sound and whose processors are all backed by it. This is the invariant of
the relay: the claims of processors belong to it, because a record is justified by an answer that
was given some moves ago. -/
structure Sound (system : System) : Prop where
  site : SoundSite system.world
  stages : ∀ p, Backs system.world (system.stages p)

/-- A site stays sound through a call of the service that keeps orders and outbox together. The call
adds messages that are not processed, and leaves the bus and all earlier messages as they were. -/
theorem SoundSite.call {before after : World Site} (sound : SoundSite before)
    (consistent : Consistent after.ids after.drawn after.state.memory)
    (called : Called before after) : SoundSite after := by
  have grows : Grows 2 before after := grows_of_called called
  have bus : after.state.bus = before.state.bus := by
    rcases called with ⟨_, _, rests | ⟨_, _, _, _, commits⟩⟩
    · exact rests.bus
    · exact commits.bus
  have rows : ∀ row ∈ after.state.memory.outbox, row.isProcessed = true →
      row ∈ before.state.memory.outbox := by
    intro row member processed
    rcases called with ⟨_, _, rests | ⟨_, _, _, _, commits⟩⟩
    · exact rests.memory.outbox ▸ member
    · rw [commits.memory] at member
      rcases List.mem_append.mp member with old | new
      · exact old
      · rw [List.mem_singleton.mp new] at processed
        cases processed
  refine ⟨consistent, ?_, ?_⟩
  · rw [bus]
    intro message member
    obtain ⟨row, among, same⟩ := sound.published message member
    exact ⟨row, grows.added.subset among, same⟩
  · exact fun row member processed =>
      (sound.processed row (rows row member processed) processed).grow grows

/-- A site stays sound through a step of delivery that marks only what was accepted. The bus is that
of before; a row that is processed either was so before, or is one that the step was allowed to
mark. -/
theorem SoundSite.deliver {mayMark : Identifier → Prop} {before after : World Site}
    (sound : SoundSite before) (delivers : Delivers mayMark before after)
    (bus : after.state.bus = before.state.bus)
    (marked : ∀ row ∈ before.state.memory.added, mayMark row.id →
      Accepted before row.eventType row.content) : SoundSite after := by
  have grows : Grows 0 before after := grows_of_delivers 0 delivers bus
  refine ⟨?_, ?_, ?_⟩
  · rw [delivers.ids]
    exact sound.consistent.congr (Nat.le_of_eq delivers.drawn.symm) delivers.memory.rows
      delivers.memory.added
  · rw [bus, delivers.memory.added]
    exact sound.published
  · intro row member processed
    refine Accepted.grow ?_ grows
    rcases delivers.memory.processed row member processed with ⟨old, among, same, earlier⟩ | allowed
    · obtain ⟨_, eventType, content, _⟩ := Message.eq_of_asAdded same
      exact eventType ▸ content ▸ sound.processed old among earlier
    · have among : row.asAdded ∈ before.state.memory.added := by
        rw [← delivers.memory.added]
        exact List.mem_map_of_mem member
      exact marked row.asAdded among allowed

/-- A site stays sound through an attempt for a part of one of its messages, and an attempt that was
accepted stays so. -/
theorem SoundSite.attempt {world : World Site} (sound : SoundSite world) (config : Config)
    {message : Pending} (known : Known world message) :
    let attempted := ((Site.processor config).attempt message).run world
    SoundSite attempted.2 ∧
      (attempted.1 = .ok () → Accepted attempted.2 message.eventType message.content) := by
  intro attempted
  have grows : Grows 0 world attempted.2 := grows_of_attempt 0 config message world
  have kept : (world.state.bus.messageFor message.eventType message.content).eventType? =
      some message.eventType := Broker.MemoryBus.eventType?_messageFor _ _ _
  have performed : attempted = _ := Delivery.run_attempt config message world
  have processed : ∀ row ∈ world.state.memory.outbox, row.isProcessed = true →
      Accepted attempted.2 row.eventType row.content :=
    fun row member done => (sound.processed row member done).grow grows
  rw [performed] at processed ⊢
  rcases world.state.bus.publish_cases message.eventType message.content with
    ⟨error, refused, same⟩ | ⟨accepted, more⟩
  · refine ⟨⟨sound.consistent, ?_, processed⟩, ?_⟩
    · exact same ▸ sound.published
    · intro accepted
      rw [refused] at accepted
      cases accepted
  · refine ⟨⟨sound.consistent, ?_, processed⟩, ?_⟩
    · intro carrier member
      rcases List.mem_append.mp (more ▸ member) with old | new
      · exact sound.published carrier old
      · obtain ⟨row, among, _, eventType, content⟩ := known
        rw [List.mem_singleton.mp new]
        exact ⟨row, among, eventType ▸ kept, content.symm⟩
    · intro _
      refine ⟨_, ?_, kept, rfl⟩
      exact more ▸ List.mem_append_right _ List.mem_cons_self

/-- Setting switches changes nothing that soundness is about. -/
theorem SoundSite.disturb {world : World Site} (sound : SoundSite world) (faults : Faults)
    (failNextCommit failNextFetch : Bool) (refused : List String) (unavailable : Bool) :
    SoundSite (Site.disturbed faults failNextCommit failNextFetch refused unavailable world) :=
  ⟨sound.consistent.congr (Nat.le_refl _) rfl rfl, sound.published, sound.processed⟩

/-- A sound site that grew from that of a sound system keeps the system sound. -/
theorem Sound.onWorld {system : System} {world : World Site} {draws : Nat} (sound : Sound system)
    (site : SoundSite world) (grows : Grows draws system.world world) :
    Sound { system with world } :=
  ⟨site, fun p => (sound.stages p).grow grows⟩

/-- Moving one processor to a stage that the world backs keeps a system sound: the other processors
are still backed, as the world only grew. -/
theorem Sound.moveTo {system : System} {world : World Site} {draws p : Nat} {stage : Stage}
    (sound : Sound system) (site : SoundSite world) (grows : Grows draws system.world world)
    (backs : Backs world stage) : Sound (System.moveTo p stage { system with world }) := by
  refine ⟨site, fun other => ?_⟩
  rw [System.stages_moveTo]
  split
  · exact backs
  · exact (sound.stages other).grow grows

/-- A part of a message of the outbox is known. -/
theorem known_toPending {world : World Site} {row : Message}
    (member : row ∈ world.state.memory.outbox) : Known world row.toPending :=
  ⟨row.asAdded, List.mem_map_of_mem member, rfl, rfl, rfl⟩

/-- What a cycle takes from its poll, the poll gave. -/
theorem mem_polled {answer : Except Outbox.Error (List Pending)} {pending : Pending}
    (member : pending ∈ polled answer) :
    ∃ messages, answer = .ok messages ∧ pending ∈ messages := by
  cases answer with
  | error error => cases member
  | ok messages => exact ⟨messages, rfl, member⟩

section

variable {configs : Nat → Config} {system : System} {p : Nat} {message : Pending}
  {queue : List Pending}

/-- A poll gives the processor parts of messages of the outbox. Nobody else is concerned, and a poll
that fails gives nothing. -/
theorem Sound.fetch (sound : Sound system) (idle : system.stages p = .delivering []) :
    Sound (step configs system (.fetch p)) := by
  rw [step_fetch idle]
  obtain ⟨delivers, bus, parts⟩ := Delivery.fetch_delivers (configs p).batchSize
    (configs p).maxRetries system.world
  have grows := grows_of_delivers 0 delivers bus
  have site := sound.site.deliver delivers bus fun _ _ => False.elim
  refine sound.moveTo site grows ⟨?_, ?_⟩
  · intro pending member
    obtain ⟨messages, given, among⟩ := mem_polled member
    obtain ⟨row, stored, rfl⟩ := parts messages given pending among
    exact (known_toPending stored).grow grows
  · intro message queue recording
    cases recording

/-- An attempt leaves the processor with the answer of the bus. If the bus accepted the message, it
carries it from then on, which is what the stage of the processor claims. -/
theorem Sound.publish (sound : Sound system)
    (due : system.stages p = .delivering (message :: queue)) :
    Sound (step configs system (.publish p)) := by
  rw [step_publish due]
  have backs := sound.stages p
  rw [due] at backs
  have grows := grows_of_attempt 0 (configs p) message system.world
  obtain ⟨site, accepted⟩ :=
    sound.site.attempt (configs p) (backs.known message List.mem_cons_self)
  refine sound.moveTo site grows ⟨?_, ?_⟩
  · intro pending member
    exact (backs.known pending member).grow grows
  · intro same rest recording
    injection recording with same answer _
    subst same
    exact accepted answer

/-- A record marks the message only if its attempt was accepted. Identifiers tell messages apart, so
that no other message is marked. -/
theorem Sound.record (sound : Sound system) {answer : Except Broker.Error Unit}
    (answered : system.stages p = .recording message answer queue) :
    Sound (step configs system (.record p)) := by
  rw [step_record answered]
  have backs := sound.stages p
  rw [answered] at backs
  obtain ⟨delivers, bus⟩ := Delivery.record_delivers (configs p) message answer system.world
  have grows := grows_of_delivers 0 delivers bus
  refine sound.moveTo (sound.site.deliver delivers bus ?_) grows ⟨?_, ?_⟩
  · rintro row among ⟨rfl, same⟩
    obtain ⟨original, stored, id, eventType, content⟩ := backs.known message List.mem_cons_self
    have one : row = original := by
      apply List.inj_on_of_nodup_map sound.site.consistent.distinct among stored
      exact same.trans id.symm
    rw [one, eventType, content]
    exact backs.accepted message queue rfl
  · intro pending member
    exact (backs.known pending (List.mem_cons_of_mem _ member)).grow grows
  · intro other rest recording
    cases recording

end

/-- Every move keeps a system sound, as long as the identifiers that it draws are new.

Proof: a call of the service keeps orders and outbox consistent, a poll, an attempt and a record
concern the stage of one processor, and a reset or a change of switches concerns none. In each case
the world has only grown, and so the claims of all other processors stand. -/
theorem step_sound (configs : Nat → Config) {system : System} (move : Move) (sound : Sound system)
    (valid : ∀ n, (system.world.clock n).IsValid)
    (distinct : DistinctDraws system.world.ids (step configs system move).world.drawn) :
    Sound (step configs system move) := by
  cases move with
  | place user customerId totalCents =>
    rw [step_place] at distinct ⊢
    dsimp only at distinct
    have called := Order.called_place user customerId totalCents.toInt system.world
    have consistent := sound.site.consistent.placeOrder valid user customerId
      (Order.admits_toInt totalCents) distinct
    exact sound.onWorld (sound.site.call consistent called) (grows_of_called called)
  | cancel user id reason =>
    rw [step_cancel] at distinct ⊢
    dsimp only at distinct
    have called := Order.called_cancel user id reason system.world
    have consistent := sound.site.consistent.cancelOrder valid user id reason distinct
    exact sound.onWorld (sound.site.call consistent called) (grows_of_called called)
  | fetch p =>
    rcases step_fetch_cases configs system p with idle | nothing
    · exact sound.fetch idle
    · rw [nothing]
      exact sound
  | publish p =>
    rcases step_publish_cases configs system p with ⟨message, queue, due⟩ | nothing
    · exact sound.publish due
    · rw [nothing]
      exact sound
  | record p =>
    rcases step_record_cases configs system p with ⟨message, answer, queue, answered⟩ | nothing
    · exact sound.record answered
    · rw [nothing]
      exact sound
  | reset id =>
    obtain ⟨delivers, bus⟩ := Delivery.reset_delivers id system.world
    have site := sound.site.deliver delivers bus fun _ _ => False.elim
    exact sound.onWorld site (grows_of_delivers 0 delivers bus)
  | disturb faults failNextCommit failNextFetch refused unavailable =>
    have grows := grows_of_disturbed 0 faults failNextCommit failNextFetch refused unavailable
      system.world
    exact sound.onWorld
      (sound.site.disturb faults failNextCommit failNextFetch refused unavailable) grows

/-- Every run keeps a system sound, by induction on its moves. The identifiers of the first move are
among those that the whole run draws, which are distinct, and clock and identifiers are still those
of the beginning when the rest of the run begins. -/
theorem run_sound (configs : Nat → Config) (moves : List Move) {system : System}
    (sound : Sound system) (valid : ∀ n, (system.world.clock n).IsValid)
    (distinct : DistinctDraws system.world.ids (run configs system moves).world.drawn) :
    Sound (run configs system moves) := by
  induction moves generalizing system with
  | nil => exact sound
  | cons move rest inductionHypothesis =>
    have first := step_grows configs system move
    have later : Grows (2 * rest.length) (step configs system move).world
        (run configs system (move :: rest)).world :=
      run_grows configs (step configs system move) rest
    have begun : Sound (step configs system move) :=
      step_sound configs move sound valid (distinct.mono later.drawn)
    refine inductionHypothesis begun ?_ ?_
    · exact first.clock ▸ valid
    · rw [first.ids]
      exact distinct

/-- Before anything happened a system is sound: there are no orders and no messages, the bus is
silent, and no processor holds anything. -/
theorem sound_unused {world : World Site} (unused : Order.Unused world.state.memory)
    (silent : world.state.bus.published = []) : Sound { world } := by
  refine ⟨⟨unused.consistent _ _, ?_, ?_⟩, ?_⟩
  · rw [silent]
    rintro message ⟨⟩
  · rw [unused.outbox]
    rintro row ⟨⟩
  · intro p
    constructor
    · rintro pending ⟨⟩
    · rintro message queue ⟨⟩

/-! ### Safety -/

/-- What a message on the bus stands for: a committed message of its type and its content, whose
envelope names a stored order, a cancelled one if the message speaks of a cancellation. -/
def Vouched (memory : Memory) (carrier : Broker.Message) : Prop :=
  ∃ row ∈ memory.outbox, ∃ envelope order,
    carrier.eventType? = some row.eventType ∧ carrier.payload = row.content ∧
    row.envelope? = some envelope ∧ envelope.aggregateId = order.id.toText ∧
    Order.findIn memory order.id = .ok (some order) ∧
    (row.eventType = Order.integrationType .cancelled → order.status = .cancelled)

/-- What a message announces is so, and can be looked up: the order that its envelope names is found
under the identifier that stands there, in the state that the message speaks of. -/
theorem vouched_of_announces {memory : Memory} {message : Message} {carrier : Broker.Message}
    (among : message ∈ memory.added) (announces : Announces memory message)
    (eventType : carrier.eventType? = some message.eventType)
    (content : carrier.payload = message.content) : Vouched memory carrier := by
  obtain ⟨row, stored, rfl⟩ := List.mem_map.mp among
  obtain ⟨kind, fact, order, written, happens, standing, about, status⟩ := announces
  have rowContent : row.asAdded.content = (Order.messageOf row.id kind fact).content :=
    congrArg Message.content written
  have rowType : row.asAdded.eventType = Order.integrationType kind :=
    congrArg Message.eventType written
  refine ⟨row, stored, Order.envelope row.id kind fact, order, eventType, content, ?_, ?_,
    standing.findIn, ?_⟩
  · exact (congrArg Envelope.ofText? rowContent).trans (Order.envelope?_messageOf row.id happens)
  · rw [about]
    cases kind <;> rfl
  · intro cancelled
    have same : Order.integrationType kind = Order.integrationType .cancelled :=
      rowType.symm.trans cancelled
    cases kind with
    | placed => exact absurd same (by decide)
    | cancelled => exact status rfl

/-- A poll that is long enough selects all that is eligible. The limit cuts off nothing, since there
are no more messages than it allows. -/
theorem mem_oldestFirst {eligible : Message → Bool} {limit : Int} {messages : List Message}
    {message : Message} (long : messages.length ≤ limit) (member : message ∈ messages)
    (holds : eligible message = true) : message ∈ Outbox.oldestFirst eligible limit messages := by
  have fits : ((messages.filter eligible).mergeSort Outbox.happenedFirst).length ≤ limit.toNat := by
    have shorter := List.length_filter_le eligible messages
    rw [List.length_mergeSort]
    omega
  rw [Outbox.oldestFirst, List.take_of_length_le fits, List.mem_mergeSort]
  exact List.mem_filter.mpr ⟨member, holds⟩

/-- A message that comes back: looking for all that is retryable gives it, unless looking for all
that is exhausted does. Only a switch that was set makes the first of these fail. -/
def ComesBack (world : World Site) (row : Message) : Prop :=
  ∀ limit ceiling : Int, world.state.memory.outbox.length ≤ limit →
    ∃ exhausted, ((Site.store.getExhausted limit ceiling).perform world).1 = .ok exhausted ∧
      (row ∈ exhausted ∨ world.state.memory.failNextFetch = true ∨
        ∃ retryable, ((Site.store.getRetryable limit ceiling).perform world).1 = .ok retryable ∧
          row.toPending ∈ retryable)

/-- What is not processed comes back. Its retry count is below the ceiling or it is not, so one of
the two polls selects it, and a poll that is long enough leaves nothing out. -/
theorem comesBack {world : World Site} {row : Message} (member : row ∈ world.state.memory.outbox)
    (unprocessed : row.isProcessed = false) : ComesBack world row := by
  intro limit ceiling long
  refine ⟨_, rfl, ?_⟩
  cases spent : row.isExhausted ceiling with
  | true => exact Or.inl (mem_oldestFirst long member spent)
  | false =>
    have due : row.isRetryable ceiling = true := by
      rw [Message.isRetryable_eq_not_isExhausted ceiling row unprocessed, spent]
      rfl
    cases told : world.state.memory.failNextFetch with
    | true => exact Or.inr (Or.inl rfl)
    | false =>
      refine Or.inr (Or.inr ⟨_, ?_, List.mem_map_of_mem (mem_oldestFirst long member due)⟩)
      rw [Site.perform_getRetryable, Memory.getRetryable, Memory.poll, told]
      rfl

/-- A world in which all that is published is so and was committed, and all that was committed is
published or comes back. -/
structure Safe (world : World Site) : Prop where
  vouched : ∀ carrier ∈ world.state.bus.published, Vouched world.state.memory carrier
  accepted : ∀ row ∈ world.state.memory.outbox, row.isProcessed = true →
    Accepted world row.eventType row.content
  comesBack : ∀ row ∈ world.state.memory.outbox, row.isProcessed = false → ComesBack world row

/-- From an unused store and a silent bus on, every run is safe at every moment, and never loses or
changes anything of the messages that it added. The calls and the cycles of all processors may
interleave in any way, and any of their steps may fail.

Proof: `Sound` holds before the first move (`sound_unused`) and after every run (`run_sound`), and
what is said here is read off it. The bus carries what was committed, and the consistency of orders
and outbox says what each committed message announces; what is not processed comes back from any
outbox (`comesBack`). That nothing is lost later on is `run_grows`, applied behind the run. -/
theorem relay_safe (configs : Nat → Config) (moves : List Move) {world : World Site}
    (unused : Order.Unused world.state.memory) (silent : world.state.bus.published = [])
    (valid : ∀ n, (world.clock n).IsValid)
    (distinct : DistinctDraws world.ids (run configs { world } moves).world.drawn) :
    Safe (run configs { world } moves).world ∧
      ∀ later, (run configs { world } moves).world.state.memory.added <+:
        (run configs { world } (moves ++ later)).world.state.memory.added := by
  have sound : SoundSite (run configs { world } moves).world :=
    (run_sound configs moves (sound_unused unused silent) valid distinct).site
  refine ⟨⟨?_, sound.processed, fun row => comesBack⟩, ?_⟩
  · intro carrier member
    obtain ⟨row, among, eventType, content⟩ := sound.published carrier member
    exact vouched_of_announces among (sound.consistent.announced row among) eventType content
  · intro later
    rw [run_append]
    exact (run_grows configs (run configs { world } moves) later).added

/-- Two processors poll the same message and both publish it. Between their attempts the order is
cancelled, and the first record of an answer fails. -/
def crossedCycles : List Move :=
  [.place "ann" "c-1" 500, .fetch 0, .fetch 1, .publish 0,
    .cancel "bob" (Site.quietWorld.ids 0) "late", .publish 1,
    .disturb (Faults.none.plan .markAsProcessed 1) false false [] false, .record 1, .record 0,
    .fetch 1, .publish 1]

theorem relay_safe_crossedCycles :
    let now := (run (fun _ => {}) { world := Site.quietWorld } crossedCycles).world
    Order.Unused Site.quietWorld.state.memory ∧ Site.quietWorld.state.bus.published = [] ∧
      (∀ n, (Site.quietWorld.clock n).IsValid) ∧
      DistinctDraws Site.quietWorld.ids now.drawn ∧ Safe now := by
  intro now
  have few : now.drawn ≤ 2 ^ 128 :=
    Nat.le_trans (run_grows (fun _ => {}) { world := Site.quietWorld } crossedCycles).few
      (by decide)
  have distinct : DistinctDraws Site.quietWorld.ids now.drawn :=
    Order.distinctDraws_quietWorld few
  have safe := (relay_safe (fun _ => {}) crossedCycles Order.unused_quietWorld rfl
    Order.valid_quietWorld distinct).1
  exact ⟨Order.unused_quietWorld, rfl, Order.valid_quietWorld, distinct, safe⟩

end OutboxRelay.Relay

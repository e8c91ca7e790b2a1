import OutboxRelay.Proofs.Delivery.Calm

/-!
# The fates of messages

What one cycle makes of each single message, on a trial whose bus may refuse any attempt and whose
store may lose any record. To each message that was fetched falls the answer of the bus to its own
attempt, and the loss of the record of that answer if it is lost. Nothing else decides about its
row, apart from the row itself and the ceiling: what falls to other messages of the same cycle has
no influence.

The queue of a cycle is treated from its front, and each treatment moves the answers and the faults
on by one place. The rows of the messages behind are not touched by it, so that every message of the
queue is still as it was fetched when its turn comes. The numbers of a report are therefore numbers
of rows, and can be read off the outbox before and after the cycle.
-/

namespace OutboxRelay.Delivery

open Outbox (Memory Message Pending oldestFirst)

/-! ### Lots -/

/-- What falls to a message: the answer to its attempt, and whether the record of the answer is
lost. The bus and the store deal it out, and the message has no say in it. -/
structure Lot where
  answer : Except Broker.Error Unit
  lost : Bool

namespace Lot

/-- What becomes of the row of a message that is neither processed nor given up. It depends on the
row, its lot, the ceiling and, for the time of processing, the clock. -/
def fate (ceiling : Int) (now : Instant) (row : Message) (lot : Lot) : Message :=
  if lot.lost then row
  else
    match lot.answer with
    | .ok () => { row with processedOn := some now }
    | .error error =>
      { row with
        error := some (Trial.failureText ceiling (row.retryCount + 1) error)
        retryCount := row.retryCount + 1 }

/-- What the record of the answer makes of the row of a message, in the terms of the processor. -/
def settle (ceiling : Int) (message : Pending) (now : Instant) (row : Message) (lot : Lot) :
    Message :=
  if lot.lost then row else Trial.settle ceiling message lot.answer now row

/-- Whether the message was refused, and this was recorded. -/
def refused (lot : Lot) : Bool :=
  !lot.lost && !lot.answer.isOk

/-- How the message is counted: as an error if the record is lost, and otherwise by the answer of
the bus. -/
def outcome (ceiling : Int) (message : Pending) (lot : Lot) : Outcome :=
  if lot.lost then .errored else Trial.outcomeOf ceiling message lot.answer

/-- No fate changes what identifies a message. -/
theorem id_fate (ceiling : Int) (now : Instant) (row : Message) (lot : Lot) :
    (lot.fate ceiling now row).id = row.id := by
  unfold fate
  split
  · rfl
  · split <;> rfl

end Lot

namespace Trial

/-- What falls to the message that is treated after a number of others, as bus and store count their
calls. -/
def lot (trial : Trial) (place : Nat) : Lot where
  answer := trial.answers (trial.offered.length + place)
  lost := (trial.faults (trial.marks + place)).isSome

/-- What falls to the message under an identifier, if it is in the queue. The place in the queue is
the only thing that decides it. -/
def lot? (trial : Trial) (queue : List Pending) (id : Identifier) : Option Lot :=
  ((queue.map (·.id)).idxOf? id).map trial.lot

/-- What becomes of a row by the treatment of a queue: its fate if it is that of a message in the
queue, and nothing otherwise. -/
def becomes (trial : Trial) (ceiling : Int) (queue : List Pending) (times : Identifier → Instant)
    (row : Message) : Message :=
  match trial.lot? queue row.id with
  | none => row
  | some lot => lot.fate ceiling (times row.id) row

section

variable {trial : Trial} {queue : List Pending} {message : Pending} {id : Identifier}

theorem id_becomes (ceiling : Int) (times : Identifier → Instant) (row : Message) :
    (trial.becomes ceiling queue times row).id = row.id := by
  unfold becomes
  split
  · rfl
  · exact Lot.id_fate _ _ _ _

/-- Something falls exactly to the messages of the queue. -/
theorem lot?_eq_none_iff : trial.lot? queue id = none ↔ id ∉ queue.map (·.id) := by
  simp [lot?, List.idxOf?_eq_none_iff]

/-- To the first message falls what comes first. -/
theorem lot?_cons_self : trial.lot? (message :: queue) message.id = some (trial.lot 0) := by
  simp [lot?, List.idxOf?_cons]

theorem mem_of_lot? {found : Lot} (given : trial.lot? queue id = some found) :
    id ∈ queue.map (·.id) := by
  by_contra absent
  rw [lot?_eq_none_iff.mpr absent] at given
  cases given

end

end Trial

/-! ### One treatment -/

section

variable (config : Config) {ceiling : Int} {world : World Trial} {before after : Trial}
  {message : Pending} {queue : List Pending} {attempt : Attempt}

/-- A treatment moves answers and faults on by one place. -/
theorem Trial.Treats.lot (treats : Trial.Treats ceiling message before after attempt)
    (place : Nat) : after.lot place = before.lot (place + 1) := by
  simp only [Trial.lot, treats.answers, treats.faults, treats.offered, treats.marks,
    List.length_append, List.length_singleton, Nat.add_assoc, Nat.add_comm 1]

/-- So the messages behind keep what falls to them. -/
theorem Trial.Treats.lot? (treats : Trial.Treats ceiling message before after attempt)
    {id : Identifier} (other : id ≠ message.id) :
    after.lot? queue id = before.lot? (message :: queue) id := by
  have moved : after.lot = before.lot ∘ (· + 1) := funext treats.lot
  have skipped : ((message :: queue).map (·.id)).idxOf? id =
      ((queue.map (·.id)).idxOf? id).map (· + 1) := by
    simp [List.idxOf?_cons, Ne.symm other]
  rw [Trial.lot?, Trial.lot?, moved, skipped, Option.map_map]

/-- What a treatment makes of a world: it settles a row unless the record is lost, and looks at the
clock at most once. -/
structure Settles (ceiling : Int) (message : Pending) (before after : World Trial)
    (attempt : Attempt) : Prop where
  clock : after.clock = before.clock
  readings : before.readings ≤ after.readings
  memory : after.state.memory =
    { before.state.memory with
      outbox := before.state.memory.outbox.map fun row =>
        if row.id == message.id then
          (before.state.lot 0).settle ceiling message (before.clock before.readings) row
        else row }
  counted : attempt.counted = (before.state.lot 0).outcome ceiling message

/-- A message that is there is settled so, by the two ways in which its record can end. -/
theorem settles_treat (ids : world.state.memory.ids.Nodup)
    (known : message.id ∈ world.state.memory.ids) :
    let treated := (Trial.processor config).treat message world
    Settles config.maxRetries message world treated.2 treated.1 := by
  intro treated
  let attempted := world.withState (world.state.offer message.eventType message.content)
  have made : treated =
      let recorded :=
        ((Trial.processor config).record message (world.state.lot 0).answer).perform attempted
      (⟨message, (world.state.lot 0).answer, recorded.1⟩, recorded.2) := rfl
  rw [made]
  cases lost : world.state.faults world.state.marks with
  | some error =>
    have fault : attempted.state.faults attempted.state.marks = some error := lost
    have forfeited : (world.state.lot 0).lost = true := by simp [Trial.lot, lost]
    rw [Trial.perform_record_error _ fault]
    constructor
    case clock => rfl
    case readings => exact Nat.le_refl _
    case memory =>
      simp only [Lot.settle, forfeited, if_true, ite_self, List.map_id']
      rfl
    case counted => rw [Lot.outcome, if_pos forfeited]; rfl
  | none =>
    have sound : attempted.state.faults attempted.state.marks = none := lost
    have kept : ¬(world.state.lot 0).lost = true := by simp [Trial.lot, lost]
    rw [Trial.perform_record_ok _ sound ids known]
    constructor
    case clock => rfl
    case readings => exact Nat.le_add_right _ _
    case memory =>
      simp only [Lot.settle, if_neg kept]
      rfl
    case counted => rw [Lot.outcome, if_neg kept]; rfl

/-- A row that is neither processed nor given up is settled as its lot says. The processor counts
from its copy and the lot from the row, which have the same count. -/
theorem Lot.settle_eq_fate {row : Message} {lot : Lot} (waiting : row.isProcessed = false)
    (under : row.retryCount < ceiling) (few : ceiling ≤ greatestRetryCount) (now : Instant) :
    lot.settle ceiling row.toPending now row = lot.fate ceiling now row := by
  have next := nextRetryCount_of_lt under few
  have unprocessed : row.processedOn = none := by
    simpa [Message.isProcessed] using waiting
  have grows : max row.retryCount (row.retryCount + 1) = row.retryCount + 1 := by
    omega
  unfold settle Trial.settle fate
  cases lot.answer with
  | ok => simp [Message.processedAt, unprocessed]
  | error error => simp only [Message.failedWith, Message.toPending, next, grows]

/-! ### A whole queue -/

/-- What the treatment of a queue does, said of the queue as a whole and of every row by itself. -/
structure TreatsAll (ceiling : Int) (queue : List Pending) (before after : World Trial)
    (made : List Attempt) : Prop where
  offered : after.state.offered =
    before.state.offered ++ queue.map fun message => (message.eventType, message.content)
  counted : made.map (·.counted) = queue.map fun message =>
    ((before.state.lot? queue message.id).map (·.outcome ceiling message)).getD .errored
  memory : ∃ times : Identifier → Instant,
    (∀ id, ∃ reading, before.readings ≤ reading ∧ times id = before.clock reading) ∧
      after.state.memory = { before.state.memory with
        outbox := before.state.memory.outbox.map (before.state.becomes ceiling queue times) }

/-- The first message of a queue is settled by what falls to it, and the others by what falls to
them afterwards. Each row is changed by one of the two at most, as identifiers are distinct. -/
theorem becomes_cons (few : ceiling ≤ greatestRetryCount) (ids : world.state.memory.ids.Nodup)
    (current : Current ceiling (message :: queue) world.state.memory.outbox)
    (treats : Trial.Treats ceiling message world.state after attempt) (now : Instant)
    (times : Identifier → Instant) {row : Message} (here : row ∈ world.state.memory.outbox) :
    let settled := if row.id == message.id then
      (world.state.lot 0).settle ceiling message now row else row
    after.becomes ceiling queue times settled =
      world.state.becomes ceiling (message :: queue)
        (fun id => if id = message.id then now else times id) row := by
  intro settled
  by_cases same : row.id = message.id
  · obtain ⟨rfl, waiting, under⟩ := current.row ids List.mem_cons_self here same
    have fated : settled = (world.state.lot 0).fate ceiling now row := by
      rw [← Lot.settle_eq_fate waiting under few]
      exact if_pos (beq_iff_eq.mpr same)
    have behind : row.id ∉ queue.map (·.id) := (List.nodup_cons.mp current.ids).1
    rw [fated, Trial.becomes, Lot.id_fate, Trial.lot?_eq_none_iff.mpr behind, Trial.becomes, same,
      Trial.lot?_cons_self]
    exact congrArg (fun now => (world.state.lot 0).fate ceiling now row) (if_pos rfl).symm
  · have kept : settled = row := if_neg fun contrary => same (eq_of_beq contrary)
    rw [kept, Trial.becomes, Trial.becomes, treats.lot? same, if_neg same]

/-- Every message of a queue meets its fate. The induction is on the queue, from its front. -/
theorem treatsAll (few : config.maxRetries ≤ greatestRetryCount)
    (ids : world.state.memory.ids.Nodup)
    (current : Current config.maxRetries queue world.state.memory.outbox) :
    let treated := (Trial.processor config).treatAll queue world
    TreatsAll config.maxRetries queue world treated.2 treated.1 := by
  induction queue generalizing world with
  | nil =>
    constructor
    case offered => simp [Processor.treatAll]
    case counted => rfl
    case memory =>
      refine ⟨fun _ => world.clock world.readings, fun _ => ⟨_, Nat.le_refl _, rfl⟩, ?_⟩
      have unchanged : world.state.becomes config.maxRetries []
          (fun _ => world.clock world.readings) = id := rfl
      rw [unchanged, List.map_id]
      rfl
  | cons message queue inductionHypothesis =>
    let first := (Trial.processor config).treat message world
    let rest := (Trial.processor config).treatAll queue first.2
    have treats : Trial.Treats config.maxRetries message world.state first.2.state first.1 :=
      Trial.treats_treat config ids current.known
    have settles : Settles config.maxRetries message world first.2 first.1 :=
      settles_treat config ids current.known
    have stillIds : first.2.state.memory.ids.Nodup := by
      rw [Memory.ids, Memory.map_key_of_added (fun _ => rfl) treats.added]
      exact ids
    have behind : TreatsAll config.maxRetries queue first.2 rest.2 rest.1 :=
      inductionHypothesis stillIds (current.tail treats)
    change TreatsAll config.maxRetries (message :: queue) world rest.2 (first.1 :: rest.1)
    constructor
    case offered =>
      rw [behind.offered, treats.offered, List.append_assoc]
      rfl
    case counted =>
      rw [List.map_cons, List.map_cons, settles.counted, behind.counted, Trial.lot?_cons_self]
      congr 1
      refine List.map_congr_left fun other among => ?_
      have different : other.id ≠ message.id := by
        intro same
        exact (List.nodup_cons.mp current.ids).1 (List.mem_map.mpr ⟨other, among, same⟩)
      rw [treats.lot? different]
    case memory =>
      obtain ⟨times, readings, reached⟩ := behind.memory
      let now := world.clock world.readings
      refine ⟨fun id => if id = message.id then now else times id, fun id => ?_, ?_⟩
      · dsimp only
        split
        · exact ⟨world.readings, Nat.le_refl _, rfl⟩
        · obtain ⟨reading, late, same⟩ := readings id
          exact ⟨reading, settles.readings.trans late, by rw [same, settles.clock]⟩
      · have fated := List.map_congr_left fun row (here : row ∈ world.state.memory.outbox) =>
          becomes_cons few ids current treats now times here
        rw [reached, settles.memory]
        dsimp only
        rw [List.map_map, ← fated]
        rfl

end

/-! ### Numbers of rows -/

/-- The number that a report gives for an outcome. -/
def Report.part (report : Report) : Outcome → Nat
  | .published => report.published
  | .retried => report.retried
  | .exhausted => report.exhausted
  | .errored => report.errored

/-- A report counts outcomes, each in its own number. -/
theorem Report.part_foldl (made : List Attempt) (report : Report) (outcome : Outcome) :
    (made.foldl (fun sum attempt => sum.count attempt.counted) report).part outcome =
      report.part outcome + (made.map (·.counted)).countP (· = outcome) := by
  induction made generalizing report with
  | nil => rfl
  | cons attempt made inductionHypothesis =>
    have one : (report.count attempt.counted).part outcome =
        report.part outcome + if attempt.counted = outcome then 1 else 0 := by
      cases attempt.counted <;> cases outcome <;> simp [Report.count, Report.part]
    rw [List.foldl_cons, inductionHypothesis, one, List.map_cons, List.countP_cons]
    simp only [decide_eq_true_eq]
    omega

/-- Every outcome is one of four, so that the four numbers add up to all attempts. -/
theorem Report.total_foldl (made : List Attempt) (report : Report) :
    let counted := made.foldl (fun sum attempt => sum.count attempt.counted) report
    counted.published + counted.retried + counted.exhausted + counted.errored =
      report.published + report.retried + report.exhausted + report.errored + made.length := by
  induction made generalizing report with
  | nil => rfl
  | cons attempt made inductionHypothesis =>
    have rest := inductionHypothesis (report.count attempt.counted)
    dsimp only at rest ⊢
    rw [List.foldl_cons, rest, Report.total_count, List.length_cons]
    omega

section

variable {ceiling : Int} {queue : List Pending} {memory : Memory}

/-- The messages of a queue are counted by their rows, one row for each message. -/
theorem Current.countP_queue (current : Current ceiling queue memory.outbox)
    (ids : memory.ids.Nodup) (test : Pending → Bool) :
    queue.countP test =
      memory.outbox.countP fun row => decide (row.id ∈ queue.map (·.id)) && test row.toPending := by
  let rows := memory.outbox.filter fun row => decide (row.id ∈ queue.map (·.id))
  have distinct : ((rows.map (·.toPending)).map (·.id)).Nodup := by
    rw [List.map_map]
    exact ids.sublist (List.filter_sublist.map _)
  have same : queue.Perm (rows.map (·.toPending)) := by
    rw [List.perm_ext_iff_of_nodup current.ids.of_map distinct.of_map]
    intro message
    constructor
    · intro among
      obtain ⟨row, here, rfl, _⟩ := current.rows message among
      refine List.mem_map.mpr ⟨row, List.mem_filter.mpr ⟨here, ?_⟩, rfl⟩
      exact decide_eq_true (List.mem_map.mpr ⟨_, among, rfl⟩)
    · intro among
      obtain ⟨row, kept, rfl⟩ := List.mem_map.mp among
      obtain ⟨here, queued⟩ := List.mem_filter.mp kept
      obtain ⟨message, waits, id⟩ := List.mem_map.mp (of_decide_eq_true queued)
      rw [(current.row ids waits here id.symm).1]
      exact waits
  rw [same.countP_eq, List.countP_map, List.countP_filter]
  exact List.countP_congr fun row _ => by simp [Bool.and_comm]

/-- What a poll without a limit selects is counted in the outbox, since sorting and cutting lose
none of it. -/
theorem countP_oldestFirst (eligible test : Message → Bool) {limit : Int} {messages : List Message}
    (enough : messages.length ≤ limit) :
    (oldestFirst eligible limit messages).countP test =
      messages.countP fun message => test message && eligible message := by
  have whole : (messages.filter eligible).length ≤ limit.toNat := by
    have fewer := List.length_filter_le eligible messages
    omega
  have all : oldestFirst eligible limit messages =
      (messages.filter eligible).mergeSort Outbox.happenedFirst := by
    refine List.take_of_length_le ?_
    rwa [List.length_mergeSort]
  rw [all, (List.mergeSort_perm _ _).countP_eq, List.countP_filter]

/-- What a fate says of a row is how the message is counted, so that outcomes can be seen in the
outbox. -/
theorem Lot.outcome_fate {row : Message} {lot : Lot} (waiting : row.isProcessed = false)
    (under : row.retryCount < ceiling) (few : ceiling ≤ greatestRetryCount) (now : Instant) :
    (lot.fate ceiling now row).isProcessed =
        decide (lot.outcome ceiling row.toPending = .published) ∧
      (lot.refused && (lot.fate ceiling now row).isRetryable ceiling) =
        decide (lot.outcome ceiling row.toPending = .retried) ∧
      (lot.refused && (lot.fate ceiling now row).isExhausted ceiling) =
        decide (lot.outcome ceiling row.toPending = .exhausted) ∧
      lot.lost = decide (lot.outcome ceiling row.toPending = .errored) := by
  have next : nextRetryCount row.toPending.retryCount = row.retryCount + 1 :=
    nextRetryCount_of_lt under few
  have unprocessed : row.processedOn = none := by
    simpa [Message.isProcessed] using waiting
  obtain ⟨answer, lost⟩ := lot
  cases lost with
  | true => simp [fate, refused, outcome, waiting]
  | false =>
    cases answer with
    | ok =>
      simp [fate, refused, outcome, Trial.outcomeOf, Message.isProcessed, Except.isOk,
        Except.toBool]
    | error error =>
      by_cases reached : ceiling ≤ row.retryCount + 1
      · simp [fate, refused, outcome, Trial.outcomeOf, next, reached, Int.not_lt.mpr reached,
          Message.isProcessed, unprocessed, Message.isRetryable, Message.isExhausted, Except.isOk,
          Except.toBool]
      · simp [fate, refused, outcome, Trial.outcomeOf, next, reached, Int.not_le.mp reached,
          Message.isProcessed, unprocessed, Message.isRetryable, Message.isExhausted, Except.isOk,
          Except.toBool]

end

/-! ### Whole cycles -/

/-- What a cycle that fetched some messages does, message by message. -/
structure Itemized (config : Config) (queue : List Pending) (before after : World Trial)
    (report : Report) : Prop where
  /-- The bus is offered just the messages that were fetched, each once and in their order. -/
  offered : after.state.offered =
    before.state.offered ++ queue.map fun message => (message.eventType, message.content)
  /-- These stand in different rows. -/
  distinct : (queue.map (·.id)).Nodup
  rows : ∀ message ∈ queue, ∃ row ∈ before.state.memory.outbox, row.toPending = message
  /-- The row of each of them meets the fate that falls to it, and nothing else in the store
  changes. -/
  memory : ∃ times : Identifier → Instant,
    (∀ id, ∃ reading, before.readings ≤ reading ∧ times id = before.clock reading) ∧
      after.state.memory = { before.state.memory with
        outbox := before.state.memory.outbox.map
          (before.state.becomes config.maxRetries queue times) }
  fetched : report.fetched = queue.length
  total : report.fetched = report.published + report.retried + report.exhausted + report.errored
  /-- Published are the rows that are newly processed. -/
  published : report.published =
    (before.state.memory.outbox.zip after.state.memory.outbox).countP fun (old, new) =>
      !old.isProcessed && new.isProcessed
  /-- Retried are, of those refused, the ones that another poll may still give. -/
  retried : ∀ limit : Int, before.state.memory.outbox.length ≤ limit → ∃ still,
    ((Trial.store.getRetryable limit config.maxRetries).perform after).1 = .ok still ∧
      report.retried = still.countP fun message =>
        (before.state.lot? queue message.id).any Lot.refused
  /-- Exhausted are, of those refused, the ones that are given up. -/
  exhausted : ∀ limit : Int, before.state.memory.outbox.length ≤ limit → ∃ givenUp,
    ((Trial.store.getExhausted limit config.maxRetries).perform after).1 = .ok givenUp ∧
      report.exhausted = givenUp.countP fun message =>
        (before.state.lot? queue message.id).any Lot.refused
  /-- Errored are the messages whose record is lost. -/
  errored : report.errored = queue.countP fun message =>
    (before.state.lot? queue message.id).any Lot.lost

section

variable {config : Config} {world after : World Trial} {queue : List Pending} {made : List Attempt}

/-- A row that something falls to stands in the queue, and is neither processed nor given up. -/
theorem Current.due_of_lot? {trial : Trial} {ceiling : Int}
    (current : Current ceiling queue trial.memory.outbox) (ids : trial.memory.ids.Nodup)
    {row : Message} (here : row ∈ trial.memory.outbox) {lot : Lot}
    (given : trial.lot? queue row.id = some lot) :
    row.isProcessed = false ∧ row.retryCount < ceiling := by
  obtain ⟨message, among, same⟩ := List.mem_map.mp (Trial.mem_of_lot? given)
  exact (current.row ids among here same.symm).2

/-- A report on a queue counts the rows to which something falls that leads to an outcome. -/
theorem TreatsAll.part_report {ceiling : Int} (treats : TreatsAll ceiling queue world after made)
    (ids : world.state.memory.ids.Nodup)
    (current : Current ceiling queue world.state.memory.outbox) (fetched : Nat)
    (outcome : Outcome) :
    (made.foldl (fun sum attempt => sum.count attempt.counted)
        ({ fetched } : Report)).part outcome =
      world.state.memory.outbox.countP fun row => (world.state.lot? queue row.id).any fun lot =>
        lot.outcome ceiling row.toPending = outcome := by
  have nothing : ({ fetched } : Report).part outcome = 0 := by
    cases outcome <;> rfl
  rw [Report.part_foldl, nothing, Nat.zero_add, treats.counted, List.countP_map,
    current.countP_queue ids]
  refine List.countP_congr fun row _ => ?_
  cases given : world.state.lot? queue row.id with
  | none => simp [Trial.lot?_eq_none_iff.mp given]
  | some lot =>
    have among : row.id ∈ queue.map (·.id) := Trial.mem_of_lot? given
    have same : world.state.lot? queue row.toPending.id = some lot := given
    simp only [among, decide_true, Bool.true_and, Function.comp_apply, same, Option.map_some,
      Option.getD_some, Option.any_some]

/-- Rows that something falls to which leads to some outcome, seen by a test of what becomes of
them. The test compares the row before and after, and says nothing of rows to which nothing
falls. -/
theorem countP_becomes {ceiling : Int} {trial : Trial} (ids : trial.memory.ids.Nodup)
    (current : Current ceiling queue trial.memory.outbox) (times : Identifier → Instant)
    (outcome : Outcome) (test : Option Lot → Message → Message → Bool)
    (apart : ∀ row, test none row row = false)
    (among : ∀ row lot now, row.isProcessed = false → row.retryCount < ceiling →
      test (some lot) row (lot.fate ceiling now row) =
        decide (lot.outcome ceiling row.toPending = outcome)) :
    (trial.memory.outbox.countP fun row => (trial.lot? queue row.id).any fun lot =>
        lot.outcome ceiling row.toPending = outcome) =
      trial.memory.outbox.countP fun row =>
        test (trial.lot? queue row.id) row (trial.becomes ceiling queue times row) := by
  refine List.countP_congr fun row here => ?_
  rw [Trial.becomes]
  cases given : trial.lot? queue row.id with
  | none => simp [apart]
  | some lot =>
    obtain ⟨waiting, under⟩ := current.due_of_lot? ids here given
    simp [among row lot _ waiting under]

/-- Messages that were refused, with some outcome, are as many as those that a poll without a limit
selects afterwards, if it looks for what such a fate leaves. -/
theorem countP_refused {ceiling limit : Int} {trial : Trial} (ids : trial.memory.ids.Nodup)
    (current : Current ceiling queue trial.memory.outbox) (times : Identifier → Instant)
    (outcome : Outcome) (eligible : Message → Bool) (enough : trial.memory.outbox.length ≤ limit)
    (among : ∀ (row : Message) (lot : Lot) (now : Instant), row.isProcessed = false →
      row.retryCount < ceiling → (lot.refused && eligible (lot.fate ceiling now row)) =
        decide (lot.outcome ceiling row.toPending = outcome)) :
    (trial.memory.outbox.countP fun row => (trial.lot? queue row.id).any fun lot =>
        lot.outcome ceiling row.toPending = outcome) =
      (oldestFirst eligible limit
          (trial.memory.outbox.map (trial.becomes ceiling queue times))).countP
        fun message => (trial.lot? queue message.id).any Lot.refused := by
  rw [countP_oldestFirst _ _ (by rwa [List.length_map]), List.countP_map,
    countP_becomes ids current times outcome
      (fun found _ new => found.any Lot.refused && eligible new) (fun _ => rfl) among]
  refine List.countP_congr fun row _ => ?_
  rw [Function.comp_apply, Trial.id_becomes]

/-- The treatment of a queue in which every message is current, message by message. The numbers of
the report are matched with what polls give before and after. -/
theorem TreatsAll.itemized (treats : TreatsAll config.maxRetries queue world after made)
    (few : config.maxRetries ≤ greatestRetryCount) (ids : world.state.memory.ids.Nodup)
    (polls : world.state.memory.failNextFetch = false)
    (current : Current config.maxRetries queue world.state.memory.outbox) :
    Itemized config queue world after (made.foldl (fun sum attempt => sum.count attempt.counted)
      { fetched := queue.length }) := by
  set report : Report := made.foldl (fun sum attempt => sum.count attempt.counted)
    { fetched := queue.length }
  obtain ⟨times, readings, reached⟩ := treats.memory
  have part := treats.part_report ids current queue.length
  have outbox : after.state.memory.outbox =
      world.state.memory.outbox.map (world.state.becomes config.maxRetries queue times) := by
    rw [reached]
  have ready : after.state.memory.failNextFetch = false := by
    rw [reached]
    exact polls
  constructor
  case offered => exact treats.offered
  case distinct => exact current.ids
  case rows =>
    intro message among
    obtain ⟨row, here, same, _⟩ := current.rows message among
    exact ⟨row, here, same⟩
  case memory => exact ⟨times, readings, reached⟩
  case fetched => exact Report.fetched_foldl _ _
  case total =>
    have all : made.length = queue.length := by
      simpa using congrArg List.length treats.counted
    have sum : report.published + report.retried + report.exhausted + report.errored =
        0 + made.length := Report.total_foldl made _
    rw [sum, all, Nat.zero_add]
    exact Report.fetched_foldl _ _
  case published =>
    rw [outbox, ← List.map_prod_left_eq_zip, List.countP_map]
    refine (part .published).trans (countP_becomes ids current times .published
      (fun _ old new => !old.isProcessed && new.isProcessed) (fun row => by simp) ?_)
    intro row lot now waiting under
    simp [waiting, (Lot.outcome_fate waiting under few now).1]
  case retried =>
    intro limit enough
    refine ⟨_, congrArg (·.1) (Memory.poll_ok ready limit (·.isRetryable config.maxRetries)), ?_⟩
    rw [List.countP_map, outbox]
    exact (part .retried).trans (countP_refused ids current times .retried _ enough
      fun row lot now waiting under => (Lot.outcome_fate waiting under few now).2.1)
  case exhausted =>
    intro limit enough
    have gave : ((Trial.store.getExhausted limit config.maxRetries).perform after).1 =
        .ok (oldestFirst (·.isExhausted config.maxRetries) limit
          after.state.memory.outbox) := rfl
    refine ⟨_, gave, ?_⟩
    rw [outbox]
    exact (part .exhausted).trans (countP_refused ids current times .exhausted _ enough
      fun row lot now waiting under => (Lot.outcome_fate waiting under few now).2.2.1)
  case errored =>
    rw [current.countP_queue ids]
    refine (part .errored).trans ((countP_becomes ids current times .errored
      (fun found _ _ => found.any Lot.lost) (fun _ => rfl) ?_).trans ?_)
    · intro row lot now waiting under
      exact (Lot.outcome_fate waiting under few now).2.2.2
    · refine List.countP_congr fun row _ => ?_
      cases given : world.state.lot? queue row.id with
      | none => simp [Trial.lot?_eq_none_iff.mp given]
      | some lot => simp [Message.toPending, given, Trial.mem_of_lot? given]

variable (config world) in
/-- A cycle whose poll goes through, message by message: its queue is current, and is treated from
the front. -/
theorem itemized_processBatch (few : config.maxRetries ≤ greatestRetryCount)
    (ids : world.state.memory.ids.Nodup) (polls : world.state.memory.failNextFetch = false) :
    let done := (Trial.processor config).processBatch.perform world
    ∃ report, done.1 = .ok report ∧
      Itemized config ((selection config world.state).map (·.toPending)) world done.2 report := by
  have undisturbed := Trial.perform_poll_ok config polls
  have current := current_getRetryable ids (congrArg (·.1) undisturbed)
  rw [(Trial.processor config).perform_processBatch_treatAll undisturbed]
  exact ⟨_, rfl, (treatsAll config few ids current).itemized few ids polls current⟩

/-- The same lot in another cycle leaves the same row, but for the time. -/
theorem Lot.fate_time (ceiling : Int) (now later : Instant) (row : Message) (lot : Lot) :
    (lot.fate ceiling now row).isProcessed = (lot.fate ceiling later row).isProcessed ∧
      { lot.fate ceiling now row with processedOn := none } =
        { lot.fate ceiling later row with processedOn := none } := by
  unfold fate
  cases lot.lost with
  | true => simp
  | false => cases lot.answer <;> simp [Message.isProcessed]

/-- The row of a message that was fetched, after the cycle: it is what its lot makes of the row that
it was fetched from. -/
theorem Itemized.row {report : Report} (itemized : Itemized config queue world after report)
    {message : Pending} {row : Message} (among : message ∈ queue)
    (here : row ∈ after.state.memory.outbox) (same : row.id = message.id) :
    ∃ old ∈ world.state.memory.outbox, old.id = message.id ∧
      ∃ lot now, world.state.lot? queue message.id = some lot ∧
        row = lot.fate config.maxRetries now old := by
  obtain ⟨times, -, reached⟩ := itemized.memory
  rw [reached] at here
  obtain ⟨old, there, rfl⟩ := List.mem_map.mp here
  rw [Trial.id_becomes] at same
  refine ⟨old, there, same, ?_⟩
  unfold Trial.becomes
  rw [same]
  cases given : world.state.lot? queue message.id with
  | none => exact absurd (List.mem_map_of_mem among) (Trial.lot?_eq_none_iff.mp given)
  | some lot => exact ⟨lot, times message.id, rfl, rfl⟩

/-- In two cycles that fetch the same from the same rows, a message with the same lot ends with the
same row, but for the time. What falls to other messages may differ in every way. -/
theorem Itemized.row_eq {other otherAfter : World Trial} {report otherReport : Report}
    (itemized : Itemized config queue world after report)
    (otherItemized : Itemized config queue other otherAfter otherReport)
    (same : other.state.memory = world.state.memory) (ids : world.state.memory.ids.Nodup)
    {message : Pending} (among : message ∈ queue)
    (sameLot : other.state.lot? queue message.id = world.state.lot? queue message.id)
    {row otherRow : Message} (here : row ∈ after.state.memory.outbox)
    (there : otherRow ∈ otherAfter.state.memory.outbox) (id : row.id = message.id)
    (otherId : otherRow.id = message.id) :
    row.isProcessed = otherRow.isProcessed ∧
      { row with processedOn := none } = { otherRow with processedOn := none } := by
  obtain ⟨old, before, oldId, lot, now, falls, rfl⟩ := itemized.row among here id
  obtain ⟨otherOld, otherBefore, otherOldId, otherLot, later, otherFalls, rfl⟩ :=
    otherItemized.row among there otherId
  rw [same] at otherBefore
  obtain rfl : otherOld = old :=
    List.inj_on_of_nodup_map ids otherBefore before (otherOldId.trans oldId.symm)
  obtain rfl : otherLot = lot := Option.some.inj (otherFalls.symm.trans (sameLot.trans falls))
  exact otherLot.fate_time config.maxRetries now later otherOld

variable (config) in
/-- A poll that is told to fail does so, and is told no more. -/
theorem Trial.perform_poll_error (told : world.state.memory.failNextFetch = true) :
    (Trial.processor config).poll.perform world =
      (.error (.store "injected fetch failure"), world.withState
        (world.state.setMemory { world.state.memory with failNextFetch := false })) := by
  rw [Trial.perform_poll, Memory.getRetryable, Memory.poll, told]
  rfl

variable (config world) in
/-- A cycle fails with its poll, and then offers nothing and changes no row. Otherwise it takes the
messages of the poll one by one. What becomes of the row of a message is decided by the row, the
ceiling, the answer to its own attempt and the fate of the record of that; in another cycle from the
same rows with the same answer and the same fate of the record it is the same, but for the time,
whatever falls to the other messages.

Proof: the queue is treated from its front (`treatsAll`), and a treatment moves answers and faults
on by one place without touching the rows of the messages behind it, so that each of these still
meets its own lot. What is said of two cycles follows from what is said of one, since both give the
row as its fate (`Itemized.row_eq`). -/
theorem messages_meet_fates (few : config.maxRetries ≤ greatestRetryCount)
    (ids : world.state.memory.ids.Nodup) :
    let polled := (Trial.store.getRetryable config.batchSize config.maxRetries).perform world
    let done := (Trial.processor config).processBatch.perform world
    (∀ error, polled.1 = .error error → done.1 = .error error ∧
        done.2.state.offered = world.state.offered ∧
        done.2.state.memory = { world.state.memory with failNextFetch := false }) ∧
      ∀ queue, polled.1 = .ok queue →
        (∃ report, done.1 = .ok report ∧ Itemized config queue world done.2 report) ∧
          ∀ other : World Trial, other.state.memory = world.state.memory →
            ∀ message ∈ queue,
              other.state.lot? queue message.id = world.state.lot? queue message.id →
              ∀ row ∈ done.2.state.memory.outbox,
                ∀ otherRow ∈
                  ((Trial.processor config).processBatch.perform other).2.state.memory.outbox,
                row.id = message.id → otherRow.id = message.id →
                  row.isProcessed = otherRow.isProcessed ∧
                    { row with processedOn := none } = { otherRow with processedOn := none } := by
  intro polled done
  cases told : world.state.memory.failNextFetch with
  | true =>
    have failed := Trial.perform_poll_error config told
    have ended : done = _ := Effect.perform_bind_error failed _
    have refused : polled = _ := failed
    rw [ended, refused]
    constructor
    · rintro error ⟨⟩
      exact ⟨rfl, rfl, rfl⟩
    · rintro queue ⟨⟩
  | false =>
    have gave : polled = (.ok ((selection config world.state).map (·.toPending)), world) :=
      Trial.perform_poll_ok config told
    rw [gave]
    constructor
    · rintro error ⟨⟩
    · rintro queue ⟨⟩
      obtain ⟨report, reported, itemized⟩ := itemized_processBatch config world few ids told
      refine ⟨⟨report, reported, itemized⟩, ?_⟩
      intro other same message among sameLot row here otherRow there id otherId
      have selected : selection config other.state = selection config world.state := by
        rw [selection, same]
        rfl
      obtain ⟨_, -, otherItemized⟩ :=
        itemized_processBatch config other few (by rwa [same]) (by rwa [same])
      rw [selected] at otherItemized
      exact itemized.row_eq otherItemized same ids among sameLot here there id otherId

end

/-- Four messages, the last one with a failed attempt behind it. The bus accepts the second and the
third one only, and the record of the third is lost. -/
def mixedWorld : World Trial where
  ids n := ⟨BitVec.ofNat 128 n⟩
  clock _ := ⟨0, 0⟩
  state := {
    memory := {
      outbox := [.fresh ⟨1⟩ "placed" "first" ⟨0, 0⟩, .fresh ⟨2⟩ "placed" "second" ⟨0, 0⟩,
        .fresh ⟨3⟩ "placed" "third" ⟨0, 1⟩,
        (Message.fresh ⟨4⟩ "placed" "fourth" ⟨0, 1⟩).failedWith "refused" 1] }
    answers := fun n => if n = 0 ∨ n = 3 then .error (.publish "refused") else .ok ()
    faults := fun n => if n = 2 then some (.store "lost") else none }

theorem messages_meet_fates_mixedWorld :
    let config : Config := { maxRetries := 2 }
    let done := (Trial.processor config).processBatch.perform mixedWorld
    let queue := mixedWorld.state.memory.outbox.map (·.toPending)
    config.maxRetries ≤ greatestRetryCount ∧ mixedWorld.state.memory.ids.Nodup ∧
      (∃ report, done.1 = .ok report ∧ Itemized config queue mixedWorld done.2 report) ∧
      done.1.toOption = some ⟨4, 1, 1, 1, 1⟩ ∧
      done.2.state.memory.outbox.map (·.isProcessed) = [false, true, false, false] ∧
      done.2.state.memory.outbox.map (·.retryCount) = [1, 0, 0, 2] := by
  intro config done queue
  have few : config.maxRetries ≤ greatestRetryCount := by decide
  have ids : mixedWorld.state.memory.ids.Nodup := by decide
  have sorted : mixedWorld.state.memory.outbox.mergeSort Outbox.happenedFirst =
      mixedWorld.state.memory.outbox := List.mergeSort_of_pairwise (by decide)
  have selected : selection config mixedWorld.state = mixedWorld.state.memory.outbox := by
    have all : mixedWorld.state.memory.outbox.filter (·.isRetryable config.maxRetries) =
        mixedWorld.state.memory.outbox := by decide
    rw [selection, oldestFirst, all, sorted]
    rfl
  have polled : (Trial.processor config).poll.perform mixedWorld = (.ok queue, mixedWorld) := by
    rw [Trial.perform_poll_ok config rfl, selected]
  obtain ⟨itemized, -⟩ :=
    (messages_meet_fates config mixedWorld few ids).2 queue (congrArg (·.1) polled)
  have performed : done = _ := (Trial.processor config).perform_processBatch_treatAll polled
  refine ⟨few, ids, itemized, ?_⟩
  rw [performed]
  decide +kernel

end OutboxRelay.Delivery

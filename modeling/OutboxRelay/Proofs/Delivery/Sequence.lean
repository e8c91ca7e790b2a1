import Mathlib.Algebra.Order.Floor.Div
import OutboxRelay.Proofs.Delivery.Calm
import OutboxRelay.Proofs.Outbox.Precedence

/-!
# The sequence of deliveries

In which sequence messages are delivered while the bus accepts all of them. The sequence is that of
the order of delivery, and the size of a batch only says where it is cut: what the cycles so far
have delivered is a front part of the sequence, and what the next poll selects is the part behind
it. The poll sorts what is left anew each time, but leaving delivered messages out and sorting the
rest gives the same as sorting once and leaving them out afterwards.
-/

namespace OutboxRelay.Delivery

open Outbox (Memory Message Pending Precedes happenedFirst)

/-- The retryable messages in the order of delivery: that of their times, and for equal times that
in which they were added. -/
def deliveryOrder (ceiling : Int) (trial : Trial) : List Message :=
  (retryable ceiling trial).mergeSort happenedFirst

/-- What the bus is given of a message: its type and its content, and nothing that would identify
it. -/
def offerOf (row : Message) : String × String :=
  (row.eventType, row.content)

/-- What a trial becomes when some of its messages are delivered: the bus is given these, one after
the other, and their rows are processed. All other rows are as they were. -/
structure Delivered (start : Trial) (done : List Message) (trial : Trial) : Prop where
  answers : trial.answers = start.answers
  offered : trial.offered = start.offered ++ done.map offerOf
  outbox : ∃ times : Message → Instant, trial.memory.outbox =
    start.memory.outbox.map fun row => if row ∈ done then row.processedAt (times row) else row

section

variable {start : Trial} {done : List Message} {row : Message} {ceiling : Int}

theorem delivered_nil (start : Trial) : Delivered start [] start := by
  refine ⟨rfl, ?_, fun _ => ⟨0, 0⟩, ?_⟩
  · simp
  · simp

/-- The messages of distinct identifiers are distinct. -/
theorem Calm.outbox_nodup (calm : Calm start) : start.memory.outbox.Nodup :=
  calm.ids.of_map _

theorem Calm.retryable_nodup (calm : Calm start) : (retryable ceiling start).Nodup :=
  calm.outbox_nodup.filter _

theorem Calm.deliveryOrder_nodup (calm : Calm start) : (deliveryOrder ceiling start).Nodup :=
  (List.mergeSort_perm _ _).nodup_iff.mpr calm.retryable_nodup

/-- A message is in the order of delivery exactly if it is retryable, since sorting neither adds nor
loses any. -/
theorem mem_deliveryOrder :
    row ∈ deliveryOrder ceiling start ↔
      row ∈ start.memory.outbox ∧ row.isRetryable ceiling = true := by
  rw [deliveryOrder, List.mem_mergeSort, retryable, List.mem_filter]

/-- What is retryable is what was so before, without what was delivered. No row changes in any other
way. -/
theorem Delivered.retryable_eq {trial : Trial} (delivered : Delivered start done trial) :
    retryable ceiling trial = (retryable ceiling start).filter (· ∉ done) := by
  obtain ⟨times, outbox⟩ := delivered.outbox
  let deliver (row : Message) : Message := if row ∈ done then row.processedAt (times row) else row
  have eligible : (fun row => (deliver row).isRetryable ceiling) =
      fun row => decide (row ∉ done) && row.isRetryable ceiling := by
    funext row
    by_cases among : row ∈ done
    · have changed : deliver row = row.processedAt (times row) := if_pos among
      rw [changed]
      simp [among, Message.isRetryable, Message.isProcessed, Message.processedAt]
    · have same : deliver row = row := if_neg among
      rw [same]
      simp [among]
  have kept : ∀ row ∈ start.memory.outbox.filter fun row => (deliver row).isRetryable ceiling,
      deliver row = row := by
    intro row among
    rw [eligible, List.mem_filter, Bool.and_eq_true, decide_eq_true_eq] at among
    exact if_neg among.2.1
  have whole : trial.memory.outbox = start.memory.outbox.map deliver := outbox
  rw [retryable, retryable, whole, List.filter_map, List.filter_filter]
  change (start.memory.outbox.filter fun row => (deliver row).isRetryable ceiling).map deliver = _
  rw [List.map_congr_left kept, List.map_id', eligible]

/-- What follows a front part is what is left without it, if no entry occurs twice. -/
theorem drop_eq_filter {α : Type} [DecidableEq α] {entries : List α} (distinct : entries.Nodup)
    (count : Nat) : entries.drop count = entries.filter (· ∉ entries.take count) := by
  have parts := List.take_append_drop count entries
  have apart : (entries.take count).Disjoint (entries.drop count) := by
    rw [← parts] at distinct
    exact List.disjoint_of_nodup_append distinct
  have left : (entries.take count).filter (· ∉ entries.take count) = [] := by
    rw [List.filter_eq_nil_iff]
    simp
  have right : (entries.drop count).filter (· ∉ entries.take count) = entries.drop count := by
    rw [List.filter_eq_self]
    intro entry behind
    exact decide_eq_true fun front => apart front behind
  calc entries.drop count
      = (entries.take count ++ entries.drop count).filter (· ∉ entries.take count) := by
        rw [List.filter_append, left, right, List.nil_append]
    _ = entries.filter (· ∉ entries.take count) := by rw [parts]

/-- A poll selects the part behind what was delivered. It sorts what is left anew, which gives the
rest of the sequence, as leaving messages out of a sorted list leaves it sorted. -/
theorem Delivered.selection_eq {trial : Trial} {config : Config} {count : Nat} (calm : Calm start)
    (delivered : Delivered start ((deliveryOrder config.maxRetries start).take count) trial) :
    selection config trial =
      ((deliveryOrder config.maxRetries start).drop count).take config.batchSize.toNat := by
  have sorted : (retryable config.maxRetries trial).mergeSort happenedFirst =
      (deliveryOrder config.maxRetries start).drop count := by
    rw [delivered.retryable_eq, Outbox.mergeSort_filter calm.retryable_nodup]
    exact (drop_eq_filter calm.deliveryOrder_nodup count).symm
  exact congrArg (·.take config.batchSize.toNat) sorted

/-! ### Cycles -/

variable (config : Config) {world : World Trial}

/-- The treatment of one more message delivers it, as the bus accepts it and the record goes
through. -/
theorem Delivered.treat (calm : Calm start) (accepts : ∀ n, start.answers n = .ok ())
    (delivered : Delivered start done world.state) (still : Calm world.state)
    (here : row ∈ start.memory.outbox) (left : row ∉ done)
    (known : row.toPending.id ∈ world.state.memory.ids) :
    Delivered start (done ++ [row])
      ((Trial.processor config).treat row.toPending world).2.state := by
  obtain ⟨now, reached⟩ := still.state_treat config known
  obtain ⟨times, outbox⟩ := delivered.outbox
  have accepted : world.state.answer = .ok () := by
    rw [Trial.answer, delivered.answers]
    exact accepts _
  rw [reached, accepted]
  refine ⟨delivered.answers, ?_, fun other => if other = row then now else times other, ?_⟩
  · have offered : (world.state.offer row.eventType row.content).offered =
        world.state.offered ++ [offerOf row] := rfl
    refine offered.trans ?_
    rw [delivered.offered, List.map_append, List.map_singleton, List.append_assoc]
  · have settled : (Trial.settled config.maxRetries row.toPending (.ok ()) now
        world.state.memory).outbox = world.state.memory.outbox.map fun later =>
          if later.id == row.id then later.processedAt now else later := rfl
    refine settled.trans ?_
    rw [outbox, List.map_map]
    refine List.map_congr_left fun other among => ?_
    by_cases same : other = row
    · subst same
      simp [left]
    · have another : other.id ≠ row.id := fun equal =>
        same (List.inj_on_of_nodup_map calm.ids among here equal)
      by_cases earlier : other ∈ done
      · simp [earlier, same, another, Message.processedAt]
      · simp [earlier, same, another]

/-- A cycle delivers the part of the sequence that its poll selects, by induction on this part. -/
theorem Delivered.afterBatch {count : Nat} (calm : Calm start)
    (accepts : ∀ n, start.answers n = .ok ()) (still : Calm world.state)
    (delivered : Delivered start ((deliveryOrder config.maxRetries start).take count)
      world.state) :
    Delivered start
      ((deliveryOrder config.maxRetries start).take (count + config.batchSize.toNat))
      ((Trial.processor config).afterBatch world).state := by
  let order := deliveryOrder config.maxRetries start
  let target := order.take (count + config.batchSize.toNat)
  -- What is still queued is the rest of the part that this cycle delivers.
  let underway (queue : List Pending) (later : World Trial) : Prop :=
    ∃ done rest, done ++ rest = target ∧ queue = rest.map (·.toPending) ∧
      Delivered start done later.state
  have begun : underway ((selection config world.state).map (·.toPending)) world := by
    refine ⟨order.take count, (order.drop count).take config.batchSize.toNat, ?_, ?_, delivered⟩
    · exact List.take_add.symm
    · rw [delivered.selection_eq calm]
  have advance (message : Pending) (queue : List Pending) (later : World Trial)
      (still : Calm later.state)
      (current : Current config.maxRetries (message :: queue) later.state.memory.outbox)
      (before : underway (message :: queue) later) :
      underway queue ((Trial.processor config).treat message later).2 := by
    obtain ⟨done, rest, whole, queued, delivered⟩ := before
    obtain ⟨row, others, rfl, rfl, rfl⟩ := List.map_eq_cons_iff.mp queued.symm
    have part : (done ++ row :: others).Sublist order := whole ▸ List.take_sublist _ _
    have here : row ∈ start.memory.outbox :=
      (mem_deliveryOrder.mp (part.subset (by simp))).1
    have left : row ∉ done := by
      have apart := List.disjoint_of_nodup_append (calm.deliveryOrder_nodup.sublist part)
      exact fun earlier => apart earlier List.mem_cons_self
    refine ⟨done ++ [row], others, ?_, rfl, ?_⟩
    · rw [List.append_assoc]
      exact whole
    · exact delivered.treat config calm accepts still here left current.known
  obtain ⟨done, rest, whole, none, finished⟩ :=
    (still.treatAll config underway advance (still.current config) begun).2
  obtain rfl := List.map_eq_nil_iff.mp none.symm
  rw [List.append_nil] at whole
  rw [whole] at finished
  rw [(still.batch config).2]
  exact finished

/-- After some cycles a front part of the sequence is delivered, as long as the cycles times the
size of a batch. The induction is on the number of cycles. -/
theorem delivered_afterBatches (calm : Calm world.state)
    (accepts : ∀ n, world.state.answers n = .ok ()) (count : Nat) :
    Delivered world.state
      ((deliveryOrder config.maxRetries world.state).take (count * config.batchSize.toNat))
      ((Trial.processor config).afterBatches count world).state := by
  induction count with
  | zero =>
    rw [Nat.zero_mul, List.take_zero]
    exact delivered_nil world.state
  | succ count inductionHypothesis =>
    rw [Processor.afterBatches_succ, Nat.succ_mul]
    obtain ⟨still, _⟩ := calm.afterBatches config count
    exact inductionHypothesis.afterBatch config calm accepts still

/-- While the bus accepts everything there is one sequence, in which every retryable message stands
once and in the order of delivery. Whatever the size of a batch, as many cycles as the batches that
the messages fill give the bus just this sequence, process just these messages and leave every other
one as it was.

Proof: the sequence is the retryable messages, sorted once and for all. After any number of cycles a
front part of it is delivered (`delivered_afterBatches`), and when the cycles have room for all of
them, it is the whole. How a batch cuts the sequence appears nowhere in the result. -/
theorem deliveries_in_order (ceiling : Int) (calm : Calm world.state)
    (accepts : ∀ n, world.state.answers n = .ok ()) :
    ∃ sequence : List Message,
      sequence.Perm (retryable ceiling world.state) ∧
      sequence.Pairwise (Precedes world.state.memory.outbox) ∧
      ∀ config : Config, config.maxRetries = ceiling → 1 ≤ config.batchSize →
        let cycles := (retryable ceiling world.state).length ⌈/⌉ config.batchSize.toNat
        let after := (Trial.processor config).afterBatches cycles world
        after.state.offered =
            world.state.offered ++ sequence.map (fun row => (row.eventType, row.content)) ∧
          ∃ times : Message → Instant,
            after.state.memory.outbox = world.state.memory.outbox.map fun row =>
              if row.isRetryable ceiling then row.processedAt (times row) else row := by
  refine ⟨deliveryOrder ceiling world.state, List.mergeSort_perm _ _, ?_, ?_⟩
  · exact (Outbox.pairwise_sorted calm.retryable_nodup).imp fun precedes =>
      precedes.mono List.filter_sublist
  · rintro config rfl positive cycles after
    have enough : (deliveryOrder config.maxRetries world.state).length ≤
        cycles * config.batchSize.toNat := by
      have filled := le_smul_ceilDiv (b := (retryable config.maxRetries world.state).length)
        (show 0 < config.batchSize.toNat by omega)
      rw [deliveryOrder, List.length_mergeSort, Nat.mul_comm]
      exact filled
    have delivered := delivered_afterBatches config calm accepts cycles
    rw [List.take_of_length_le enough] at delivered
    obtain ⟨times, outbox⟩ := delivered.outbox
    refine ⟨delivered.offered, times, outbox.trans ?_⟩
    refine List.map_congr_left fun row here => ?_
    by_cases due : row.isRetryable config.maxRetries = true
    · rw [if_pos due, if_pos (mem_deliveryOrder.mpr ⟨here, due⟩)]
    · rw [if_neg due, if_neg fun among => due (mem_deliveryOrder.mp among).2]

end

/-- A bus that accepts everything, and messages of which two happened at the same instant, one later
was added before them, and one is exhausted. -/
def acceptingWorld : World Trial where
  ids n := ⟨BitVec.ofNat 128 n⟩
  clock _ := ⟨9, 0⟩
  state := {
    memory := {
      outbox := [.fresh ⟨1⟩ "placed" "late" ⟨5, 0⟩, .fresh ⟨2⟩ "placed" "first" ⟨0, 0⟩,
        .fresh ⟨3⟩ "cancelled" "second" ⟨0, 0⟩,
        { Message.fresh ⟨4⟩ "placed" "given up" ⟨0, 0⟩ with retryCount := 3 }] }
    answers := fun _ => .ok ()
    faults := fun _ => none }

theorem calm_acceptingWorld : Calm acceptingWorld.state where
  ids := by decide
  polls := rfl
  records _ := rfl

/-- The order of delivery in the accepting world, as the theorem pins it: the two messages of the
earlier instant as they were added, and behind them the one that was added before both. -/
theorem deliveries_in_order_acceptingWorld :
    let sequence : List Message := [.fresh ⟨2⟩ "placed" "first" ⟨0, 0⟩,
      .fresh ⟨3⟩ "cancelled" "second" ⟨0, 0⟩, .fresh ⟨1⟩ "placed" "late" ⟨5, 0⟩]
    Calm acceptingWorld.state ∧ (∀ n, acceptingWorld.state.answers n = .ok ()) ∧
      sequence.Perm (retryable 3 acceptingWorld.state) ∧
      sequence.Pairwise (Precedes acceptingWorld.state.memory.outbox) ∧
      ∀ config ∈ [({ batchSize := 1 } : Config), { batchSize := 2 }],
        config.maxRetries = 3 ∧ 1 ≤ config.batchSize ∧
        let cycles := (retryable 3 acceptingWorld.state).length ⌈/⌉ config.batchSize.toNat
        let after := (Trial.processor config).afterBatches cycles acceptingWorld
        after.state.offered = [("placed", "first"), ("cancelled", "second"), ("placed", "late")] ∧
          ∃ times : Message → Instant,
            after.state.memory.outbox = acceptingWorld.state.memory.outbox.map fun row =>
              if row.isRetryable 3 then row.processedAt (times row) else row := by
  intro sequence
  have accepts : ∀ n, acceptingWorld.state.answers n = .ok () := fun _ => rfl
  have sizes : ∀ config ∈ [({ batchSize := 1 } : Config), { batchSize := 2 }],
      config.maxRetries = 3 ∧ 1 ≤ config.batchSize := by decide
  have retried : sequence.Perm (retryable 3 acceptingWorld.state) := by decide
  have inOrder : sequence.Pairwise (Precedes acceptingWorld.state.memory.outbox) := by decide
  obtain ⟨found, once, ordered, cycles⟩ := deliveries_in_order 3 calm_acceptingWorld accepts
  have pinned : found = sequence := (once.trans retried.symm).eq_of_pairwise
    (fun _ _ _ _ one other => absurd other (one.asymm calm_acceptingWorld.outbox_nodup))
    ordered inOrder
  subst pinned
  refine ⟨calm_acceptingWorld, accepts, retried, inOrder, fun config among => ?_⟩
  obtain ⟨ceiling, positive⟩ := sizes config among
  exact ⟨ceiling, positive, cycles config ceiling positive⟩

end OutboxRelay.Delivery

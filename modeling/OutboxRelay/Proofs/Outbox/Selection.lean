import Mathlib.Data.List.FinRange
import OutboxRelay.Proofs.Outbox.Memory
import OutboxRelay.Proofs.Outbox.Precedence

/-!
# What polls select

Which rows the polls of the store in memory select, and in which order. Rows may be alike in
everything, so they are told apart by their places in the outbox. All places have one arrangement,
by the instants of the rows and for rows of one instant by the places themselves. Whatever a poll
looks for, it goes through this one arrangement and takes the first eligible rows that it meets, up
to its limit.

From this follows how polls are related. A smaller limit only stops earlier. Without a limit the
poll for unprocessed rows meets the retryable and the exhausted ones in one pass, each of them in
its own order, and a higher ceiling only moves rows from the latter to the former.
-/

namespace OutboxRelay.Outbox

/-! ### The arrangement of places -/

section

variable (outbox : List Message)

/-- A row comes before another one: it happened at an earlier instant, or at the same one and was
inserted earlier. Rows are compared by place, since two of them may be alike in everything. -/
def Earlier (first second : Fin outbox.length) : Prop :=
  outbox[first].occurredOn.Before outbox[second].occurredOn ∨
    outbox[first].occurredOn = outbox[second].occurredOn ∧ first < second

instance (first second : Fin outbox.length) : Decidable (Earlier outbox first second) :=
  inferInstanceAs (Decidable (_ ∨ _))

/-- Whether a row happened no later than another one, by their places. -/
def noLater (first second : Fin outbox.length) : Bool :=
  happenedFirst outbox[first] outbox[second]

/-- All places in the order in which polls meet them. The order does not depend on what a poll looks
for. -/
def arrangement : List (Fin outbox.length) :=
  (List.finRange outbox.length).mergeSort (noLater outbox)

/-- The places that a poll takes: the first eligible ones of the arrangement, up to the limit. -/
def picks (eligible : Message → Bool) (limit : Int) : List (Fin outbox.length) :=
  ((arrangement outbox).filter fun place => eligible outbox[place]).take limit.toNat

/-- No two rows come before each other. For places this needs no condition, as they are distinct by
nature. -/
theorem Earlier.asymm {outbox : List Message} {first second : Fin outbox.length}
    (before : Earlier outbox first second) : ¬Earlier outbox second first := by
  rintro (later | ⟨same, after⟩)
  · rcases before with earlier | ⟨same, -⟩
    · exact earlier.asymm later
    · exact Instant.Before.irrefl _ (same ▸ later)
  · rcases before with earlier | ⟨-, first⟩
    · exact Instant.Before.irrefl _ (same ▸ earlier)
    · omega

/-- Sorted places are in order. -/
theorem pairwise_sortedPlaces {places : List (Fin outbox.length)}
    (ascending : places.Pairwise (· < ·)) :
    (places.mergeSort (noLater outbox)).Pairwise (Earlier outbox) := by
  have distinct : places.Nodup := ascending.imp Fin.ne_of_lt
  have stable : (places.mergeSort (noLater outbox)).Pairwise _ :=
    pairwise_mergeSort_stable (fun _ _ _ => happenedFirst_trans _ _ _)
      (fun _ _ => happenedFirst_total _ _) distinct
  refine stable.imp ?_
  rintro first second ⟨ordered, earlier | kept⟩
  · exact Or.inl (Instant.notAfter_eq_false_iff.mp earlier)
  · cases back : noLater outbox second first with
    | false => exact Or.inl (Instant.notAfter_eq_false_iff.mp back)
    | true =>
      exact Or.inr ⟨Instant.notAfter_antisymm ordered back, ascending.forall_sublist kept⟩

theorem pairwise_arrangement : (arrangement outbox).Pairwise (Earlier outbox) :=
  pairwise_sortedPlaces outbox (List.pairwise_lt_finRange _)

theorem arrangement_perm : (arrangement outbox).Perm (List.finRange outbox.length) :=
  List.mergeSort_perm _ _

/-- Every place is met, so a poll passes over no row unseen. -/
theorem mem_arrangement (place : Fin outbox.length) : place ∈ arrangement outbox :=
  (arrangement_perm outbox).mem_iff.mpr (List.mem_finRange place)

/-- Eligible rows are those at eligible places. -/
theorem filter_eq_map_places (eligible : Message → Bool) :
    outbox.filter eligible =
      ((List.finRange outbox.length).filter fun place => eligible outbox[place]).map
        fun place => outbox[place] := by
  have rows : outbox = (List.finRange outbox.length).map fun place => outbox[place] :=
    (List.map_getElem_finRange outbox).symm
  conv_lhs => rw [rows, List.filter_map]
  rfl

/-- Whether places are left out before or after the others are arranged makes no difference, because
there is only one arrangement. -/
theorem sortedPlaces_eq_filter (among : Fin outbox.length → Bool) :
    ((List.finRange outbox.length).filter among).mergeSort (noLater outbox) =
      (arrangement outbox).filter among := by
  have before := pairwise_sortedPlaces outbox ((List.pairwise_lt_finRange _).filter among)
  have after := (pairwise_arrangement outbox).filter among
  have same := (List.mergeSort_perm ((List.finRange outbox.length).filter among)
    (noLater outbox)).trans ((arrangement_perm outbox).filter among).symm
  exact same.eq_of_pairwise (fun _ _ _ _ one other => absurd other one.asymm) before after

/-- What polls select are the rows at the places that they take. By this the polls of the store,
which sort rows, can be studied as selections of places. -/
theorem map_picks (eligible : Message → Bool) (limit : Int) :
    (picks outbox eligible limit).map (fun place => outbox[place]) =
      oldestFirst eligible limit outbox := by
  rw [picks, ← sortedPlaces_eq_filter, List.map_take, oldestFirst, filter_eq_map_places]
  exact congrArg (List.take limit.toNat) (List.map_mergeSort fun _ _ _ _ => rfl)

end

/-! ### Picks -/

/-- What a poll has to select: eligible rows in order, as many as there are up to the limit, and no
later one for an earlier one. A limit that is negative counts as zero. -/
structure Picks (outbox : List Message) (eligible : Message → Bool) (limit : Int)
    (places : List (Fin outbox.length)) : Prop where
  fits : ∀ place ∈ places, eligible outbox[place] = true
  ordered : places.Pairwise (Earlier outbox)
  size : (places.length : Int) = min (max limit 0) (outbox.countP eligible)
  /-- What is left out comes after all that was taken. -/
  complete : ∀ left, eligible outbox[left] = true → left ∉ places →
    ∀ taken ∈ places, Earlier outbox taken left

section

variable (outbox : List Message) (eligible : Message → Bool)

/-- The number of eligible rows. -/
theorem length_filter_arrangement :
    ((arrangement outbox).filter fun place => eligible outbox[place]).length =
      outbox.countP eligible := by
  rw [((arrangement_perm outbox).filter _).length_eq, List.countP_eq_length_filter,
    filter_eq_map_places, List.length_map]

/-- A poll does so. The arrangement is in order, what is left out of it or taken from its beginning
stays in order, and whatever comes after the limit comes later. -/
theorem picks_picks (limit : Int) : Picks outbox eligible limit (picks outbox eligible limit) := by
  let all := (arrangement outbox).filter fun place => eligible outbox[place]
  have ordered : all.Pairwise (Earlier outbox) := (pairwise_arrangement outbox).filter _
  constructor
  case fits =>
    intro place taken
    exact (List.mem_filter.mp (List.mem_of_mem_take taken)).2
  case ordered => exact ordered.sublist (List.take_sublist _ _)
  case size =>
    rw [picks, List.length_take, length_filter_arrangement]
    omega
  case complete =>
    intro left fits missing taken first
    have rest : left ∈ all.drop limit.toNat := by
      have among : left ∈ all.take limit.toNat ++ all.drop limit.toNat := by
        rw [List.take_append_drop]
        exact List.mem_filter.mpr ⟨mem_arrangement outbox left, fits⟩
      exact (List.mem_append.mp among).resolve_left missing
    rw [← List.take_append_drop limit.toNat all, List.pairwise_append] at ordered
    exact ordered.2.2 taken first left rest

/-- A smaller limit only stops earlier, in one and the same list of eligible places. -/
theorem picks_isPrefix {limit larger : Int} (less : limit ≤ larger) :
    picks outbox eligible limit <+: picks outbox eligible larger :=
  List.take_prefix_take_left (Int.toNat_le_toNat less)

/-- A limit that is at least the number of rows is none. -/
theorem picks_whole {limit : Int} (enough : outbox.length ≤ limit) :
    picks outbox eligible limit =
      (arrangement outbox).filter fun place => eligible outbox[place] := by
  refine List.take_of_length_le ?_
  have fewer := length_filter_arrangement outbox eligible
  have most := List.countP_le_length (p := eligible) (l := outbox)
  omega

end

/-! ### Polls without a limit -/

/-- A list is made of two others, each in its own order. An entry of the whole comes from exactly
one of the two. -/
inductive Merges {α : Type} : List α → List α → List α → Prop
  | nil : Merges [] [] []
  | first {entry : α} {one other whole : List α} :
      Merges one other whole → Merges (entry :: one) other (entry :: whole)
  | second {entry : α} {one other whole : List α} :
      Merges one other whole → Merges one (entry :: other) (entry :: whole)

/-- A list is made of the members that satisfy a condition and of those that satisfy another one, if
every member satisfies just one of the two. The induction is on the list, where the condition says
which of the two lists the first member comes from. -/
theorem merges_filter {α : Type} {one other : α → Bool} (entries : List α)
    (apart : ∀ entry ∈ entries, one entry = !other entry) :
    Merges (entries.filter one) (entries.filter other) entries := by
  induction entries with
  | nil => exact .nil
  | cons entry entries inductionHypothesis =>
    have behind := inductionHypothesis fun later among => apart later (List.mem_cons_of_mem _ among)
    have here := apart entry List.mem_cons_self
    cases holds : other entry with
    | true =>
      rw [List.filter_cons_of_pos holds, List.filter_cons_of_neg (by simp [here, holds])]
      exact .second behind
    | false =>
      rw [List.filter_cons_of_pos (by simp [here, holds]),
        List.filter_cons_of_neg (by simp [holds])]
      exact .first behind

section

variable (outbox : List Message)

/-- A narrower condition may be looked at after a wider one, because what fails the wider one fails
both. -/
theorem filter_narrower (one other : Message → Bool)
    (narrower : ∀ message, one message = true → other message = true) :
    ((arrangement outbox).filter fun place => one outbox[place]) =
      ((arrangement outbox).filter fun place => other outbox[place]).filter
        fun place => one outbox[place] := by
  rw [List.filter_filter]
  refine List.filter_congr fun place _ => ?_
  cases fits : one outbox[place] with
  | true => exact (narrower _ fits).symm
  | false => rfl

/-- Without a limit the unprocessed rows are the retryable and the exhausted ones, each in their own
order. An unprocessed row is one or the other, as its count is below the ceiling or not. -/
theorem merges_picks (ceiling : Int) {limit first second : Int} (enough : outbox.length ≤ limit)
    (firstEnough : outbox.length ≤ first) (secondEnough : outbox.length ≤ second) :
    Merges (picks outbox (·.isRetryable ceiling) first)
      (picks outbox (·.isExhausted ceiling) second)
      (picks outbox (fun message => !message.isProcessed) limit) := by
  have retryable := filter_narrower outbox (·.isRetryable ceiling) (!·.isProcessed)
    fun _ fits => (Bool.and_eq_true_iff.mp fits).1
  have exhausted := filter_narrower outbox (·.isExhausted ceiling) (!·.isProcessed)
    fun _ fits => (Bool.and_eq_true_iff.mp fits).1
  rw [picks_whole _ _ enough, picks_whole _ _ firstEnough, picks_whole _ _ secondEnough, retryable,
    exhausted]
  refine merges_filter _ fun place unprocessed => ?_
  refine Message.isRetryable_eq_not_isExhausted ceiling _ ?_
  simpa using (List.mem_filter.mp unprocessed).2

/-- Without a limit a wider condition only adds rows, and the others keep their order. With a limit
a row that is added could push out another one. -/
theorem sublist_picks {one other : Message → Bool}
    (wider : ∀ message, one message → other message) {first second : Int}
    (firstEnough : outbox.length ≤ first) (secondEnough : outbox.length ≤ second) :
    (picks outbox one first).Sublist (picks outbox other second) := by
  rw [picks_whole _ _ firstEnough, picks_whole _ _ secondEnough]
  exact List.monotone_filter_right _ fun place => wider outbox[place]

/-- Without a limit a place is taken if it is eligible. -/
theorem mem_picks_whole {eligible : Message → Bool} {limit : Int} (enough : outbox.length ≤ limit)
    (place : Fin outbox.length) :
    place ∈ picks outbox eligible limit ↔ eligible outbox[place] = true := by
  rw [picks_whole _ _ enough, List.mem_filter]
  simp [mem_arrangement]

/-- Without a limit every unprocessed row is selected as retryable or as exhausted and not as both,
and a processed one as neither. -/
theorem mem_picks_divided (ceiling : Int) {first second : Int} (firstEnough : outbox.length ≤ first)
    (secondEnough : outbox.length ≤ second) (place : Fin outbox.length) :
    if outbox[place].isProcessed then
      place ∉ picks outbox (·.isRetryable ceiling) first ∧
        place ∉ picks outbox (·.isExhausted ceiling) second
    else
      (place ∈ picks outbox (·.isRetryable ceiling) first ↔
        place ∉ picks outbox (·.isExhausted ceiling) second) := by
  rw [mem_picks_whole outbox firstEnough, mem_picks_whole outbox secondEnough]
  split
  case isTrue processed =>
    simp only [Message.isRetryable, Message.isExhausted, processed, Bool.not_true, Bool.false_and,
      Bool.false_eq_true, not_false_eq_true, and_self]
  case isFalse waiting =>
    have unprocessed : outbox[place].isProcessed = false := Bool.eq_false_iff.mpr waiting
    rw [Message.isRetryable_eq_not_isExhausted ceiling _ unprocessed]
    simp

/-- A higher ceiling moves rows from the exhausted to the retryable ones only. -/
theorem sublist_picks_ceiling {ceiling higher first second : Int} (less : ceiling ≤ higher)
    (firstEnough : outbox.length ≤ first) (secondEnough : outbox.length ≤ second) :
    (picks outbox (·.isRetryable ceiling) first).Sublist
        (picks outbox (·.isRetryable higher) second) ∧
      (picks outbox (·.isExhausted higher) first).Sublist
        (picks outbox (·.isExhausted ceiling) second) := by
  constructor
  · refine sublist_picks outbox (fun message fits => ?_) firstEnough secondEnough
    simp only [Message.isRetryable, Bool.and_eq_true, decide_eq_true_eq] at fits ⊢
    exact ⟨fits.1, fits.2.trans_le less⟩
  · refine sublist_picks outbox (fun message fits => ?_) firstEnough secondEnough
    simp only [Message.isExhausted, Bool.and_eq_true, decide_eq_true_eq] at fits ⊢
    exact ⟨fits.1, less.trans fits.2⟩

end

/-! ### The three polls -/

/-- A poll gives what the rows at its places say of themselves, unless it is told to fail. -/
theorem poll_picks {memory : Memory} (ready : memory.failNextFetch = false) (limit : Int)
    (eligible : Message → Bool) :
    memory.poll limit eligible =
      (.ok ((picks memory.outbox eligible limit).map fun place =>
        (memory.outbox[place]).toPending), memory) := by
  rw [Memory.poll_ok ready, ← map_picks, List.map_map]
  rfl

/-- The polls for unprocessed, for retryable and for exhausted rows select in order, completely and
up to their limits, and change nothing. With a smaller limit each of them gives the beginning of
what it gives with a larger one. Without limits the unprocessed rows are the retryable and the
exhausted ones, none of them twice, and with a higher ceiling rows can only turn from exhausted to
retryable.

Proof: all polls go through one arrangement of the places and differ in the condition and the limit
(`map_picks`). What a single poll selects is `picks_picks`. Beginnings are beginnings of one
filtered list, and the relations between polls are relations between the conditions: `merges_picks`
divides the unprocessed rows by the ceiling, `sublist_picks_ceiling` moves it. -/
theorem polls_partition (world : World Memory) (ready : world.state.failNextFetch = false) :
    let outbox := world.state.outbox
    let unprocessed := picks outbox fun message => !message.isProcessed
    let retryable := fun ceiling => picks outbox (·.isRetryable ceiling)
    let exhausted := fun ceiling => picks outbox (·.isExhausted ceiling)
    let pending := fun place : Fin outbox.length =>
      let row := outbox[place]
      ({ id := row.id, eventType := row.eventType, content := row.content,
         retryCount := row.retryCount } : Pending)
    (∀ limit : Int,
      Picks outbox (fun message => !message.isProcessed) limit (unprocessed limit) ∧
        (Memory.store.getUnprocessed limit).perform world =
          (.ok ((unprocessed limit).map pending), world)) ∧
    (∀ limit ceiling : Int,
      Picks outbox (fun message => !message.isProcessed && message.retryCount < ceiling) limit
          (retryable ceiling limit) ∧
        (Memory.store.getRetryable limit ceiling).perform world =
          (.ok ((retryable ceiling limit).map pending), world)) ∧
    (∀ limit ceiling : Int,
      Picks outbox (fun message => !message.isProcessed && ceiling ≤ message.retryCount) limit
          (exhausted ceiling limit) ∧
        (Memory.store.getExhausted limit ceiling).perform world =
          (.ok ((exhausted ceiling limit).map fun place => outbox[place]), world)) ∧
    (∀ limit larger ceiling : Int, limit ≤ larger →
      unprocessed limit <+: unprocessed larger ∧
        retryable ceiling limit <+: retryable ceiling larger ∧
        exhausted ceiling limit <+: exhausted ceiling larger) ∧
    (∀ limit first second ceiling : Int,
      outbox.length ≤ limit → outbox.length ≤ first → outbox.length ≤ second →
        Merges (retryable ceiling first) (exhausted ceiling second) (unprocessed limit) ∧
          ∀ place : Fin outbox.length,
            if outbox[place].isProcessed then
              place ∉ retryable ceiling first ∧ place ∉ exhausted ceiling second
            else (place ∈ retryable ceiling first ↔ place ∉ exhausted ceiling second)) ∧
    ∀ first second ceiling higher : Int,
      outbox.length ≤ first → outbox.length ≤ second → ceiling ≤ higher →
        (retryable ceiling first).Sublist (retryable higher second) ∧
          (exhausted higher first).Sublist (exhausted ceiling second) := by
  intro outbox unprocessed retryable exhausted pending
  refine ⟨fun limit => ⟨picks_picks _ _ _, ?_⟩, fun limit ceiling => ⟨picks_picks _ _ _, ?_⟩,
    fun limit ceiling => ⟨picks_picks _ _ _, ?_⟩, ?_, ?_, ?_⟩
  · have performed : (Memory.store.getUnprocessed limit).perform world =
        ((world.state.poll limit fun message => !message.isProcessed).1,
          world.withState (world.state.poll limit fun message => !message.isProcessed).2) := rfl
    rw [performed, poll_picks ready]
    rfl
  · have performed : (Memory.store.getRetryable limit ceiling).perform world =
        ((world.state.poll limit (·.isRetryable ceiling)).1,
          world.withState (world.state.poll limit (·.isRetryable ceiling)).2) := rfl
    rw [performed, poll_picks ready]
    rfl
  · have performed : (Memory.store.getExhausted limit ceiling).perform world =
        (.ok (oldestFirst (·.isExhausted ceiling) limit outbox), world) := rfl
    rw [performed, ← map_picks]
  · intro limit larger ceiling less
    exact ⟨picks_isPrefix _ _ less, picks_isPrefix _ _ less, picks_isPrefix _ _ less⟩
  · intro limit first second ceiling enough firstEnough secondEnough
    exact ⟨merges_picks outbox ceiling enough firstEnough secondEnough,
      mem_picks_divided outbox ceiling firstEnough secondEnough⟩
  · intro first second ceiling higher firstEnough secondEnough less
    exact sublist_picks_ceiling outbox less firstEnough secondEnough

/-- Two rows of one instant that are alike in everything, an older one with two failed attempts
behind it, and one that is processed. -/
def crowdedOutbox : List Message :=
  [.fresh ⟨1⟩ "placed" "twice" ⟨5, 0⟩,
    (Message.fresh ⟨2⟩ "placed" "failed" ⟨3, 0⟩).failedWith "late" 2,
    .fresh ⟨1⟩ "placed" "twice" ⟨5, 0⟩,
    (Message.fresh ⟨3⟩ "placed" "done" ⟨4, 0⟩).processedAt ⟨6, 0⟩]

/-- The order in which polls meet the rows of the crowded outbox is the only arrangement of their
places in which the older rows stand first and the equal ones as they were inserted. -/
theorem arrangement_crowdedOutbox : arrangement crowdedOutbox =
    [⟨1, by decide⟩, ⟨3, by decide⟩, ⟨0, by decide⟩, ⟨2, by decide⟩] :=
  ((arrangement_perm crowdedOutbox).trans (by decide)).eq_of_pairwise
    (fun _ _ _ _ one other => absurd other one.asymm) (pairwise_arrangement crowdedOutbox)
    (by decide)

theorem polls_partition_crowdedOutbox :
    let world : World Memory :=
      { ids := fun n => ⟨BitVec.ofNat 128 n⟩, clock := fun _ => ⟨0, 0⟩,
        state := { outbox := crowdedOutbox } }
    let unprocessed := picks crowdedOutbox fun message => !message.isProcessed
    world.state.failNextFetch = false ∧
      (Memory.store.getUnprocessed 2).perform world =
        (.ok [⟨⟨2⟩, "placed", "failed", 2⟩, ⟨⟨1⟩, "placed", "twice", 0⟩], world) ∧
      (unprocessed 4).map (·.val) = [1, 0, 2] ∧
      unprocessed 2 <+: unprocessed 4 ∧
      (picks crowdedOutbox (·.isRetryable 2) 4).map (·.val) = [0, 2] ∧
      (picks crowdedOutbox (·.isExhausted 2) 4).map (·.val) = [1] ∧
      Merges (picks crowdedOutbox (·.isRetryable 2) 4) (picks crowdedOutbox (·.isExhausted 2) 4)
        (unprocessed 4) := by
  intro world unprocessed
  have ready : world.state.failNextFetch = false := rfl
  obtain ⟨polls, -, -, shorter, merged, -⟩ := polls_partition world ready
  refine ⟨ready, (polls 2).2.trans ?_, ?_, (shorter 2 4 2 (by decide)).1, ?_, ?_,
    (merged 4 4 4 2 (by decide) (by decide) (by decide)).1⟩
  all_goals
    simp only [unprocessed, world, picks, arrangement_crowdedOutbox]
    rfl

end OutboxRelay.Outbox

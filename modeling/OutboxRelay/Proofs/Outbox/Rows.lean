import OutboxRelay.Outbox.Database
import OutboxRelay.Proofs.Outbox.Memory
import OutboxRelay.Proofs.Outbox.Precedence
import OutboxRelay.Proofs.Sql.Tables
import Mathlib.Data.List.Nodup
import Mathlib.Data.List.Perm.Basic

/-!
# Messages as rows

The record that stands for a message in the table of messages, and what the statements of the outbox
do to such records. Assignments are changes of the message, conditions are tests of it, an update is
a change of all messages that it concerns, and a selection in ascending order gives the oldest
messages first. Where messages of one time compete, the order would be up to the server; for
messages of distinct times there is only one.
-/

namespace OutboxRelay.Outbox

open Sql (Record Scan Tables Value Write)

/-- The record that stands for a message. There is a column for each of its fields, and absent
values are null. -/
def Message.record (message : Message) : Record :=
  .ofList [(Column.id, .id message.id), (Column.eventType, .text message.eventType),
    (Column.content, .text message.content), (Column.occurredOn, .time message.occurredOn),
    (Column.processedOn, .ofOption .time message.processedOn),
    (Column.error, .ofOption .text message.error),
    (Column.retryCount, .integer message.retryCount)]

namespace Message

variable (message : Message)

@[simp] theorem record_id : message.record Column.id = .id message.id := rfl

@[simp] theorem record_eventType : message.record Column.eventType = .text message.eventType := rfl

@[simp] theorem record_content : message.record Column.content = .text message.content := rfl

@[simp] theorem record_occurredOn : message.record Column.occurredOn = .time message.occurredOn :=
  rfl

@[simp] theorem record_processedOn :
    message.record Column.processedOn = .ofOption .time message.processedOn := rfl

@[simp] theorem record_error :
    message.record Column.error = .ofOption .text message.error := rfl

@[simp] theorem record_retryCount :
    message.record Column.retryCount = .integer message.retryCount := rfl

/-- The part of a message that a publish attempt needs is read back from its record. -/
theorem ofRow_pendingColumns :
    Pending.ofRow (pendingColumns.map message.record) = .ok message.toPending := rfl

/-- A message is read back from its record. -/
theorem ofRow_messageColumns :
    Message.ofRow (messageColumns.map message.record) = .ok message := by
  obtain ⟨id, eventType, content, occurredOn, processedOn, error, retryCount⟩ := message
  cases processedOn <;> cases error <;> rfl

end Message

/-! ### Assignments -/

/-- An assignment leaves the other columns alone, so a changed record is known by its few new
values. -/
theorem assign_other {query : Sql.Query} {moment : Instant}
    {assignments : List (Sql.Column × Sql.Expression)} {record : Record} {column : Sql.Column}
    (other : ∀ assigned ∈ assignments, column ≠ assigned.1) :
    Record.assign query moment assignments record column = record column := by
  have absent : assignments.lookup column = none :=
    List.lookup_eq_none_iff.mpr fun assigned among => bne_iff_ne.mpr (other assigned among)
  rw [Record.assign, absent]

/-- Two messages that differ in one column only, the one with the time of the first publish. -/
theorem record_processedAt {message : Message} {moment : Instant} {column : Sql.Column}
    (other : column ≠ Column.processedOn) :
    (message.processedAt moment).record column = message.record column := by
  simp [Message.record, Record.ofList, List.lookup_cons, Message.processedAt,
    beq_eq_false_iff_ne.mpr other]

theorem record_attempts {message : Message} {error : Option String} {retryCount : Int}
    {column : Sql.Column} (noError : column ≠ Column.error) (noCount : column ≠ Column.retryCount) :
    ({ message with error, retryCount } : Message).record column = message.record column := by
  simp [Message.record, Record.ofList, List.lookup_cons, beq_eq_false_iff_ne.mpr noError,
    beq_eq_false_iff_ne.mpr noCount]

theorem assign_processed (message : Message) (moment : Instant) (id : Identifier)
    (waiting : message.isProcessed = false) :
    Record.assign (Query.markAsProcessed id) moment [(Column.processedOn, .now)] message.record =
      (message.processedAt moment).record := by
  have none : message.processedOn = none := by simpa [Message.isProcessed] using waiting
  funext column
  by_cases here : column = Column.processedOn
  · subst here
    rw [Message.record_processedOn, Message.processedAt, none]
    rfl
  · rw [record_processedAt here, assign_other (by simpa using here)]

theorem assign_failed (message : Message) (moment : Instant) (id : Identifier) (error : String)
    (retryCount : Int) :
    Record.assign (Query.markAsFailed id error retryCount) moment
        [(Column.error, .parameter 2), (Column.retryCount, .greatest Column.retryCount 3)]
        message.record =
      (message.failedWith error retryCount).record := by
  funext column
  by_cases noError : column = Column.error
  · subst noError
    rfl
  · by_cases noCount : column = Column.retryCount
    · subst noCount
      rfl
    · rw [Message.failedWith, record_attempts noError noCount,
        assign_other (by simpa using ⟨noError, noCount⟩)]

theorem assign_reset (message : Message) (moment : Instant) (id : Identifier) :
    Record.assign (Query.resetRetries id) moment
        [(Column.retryCount, .integer 0), (Column.error, .null)] message.record =
      message.reset.record := by
  funext column
  by_cases noError : column = Column.error
  · subst noError
    rfl
  · by_cases noCount : column = Column.retryCount
    · subst noCount
      rfl
    · rw [Message.reset, record_attempts noError noCount,
        assign_other (by simpa using ⟨noCount, noError⟩)]

/-! ### Conditions -/

section

variable (message : Message) (id : Identifier) (limit ceiling : Int)

theorem holds_id {query : Sql.Query} (parameter : query.parameter 1 = .id id) :
    (Sql.Condition.equals Column.id 1).holds query message.record = (message.id == id) := by
  simp only [Sql.Condition.holds, Message.record_id, parameter]
  by_cases same : message.id = id <;> simp [same]

theorem holds_unprocessed (query : Sql.Query) :
    (Sql.Condition.isNull Column.processedOn).holds query message.record =
      !message.isProcessed := by
  obtain ⟨_, _, _, _, processedOn, _, _⟩ := message
  cases processedOn <;> rfl

theorem holds_retryable :
    [Sql.Condition.isNull Column.processedOn, .below Column.retryCount 2].all
        (·.holds (Query.retryable limit ceiling) message.record) =
      message.isRetryable ceiling := by
  rw [List.all_cons, holds_unprocessed, List.all_cons, List.all_nil, Bool.and_true]
  rfl

theorem holds_exhausted :
    [Sql.Condition.isNull Column.processedOn, .atLeast Column.retryCount 2].all
        (·.holds (Query.exhausted limit ceiling) message.record) =
      message.isExhausted ceiling := by
  rw [List.all_cons, holds_unprocessed, List.all_cons, List.all_nil, Bool.and_true]
  rfl

/-- The message under an identifier that is not done. -/
theorem holds_waiting {query : Sql.Query} (parameter : query.parameter 1 = .id id) :
    [Sql.Condition.equals Column.id 1, .isNull Column.processedOn].all
        (·.holds query message.record) =
      (message.id == id && !message.isProcessed) := by
  rw [List.all_cons, holds_id message id parameter, List.all_cons, holds_unprocessed, List.all_nil,
    Bool.and_true]

end

/-! ### Selections -/

/-- A message may come before another in a selection if it happened no later. The order of the
column and that of the memory agree. -/
theorem mayPrecede_record (first second : Message) :
    (first.record Column.occurredOn).mayPrecede (second.record Column.occurredOn) =
      happenedFirst first second := by
  simp [Value.mayPrecede, Value.below, happenedFirst]

variable {messages : List Message} {records : List Record}

/-- Messages of different times have only one order in which the older one comes first, so that the
order in which a table is scanned is not seen in what it gives. -/
theorem mergeSort_eq {first second : List Message} (same : first.Perm second)
    (times : (second.map (·.occurredOn)).Nodup) :
    first.mergeSort happenedFirst = second.mergeSort happenedFirst := by
  have ordered := List.pairwise_mergeSort happenedFirst_trans happenedFirst_total
  have perm : (first.mergeSort happenedFirst).Perm (second.mergeSort happenedFirst) :=
    ((List.mergeSort_perm _ _).trans same).trans (List.mergeSort_perm _ _).symm
  refine perm.eq_of_pairwise (fun a b inFirst inSecond before after => ?_) (ordered _) (ordered _)
  have amongFirst := same.subset (List.mem_mergeSort.mp inFirst)
  have amongSecond := List.mem_mergeSort.mp inSecond
  exact List.inj_on_of_nodup_map times amongFirst amongSecond
    (Instant.notAfter_antisymm before after)

/-- Eligible records in ascending order are those of the eligible messages, the oldest first,
however the table is scanned. -/
theorem found_eq (scan : Scan) {query : Sql.Query} {conditions : List Sql.Condition}
    {statement : Nat} {eligible : Message → Bool}
    (same : records.Perm (messages.map Message.record))
    (times : (messages.map (·.occurredOn)).Nodup)
    (holds : ∀ message : Message,
      conditions.all (·.holds query message.record) = eligible message) :
    Tables.found scan query conditions (some Column.occurredOn) statement records =
      ((messages.filter eligible).mergeSort happenedFirst).map Message.record := by
  have eligibles : ((scan.order statement records).filter fun record =>
      conditions.all (·.holds query record)).Perm
        ((messages.filter eligible).map Message.record) := by
    refine (((scan.perm statement records).trans same).filter _).trans (List.Perm.of_eq ?_)
    rw [List.filter_map]
    exact congrArg _ (List.filter_congr fun message _ => holds message)
  obtain ⟨found, whole, perm⟩ :=
    (congrFun₂ (List.eq_map_comp_perm Message.record) _ _).mpr eligibles
  have sorted : (found.mergeSort happenedFirst).map Message.record =
      (found.map Message.record).mergeSort fun first second =>
        (first Column.occurredOn).mayPrecede (second Column.occurredOn) :=
    List.map_mergeSort fun a _ b _ => (mayPrecede_record a b).symm
  unfold Tables.found
  dsimp only
  rw [whole, ← sorted]
  exact congrArg _ (mergeSort_eq perm (times.sublist (List.filter_sublist.map _)))

/-- A limit that is not negative takes as many rows; a negative one was raised to zero. -/
theorem limited_eq {query : Sql.Query} {limit : Int}
    (parameter : query.parameter 1 = Query.limitValue limit) (rows : List Sql.Row) :
    Tables.limited query (some 1) rows = .ok (.rows (rows.take limit.toNat)) := by
  have positive : ¬max limit 0 < 0 := Int.not_lt.mpr (Int.le_max_right limit 0)
  have same : (max limit 0).toNat = limit.toNat := by omega
  simp only [Tables.limited, Option.map_some, parameter, Query.limitValue, if_neg positive, same]

/-- Rows are read one after the other. -/
theorem mapM_ok {α β γ ε : Type} {read : α → Except ε β} {encode : γ → α} {value : γ → β}
    (readable : ∀ item, read (encode item) = .ok (value item)) (items : List γ) :
    (items.map encode).mapM read = .ok (items.map value) := by
  induction items with
  | nil => rfl
  | cons item items inductionHypothesis =>
    rw [List.map_cons, List.mapM_cons, readable, inductionHypothesis]
    rfl

/-! ### Updates -/

/-- An update of records is one of messages, and it affects as many of them. It is enough that
condition and change correspond for the record of a single message. -/
theorem update_records (concerns : Record → Bool) (change : Record → Record)
    {condition : Message → Bool} {changed : Message → Message}
    (same : records.Perm (messages.map Message.record))
    (concerned : ∀ message : Message, concerns message.record = condition message)
    (changes : ∀ message : Message, condition message = true →
      change message.record = (changed message).record) :
    (records.map fun record => if concerns record then change record else record).Perm
        ((messages.map fun message =>
          if condition message then changed message else message).map Message.record) ∧
      records.countP concerns = messages.countP condition := by
  constructor
  · refine (same.map _).trans (List.Perm.of_eq ?_)
    rw [List.map_map, List.map_map]
    refine List.map_congr_left fun message _ => ?_
    dsimp only [Function.comp]
    rw [concerned]
    split
    · next holds => exact changes message holds
    · rfl
  · rw [same.countP_eq, List.countP_map]
    exact List.countP_congr fun message _ => by simp [concerned]

end OutboxRelay.Outbox

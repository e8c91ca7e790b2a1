import OutboxRelay.Order.Database
import OutboxRelay.Proofs.Order.Record
import OutboxRelay.Proofs.Outbox.Rows
import OutboxRelay.Proofs.Sql.Constraints

/-!
# Orders as rows

The record that stands for an order in the table of orders, what the statements of orders do to such
records, and what the tables of the application demand of theirs.

A table holds the records of a list of orders that all have different identifiers. Inserting puts
one more behind them. Updating replaces one of them, and that although it assigns four columns only:
what it does not assign cannot have changed. To find an order is to find it in the list.
-/

namespace OutboxRelay.Order

open Sql (Scan Tables Value Write)

/-! ### Records -/

/-- The record that stands for an order in the table of orders: one column for each field of the
stored order. -/
def Record.row (record : Record) : Sql.Record :=
  .ofList [(Column.id, .id record.id), (Column.customerId, .text record.customerId),
    (Column.totalCents, .integer record.totalCents), (Column.status, .text record.status),
    (Column.cancelReason, .ofOption .text record.cancelReason),
    (Column.createdBy, .ofOption .text record.createdBy),
    (Column.createdOn, .ofOption .time record.createdOn),
    (Column.modifiedBy, .ofOption .text record.modifiedBy),
    (Column.modifiedOn, .ofOption .time record.modifiedOn)]

/-- An order is read back from its record, whatever its fields hold. No value is written in a form
that its column cannot give back. -/
theorem Record.ofRow_row (record : Record) :
    Record.ofRow (columns.map record.row) = .ok record := by
  obtain ⟨id, customerId, totalCents, status, cancelReason, createdBy, createdOn, modifiedBy,
    modifiedOn⟩ := record
  cases cancelReason <;> cases createdBy <;> cases createdOn <;> cases modifiedBy <;>
    cases modifiedOn <;> rfl

theorem Record.row_key (record : Record) : record.row Sql.keyColumn = .id record.id := rfl

@[simp] theorem Record.row_id (record : Record) : record.row Column.id = .id record.id := rfl

@[simp] theorem Record.row_customerId (record : Record) :
    record.row Column.customerId = .text record.customerId := rfl

@[simp] theorem Record.row_totalCents (record : Record) :
    record.row Column.totalCents = .integer record.totalCents := rfl

@[simp] theorem Record.row_status (record : Record) :
    record.row Column.status = .text record.status := rfl

/-- What the tables demand of their records: columns that always hold something, and of an order a
total that is positive. -/
def allows : Tables.Constraint := fun name record =>
  if name = table then
    [Column.id, Column.customerId, Column.totalCents, Column.status].all (record · ≠ .null) &&
      (record Column.totalCents).integer?.all (0 < ·)
  else if name = Outbox.table then
    [Outbox.Column.id, Outbox.Column.eventType, Outbox.Column.content, Outbox.Column.occurredOn,
      Outbox.Column.retryCount].all (record · ≠ .null)
  else true

/-- Orders at a positive total are allowed. The columns that must hold something are those of the
fields that are never absent. -/
theorem allows_row {record : Record} (positive : 0 < record.totalCents) :
    allows table record.row = true := by
  simp [allows, positive, Value.integer?]

/-- Messages always are. -/
theorem allows_message (message : Outbox.Message) :
    allows Outbox.table message.record = true := by
  have other : Outbox.table ≠ table := by decide
  simp [allows, other]

/-! ### Updates -/

/-- Two stored orders that differ at most in what an update assigns. -/
structure Record.SameOrigin (first second : Record) : Prop where
  id : first.id = second.id
  customerId : first.customerId = second.customerId
  totalCents : first.totalCents = second.totalCents
  createdBy : first.createdBy = second.createdBy
  createdOn : first.createdOn = second.createdOn

/-- The assignments of an update. Only what a cancellation can change is written; customer and total
stay as inserted. -/
def assignments : List (Sql.Column × Sql.Expression) :=
  [(Column.status, .parameter 2), (Column.cancelReason, .parameter 3),
    (Column.modifiedBy, .parameter 4), (Column.modifiedOn, .parameter 5)]

/-- An update makes the record of an order that of another one of the same origin. The columns that
it does not assign are the ones that both have in common. -/
theorem assign_update {record changed : Record} (same : record.SameOrigin changed)
    (moment : Instant) :
    Sql.Record.assign (Query.update changed) moment assignments record.row = changed.row := by
  funext column
  by_cases status : column = Column.status
  · subst status
    rfl
  by_cases cancelReason : column = Column.cancelReason
  · subst cancelReason
    rfl
  by_cases modifiedBy : column = Column.modifiedBy
  · subst modifiedBy
    rfl
  by_cases modifiedOn : column = Column.modifiedOn
  · subst modifiedOn
    rfl
  rw [Outbox.assign_other (by simp [assignments, status, cancelReason, modifiedBy, modifiedOn])]
  simp only [Record.row, Sql.Record.ofList, List.lookup_cons, beq_eq_false_iff_ne.mpr status,
    beq_eq_false_iff_ne.mpr cancelReason, beq_eq_false_iff_ne.mpr modifiedBy,
    beq_eq_false_iff_ne.mpr modifiedOn, same.id, same.customerId, same.totalCents, same.createdBy,
    same.createdOn]

/-- The condition of an update or a selection is a test of the identifier, since that is the
parameter which it compares. -/
theorem holds_id {query : Sql.Query} {id : Identifier} (parameter : query.parameter 1 = .id id)
    (record : Record) :
    [Sql.Condition.equals Column.id 1].all (·.holds query record.row) = (record.id == id) := by
  by_cases same : record.id = id <;> simp [Sql.Condition.holds, parameter, same]

/-! ### Lists of stored orders -/

/-- The orders of a list once one was written. A new order stands behind the others, and a changed
one in the place of its origin. -/
def written (change : Change) (record : Record) (records : List Record) : List Record :=
  match change with
  | .added => records ++ [record]
  | .modified => records.map fun old => if old.id = record.id then record else old

/-- The order of an identifier: the first record that has it. -/
def recordOf? (id : Identifier) (records : List Record) : Option Record :=
  records.find? (·.id == id)

/-- Whether an order can be written: a new one under an identifier that is not taken, a changed one
over one of the same origin. Without an origin an update would find no record, and with another
origin it would leave something different behind. -/
def CanWrite (change : Change) (record : Record) (records : List Record) : Prop :=
  match change with
  | .added => record.id ∉ records.map (·.id)
  | .modified => ∃ old ∈ records, old.SameOrigin record

variable {change : Change} {record : Record} {records : List Record}

/-- An order is found under the identifier that it has. -/
theorem id_eq_of_recordOf? {id : Identifier} (found : recordOf? id records = some record) :
    record.id = id := by
  have same := List.find?_some found
  exact eq_of_beq same

/-- An order that is found is one of the list. -/
theorem mem_of_recordOf? {id : Identifier} (found : recordOf? id records = some record) :
    record ∈ records :=
  List.mem_of_find?_eq_some found

/-- Among orders with different identifiers at most one has a given one, so that a selection by
identifier gives one record or none. -/
theorem filter_id_eq (once : (records.map (·.id)).Nodup) (id : Identifier) :
    records.filter (·.id == id) = (recordOf? id records).toList := by
  induction records with
  | nil => rfl
  | cons first rest inductionHypothesis =>
    obtain ⟨fresh, others⟩ := List.nodup_cons.mp once
    have later := inductionHypothesis others
    by_cases here : first.id = id
    · have none : rest.filter (·.id == id) = [] := by
        rw [List.filter_eq_nil_iff]
        intro other member taken
        exact fresh (List.mem_map.mpr ⟨other, member, (eq_of_beq taken).trans here.symm⟩)
      simp [recordOf?, here, none]
    · simpa [recordOf?, here] using later

/-- Each of them is found under its own identifier, since no other one has it. -/
theorem recordOf?_of_mem (once : (records.map (·.id)).Nodup) (member : record ∈ records) :
    recordOf? record.id records = some record := by
  cases found : recordOf? record.id records with
  | none => simpa using List.find?_eq_none.mp found record member
  | some other =>
    exact congrArg some (List.inj_on_of_nodup_map once (mem_of_recordOf? found) member
      (id_eq_of_recordOf? found))

/-- An order that was written is found, and all others are found as before, whether the order is new
or changed. -/
theorem recordOf?_written (canWrite : CanWrite change record records) (id : Identifier) :
    recordOf? id (written change record records) =
      if id = record.id then some record else recordOf? id records := by
  cases change with
  | added =>
    rw [written, recordOf?, List.find?_append]
    by_cases same : id = record.id
    · subst same
      have absent : records.find? (·.id == record.id) = none := by
        rw [List.find?_eq_none]
        intro old member taken
        exact canWrite (List.mem_map.mpr ⟨old, member, eq_of_beq taken⟩)
      simp [absent]
    · have different : (record.id == id) = false := beq_eq_false_iff_ne.mpr (Ne.symm same)
      simp [same, different, recordOf?]
  | modified =>
    obtain ⟨old, member, origin⟩ := canWrite
    have unchanged : (fun old : Record => old.id == id) ∘
        (fun old => if old.id = record.id then record else old) = (·.id == id) := by
      funext other
      by_cases replaced : other.id = record.id <;> simp [replaced]
    rw [written, recordOf?, List.find?_map, unchanged]
    by_cases same : id = record.id
    · subst same
      cases found : records.find? (·.id == record.id) with
      | none => exact absurd origin.id (by simpa using List.find?_eq_none.mp found old member)
      | some other =>
        have key : other.id = record.id := id_eq_of_recordOf? found
        simp [key]
    · cases found : records.find? (·.id == id) with
      | none => simp [same, recordOf?, found]
      | some other =>
        have key : other.id = id := id_eq_of_recordOf? found
        simp [same, recordOf?, found, key]

/-- Writing an order keeps identifiers different: a new one is not taken, and a change keeps the one
that there was. -/
theorem nodup_written (canWrite : CanWrite change record records)
    (once : (records.map (·.id)).Nodup) : ((written change record records).map (·.id)).Nodup := by
  cases change with
  | added =>
    have apart : (records.map (·.id)).Disjoint [record.id] := by
      rw [List.disjoint_singleton]
      exact canWrite
    simpa [written] using List.Nodup.append once (List.nodup_singleton record.id) apart
  | modified =>
    have unchanged : (written .modified record records).map (·.id) = records.map (·.id) := by
      rw [written, List.map_map]
      refine List.map_congr_left fun old _ => ?_
      by_cases replaced : old.id = record.id <;> simp [replaced]
    rwa [unchanged]

/-- What holds of all orders and of the one that is written holds of all afterwards. -/
theorem forall_mem_written {property : Record → Prop} (all : ∀ old ∈ records, property old)
    (here : property record) : ∀ old ∈ written change record records, property old := by
  cases change with
  | added =>
    simp only [written, List.forall_mem_append, List.forall_mem_singleton]
    exact ⟨all, here⟩
  | modified =>
    intro old member
    obtain ⟨before, among, rfl⟩ := List.mem_map.mp member
    split
    · exact here
    · exact all before among

/-! ### Statements on a table of orders -/

section

variable {tables : Tables} {route : Sql.Route}

/-- What the statement that writes an order writes to the table. -/
def write (change : Change) (record : Record) (moment : Instant) : Write :=
  match change with
  | .added => .insert table record.row
  | .modified => .update table
      (fun row => [Sql.Condition.equals Column.id 1].all (·.holds (Query.update record) row))
      (Sql.Record.assign (Query.update record) moment assignments)

/-- Applied to the records of orders, it is a write of one order. The identifier picks one record of
the table, and an update turns just this one into the record of the changed order. -/
theorem apply_write {tableRecords : String → List Sql.Record}
    (canWrite : CanWrite change record records) (once : (records.map (·.id)).Nodup)
    (holds : tableRecords table = records.map Record.row) (moment : Instant) :
    (write change record moment).apply tableRecords table =
      (written change record records).map Record.row := by
  cases change with
  | added => rw [write, Write.apply_insert, holds, written, List.map_append]; rfl
  | modified =>
    obtain ⟨old, member, origin⟩ := canWrite
    rw [write, Write.apply_update, holds, written, List.map_map, List.map_map]
    refine List.map_congr_left fun other among => ?_
    dsimp only [Function.comp]
    rw [holds_id rfl]
    by_cases same : other.id = record.id
    · have only : other = old :=
        List.inj_on_of_nodup_map once among member (same.trans origin.id.symm)
      rw [if_pos (beq_iff_eq.mpr same), if_pos same, only, assign_update origin]
    · rw [if_neg (by simpa using same), if_neg same]

/-- It leaves the other tables alone. -/
theorem apply_write_ne {tableRecords : String → List Sql.Record} {name : String}
    (other : name ≠ table) (moment : Instant) :
    (write change record moment).apply tableRecords name = tableRecords name := by
  cases change <;> exact if_neg other

/-- An identifier that no order has is no key of a record, so that an insert under it is not
refused. -/
theorem any_key_eq_false {rows : List Sql.Record} {id : Identifier}
    (holds : rows = records.map Record.row) (fresh : id ∉ records.map (·.id)) :
    (rows.any fun row => row Sql.keyColumn = .id id) = false := by
  rw [holds, List.any_map, List.any_eq_false]
  intro old member taken
  refine fresh (List.mem_map.mpr ⟨old, member, ?_⟩)
  simpa [Record.row_key] using taken

/-- The statement that writes an order affects one row. An insert finds its key free, and an update
finds the one record of the origin. -/
theorem run_write (scan : Scan) (canWrite : CanWrite change record records)
    (once : (records.map (·.id)).Nodup) (holds : tables.seen route table = records.map Record.row) :
    tables.run scan route (Query.write change record) =
      (.ok (.affected 1), (tables.count (Query.write change record).command).write route
        (write change record (tables.clock tables.readings))) := by
  cases change with
  | added =>
    have free := any_key_eq_false holds canWrite
    change (if (tables.seen route table).any (fun row => row Sql.keyColumn = .id record.id) = true
      then _ else _) = _
    rw [free]
    rfl
  | modified =>
    obtain ⟨old, member, origin⟩ := canWrite
    have one : (tables.seen route table).countP
        (fun row => [Sql.Condition.equals Column.id 1].all (·.holds (Query.update record) row)) =
          1 := by
      have found := recordOf?_of_mem once member
      rw [origin.id] at found
      rw [holds, List.countP_map]
      calc records.countP _
        _ = records.countP (·.id == record.id) := by
          refine List.countP_congr fun other _ => ?_
          rw [Function.comp, holds_id rfl]
        _ = 1 := by
          rw [List.countP_eq_length_filter, filter_id_eq once, found]
          rfl
    exact Prod.ext (congrArg (fun count => Except.ok (Sql.Reply.affected (.ofNat count))) one) rfl

/-- The statement that writes an order at a positive total violates no constraint: all columns that
must hold something do, and an update leaves the total as it was. -/
theorem violates_write (canWrite : CanWrite change record records)
    (once : (records.map (·.id)).Nodup) (holds : tables.seen route table = records.map Record.row)
    (positive : 0 < record.totalCents) :
    tables.violates allows route (Query.write change record) = false := by
  cases change with
  | added =>
    change (!allows table record.row) = false
    rw [allows_row positive]
    rfl
  | modified =>
    obtain ⟨old, member, origin⟩ := canWrite
    change ((tables.seen route table).any fun row =>
      [Sql.Condition.equals Column.id 1].all (·.holds (Query.update record) row) &&
        !allows table (row.assign (Query.update record) (tables.clock tables.readings)
          assignments)) = false
    rw [holds, List.any_map, List.any_eq_false]
    intro other among
    rw [Function.comp, holds_id rfl, Bool.and_eq_true, not_and]
    intro same
    have only : other = old :=
      List.inj_on_of_nodup_map once among member ((eq_of_beq same).trans origin.id.symm)
    rw [only, assign_update origin, allows_row positive]
    decide

/-- The query that looks for an order finds it as it is written in the list, and answers with no row
if it is not there. The order of rows plays no part, as at most one of them has the key. -/
theorem run_find (scan : Scan) (once : (records.map (·.id)).Nodup)
    (holds : tables.records table = records.map Record.row) (id : Identifier) :
    (tables.run scan .pool (Query.find id)).1 =
      .ok (.rows ((recordOf? id records).toList.map fun record => columns.map record.row)) := by
  have found : Tables.found scan (Query.find id) [.equals Column.id 1] none tables.statements
      (tables.records table) = (recordOf? id records).toList.map Record.row := by
    have eligible : ((scan.order tables.statements (tables.records table)).filter fun row =>
        [Sql.Condition.equals Column.id 1].all (·.holds (Query.find id) row)).Perm
          ((recordOf? id records).toList.map Record.row) := by
      refine ((scan.perm _ _).filter _).trans (List.Perm.of_eq ?_)
      rw [holds, List.filter_map, ← filter_id_eq once]
      refine congrArg _ (List.filter_congr fun record _ => ?_)
      rw [Function.comp, holds_id rfl]
    cases there : recordOf? id records with
    | none =>
      rw [there] at eligible
      exact List.perm_nil.mp eligible
    | some record =>
      rw [there] at eligible
      exact List.perm_singleton.mp eligible
  change Except.ok (Sql.Reply.rows ((Tables.found scan (Query.find id) [.equals Column.id 1] none
    tables.statements (tables.records table)).map _)) = _
  rw [found, List.map_map]
  rfl

end

end OutboxRelay.Order

import OutboxRelay.Order.Memory
import OutboxRelay.Proofs.Instant.Reading
import OutboxRelay.Proofs.Json.Decode

/-!
# Stored orders read back

The row of an order is decoded as that order. A total has to be a word of sixty-four bits and the
times of the audit fields have to be instants that a clock can show, as they are wherever an order
comes from. One such place is a row: whatever is decoded from it can be stored again, however
foreign the row is, and gives the same order.

A row that gives no order is corrupt, in one of two ways that are reported under different names.
-/

namespace OutboxRelay.Order

open Outbox (Memory)

/-- What the fields of a stored order can hold. Texts may be anything; only the total and the times
have forms that not every value of their types can take. -/
structure Record.IsStorable (record : Record) : Prop where
  total : (Text.IntegerBounds.signed 64).admits record.totalCents = true
  createdOn : ∀ instant ∈ record.createdOn, instant.IsValid
  modifiedOn : ∀ instant ∈ record.modifiedOn, instant.IsValid

namespace Record

theorem decode_ofOption_instant {instant? : Option Instant}
    (valid : ∀ instant ∈ instant?, instant.IsValid) :
    Json.Decoder.instant.optional (Json.ofOption (.text ·.toText) instant?) = .ok instant? :=
  Json.decode_ofOption (fun instant member => Json.decode_instant (valid instant member))
    fun _ => Json.noConfusion

/-- No name is given twice in the row of an order, so that every field is found under its name. -/
theorem nodup_fields (record : Record) : (record.fields.map Prod.fst).Nodup := by
  have names : record.fields.map Prod.fst = ["id", "customer_id", "total_cents", "status",
    "cancel_reason", "created_by", "created_on", "modified_by", "modified_on"] := rfl
  rw [names]
  decide

/-- Every field passes its own check, and none is left out. The cases are the nine fields in the
order of declaration. -/
theorem accepts_fields {record : Record} (storable : record.IsStorable) :
    List.Forall₂ Json.FieldRule.Accepts rules record.fields := by
  refine .cons ?_ (.cons ?_ (.cons ?_ (.cons ?_ (.cons ?_ (.cons ?_ (.cons ?_ (.cons ?_
    (.cons ?_ .nil))))))))
  · exact Json.accepts_required _ (Json.decode_identifier record.id)
  · exact Json.accepts_required _ rfl
  · exact Json.accepts_required _ (Json.decode_integer64 storable.total)
  · exact Json.accepts_required _ rfl
  · exact Json.accepts_optional _ (Json.decode_ofOption_text record.cancelReason)
  · exact Json.accepts_optional _ (Json.decode_ofOption_text record.createdBy)
  · exact Json.accepts_optional _ (decode_ofOption_instant storable.createdOn)
  · exact Json.accepts_optional _ (Json.decode_ofOption_text record.modifiedBy)
  · exact Json.accepts_optional _ (decode_ofOption_instant storable.modifiedOn)

/-- A stored order is read back from its row, field by field: the row passes the checks of all
fields, and each field is decoded as what was written for it. -/
theorem ofJson_toJson {record : Record} (storable : record.IsStorable) :
    ofJson record.toJson = .ok record := by
  have once := nodup_fields record
  rw [ofJson, toJson, Json.recordFields_of_accepts _ (accepts_fields storable) once]
  simp only [bind, Except.bind,
    Json.requiredField_ofList once "id" _ rfl (Json.decode_identifier record.id),
    Json.requiredField_ofList once "customer_id" Json.Decoder.text rfl rfl,
    Json.requiredField_ofList once "total_cents" _ rfl (Json.decode_integer64 storable.total),
    Json.requiredField_ofList once "status" Json.Decoder.text rfl rfl,
    Json.optionalField_ofList once "cancel_reason" _ rfl
      (Json.decode_ofOption_text record.cancelReason),
    Json.optionalField_ofList once "created_by" _ rfl (Json.decode_ofOption_text record.createdBy),
    Json.optionalField_ofList once "created_on" _ rfl (decode_ofOption_instant storable.createdOn),
    Json.optionalField_ofList once "modified_by" _ rfl
      (Json.decode_ofOption_text record.modifiedBy),
    Json.optionalField_ofList once "modified_on" _ rfl
      (decode_ofOption_instant storable.modifiedOn)]
  rfl

/-- Whatever is decoded from a row, an object or an array, can be stored. A total was decoded as a
word of sixty-four bits, and a time was read from a text, so that both can be written again. -/
theorem isStorable_of_ofJson {row : Json} {record : Record} (decoded : ofJson row = .ok record) :
    record.IsStorable := by
  have valid {name : String} {fields : List (String × Json)} {instant? : Option Instant}
      (read : Json.optionalField name Json.Decoder.instant fields = .ok instant?) :
      ∀ instant ∈ instant?, instant.IsValid := by
    rintro instant ⟨⟩
    obtain ⟨value, denoted⟩ := Json.exists_of_optionalField read
    obtain ⟨written, _, back⟩ := Json.exists_of_decode_instant denoted
    exact Instant.isValid_of_ofText back
  rw [ofJson] at decoded
  obtain ⟨fields, _, decoded⟩ := bind_eq_ok_iff.mp decoded
  obtain ⟨_, _, decoded⟩ := bind_eq_ok_iff.mp decoded
  obtain ⟨_, _, decoded⟩ := bind_eq_ok_iff.mp decoded
  obtain ⟨total, totalRead, decoded⟩ := bind_eq_ok_iff.mp decoded
  obtain ⟨_, _, decoded⟩ := bind_eq_ok_iff.mp decoded
  obtain ⟨_, _, decoded⟩ := bind_eq_ok_iff.mp decoded
  obtain ⟨_, _, decoded⟩ := bind_eq_ok_iff.mp decoded
  obtain ⟨createdOn, createdRead, decoded⟩ := bind_eq_ok_iff.mp decoded
  obtain ⟨_, _, decoded⟩ := bind_eq_ok_iff.mp decoded
  obtain ⟨modifiedOn, modifiedRead, decoded⟩ := bind_eq_ok_iff.mp decoded
  obtain ⟨value, _, denoted⟩ := Json.lookup_of_requiredField totalRead
  cases decoded
  exact ⟨Json.admits_of_decode_integer denoted, valid createdRead, valid modifiedRead⟩

end Record

/-! ### Orders of rows -/

section

variable {id : Identifier} {row : Json} {record : Record} {order : Order}

theorem Status.name_of_ofName? {name : String} {status : Status}
    (known : ofName? name = some status) : status.name = name := by
  unfold ofName? at known
  split at known
  · next same =>
    cases known
    exact same.symm
  · split at known
    · next same =>
      cases known
      exact same.symm
    · cases known

/-- A stored order is the one of the order that it gives, which has no events pending. Nothing of a
row is lost in between, since every known status has one name. -/
theorem toRecord_of_toOrder (restored : record.toOrder = .ok order) :
    order.toRecord = record ∧ order.pending = [] := by
  unfold Record.toOrder at restored
  split at restored
  · cases restored
  · next status known =>
    cases restored
    exact ⟨by simp [toRecord, Status.name_of_ofName? known], rfl⟩

/-- The row of an order gives the order back, without its pending events, whatever identifier it is
found under. -/
theorem ofRow_toJson (id : Identifier) (storable : order.toRecord.IsStorable) :
    ofRow id order.toRecord.toJson = .ok order.clearPending := by
  rw [ofRow, Record.ofJson_toJson storable]
  exact toOrder_toRecord order

theorem clearPending_of_settled (settled : order.pending = []) : order.clearPending = order := by
  rw [clearPending, ← settled]

/-- The order of a row is the one of the record that the row is decoded as, so that a foreign row
says as much of its order as a row of the service. -/
theorem ofJson_of_ofRow (accepted : ofRow id row = .ok order) :
    Record.ofJson row = .ok order.toRecord ∧ order.pending = [] := by
  unfold ofRow at accepted
  split at accepted
  · cases accepted
  · next record decoded =>
    obtain ⟨same, settled⟩ := toRecord_of_toOrder accepted
    exact ⟨same ▸ decoded, settled⟩

/-- The order of a row has a row of its own, which is decoded as the same order. The two rows need
not be equal: the one that was found may be an array, or have its fields in another order. -/
theorem reencoded_of_ofRow (accepted : ofRow id row = .ok order) :
    Record.ofJson order.toRecord.toJson = .ok order.toRecord ∧
      order.toRecord.toOrder = .ok order := by
  obtain ⟨decoded, settled⟩ := ofJson_of_ofRow accepted
  refine ⟨Record.ofJson_toJson (Record.isStorable_of_ofJson decoded), ?_⟩
  rw [toOrder_toRecord, clearPending_of_settled settled]

/-- What is wrong with a row that is no order, and under which name that is reported: a row that
cannot be decoded under the identifier that was asked for, one whose status has no known name under
its own. -/
inductive Corrupt (id : Identifier) (row : Json) : String → String → Prop where
  | undecodable {fault : Json.DecodeError} (failed : Record.ofJson row = .error fault) :
    Corrupt id row id.toText fault.message
  | unknownStatus {record : Record} (decoded : Record.ofJson row = .ok record)
    (unknown : Status.ofName? record.status = none) :
    Corrupt id row record.id.toText (Status.unknownText record.status)

/-- A row that is decoded as a stored order whose status has a known name. -/
def IsOrder (row : Json) : Prop :=
  ∃ record status, Record.ofJson row = .ok record ∧ Status.ofName? record.status = some status

/-- Whatever gives an order is one. -/
theorem isOrder_of_ofRow (accepted : ofRow id row = .ok order) : IsOrder row :=
  ⟨order.toRecord, order.status, (ofJson_of_ofRow accepted).1, Status.ofName?_name order.status⟩

/-- A row gives no order exactly if it is corrupt, and the report says how: with the fault of the
decoder, or with the status that is not known. -/
theorem ofRow_eq_error_iff {error : Error} : ofRow id row = .error error ↔
    ∃ name reason, Corrupt id row name reason ∧ error = .corruptRecord name reason := by
  constructor
  · intro failed
    unfold ofRow at failed
    split at failed
    · next fault undecoded =>
      cases failed
      exact ⟨_, _, .undecodable undecoded, rfl⟩
    · next record decoded =>
      unfold Record.toOrder at failed
      split at failed
      · next unknown =>
        cases failed
        exact ⟨_, _, .unknownStatus decoded unknown, rfl⟩
      · cases failed
  · rintro ⟨name, reason, corrupt, rfl⟩
    cases corrupt with
    | undecodable undecoded => simp [ofRow, undecoded]
    | unknownStatus decoded unknown => simp [ofRow, decoded, Record.toOrder, unknown]

/-- A row is corrupt exactly if it is no order, so that every row is one or the other. -/
theorem exists_corrupt_iff : (∃ name reason, Corrupt id row name reason) ↔ ¬IsOrder row := by
  constructor
  · rintro ⟨name, reason, corrupt⟩ ⟨record, status, decoded, known⟩
    cases corrupt with
    | undecodable undecoded => simp [decoded] at undecoded
    | unknownStatus other unknown =>
      rw [decoded] at other
      cases other
      simp [known] at unknown
  · intro foreign
    cases decoded : Record.ofJson row with
    | error fault => exact ⟨_, _, .undecodable decoded⟩
    | ok record =>
      cases known : Status.ofName? record.status with
      | none => exact ⟨_, _, .unknownStatus decoded known⟩
      | some status => exact absurd ⟨record, status, decoded, known⟩ foreign

/-! ### Finding -/

variable {memory : Memory}

/-- What is found under a key is the order of the row there, or the report of what is wrong with
it. -/
theorem findIn_row (stands : memory.rows table id.toText = some row) :
    findIn memory id = (ofRow id row).map some := by
  rw [findIn, stands]

/-- An order that is found is the order of a row, since there is nothing else to find it in. -/
theorem exists_row_of_findIn (found : findIn memory id = .ok (some order)) :
    ∃ row, memory.rows table id.toText = some row ∧ ofRow id row = .ok order := by
  cases stands : memory.rows table id.toText with
  | none =>
    rw [findIn, stands] at found
    cases found
  | some row =>
    rw [findIn_row stands] at found
    cases read : ofRow id row with
    | error error =>
      rw [read] at found
      cases found
    | ok other =>
      rw [read] at found
      cases found
      exact ⟨row, rfl, read⟩

/-- A row under a key is either an order, which is found, or corrupt, which is reported under the
name that its fault calls for. -/
theorem findIn_row_cases (stands : memory.rows table id.toText = some row) :
    (IsOrder row ∧ ∃ order, findIn memory id = .ok (some order)) ∨
      (¬IsOrder row ∧ ∃ name reason, Corrupt id row name reason ∧
        findIn memory id = .error (.corruptRecord name reason)) := by
  rw [findIn_row stands]
  cases read : ofRow id row with
  | ok order => exact Or.inl ⟨isOrder_of_ofRow read, order, rfl⟩
  | error error =>
    obtain ⟨name, reason, corrupt, rfl⟩ := ofRow_eq_error_iff.mp read
    exact Or.inr ⟨exists_corrupt_iff.mp ⟨name, reason, corrupt⟩, name, reason, corrupt, rfl⟩

end

end OutboxRelay.Order

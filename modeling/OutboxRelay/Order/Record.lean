import OutboxRelay.Instant.Printer
import OutboxRelay.Order.Basic

/-!
# Stored orders

The stored form of an order: one row of nine fields, the same for every backend. Pending events are
no part of it. A row is turned back into an order unless its status has no known name.
-/

namespace OutboxRelay.Order

/-- A stored order. Its status is a text, because a stored row may hold any. -/
structure Record where
  id : Identifier
  customerId : String
  totalCents : Int
  status : String
  cancelReason : Option String
  createdBy : Option String
  createdOn : Option Instant
  modifiedBy : Option String
  modifiedOn : Option Instant
deriving DecidableEq, Inhabited

/-- The table that orders are stored in. -/
def table : String := "orders"

/-- The row of an order. -/
def toRecord (order : Order) : Record where
  id := order.id
  customerId := order.customerId
  totalCents := order.totalCents
  status := order.status.name
  cancelReason := order.cancelReason
  createdBy := order.audit.createdBy
  createdOn := order.audit.createdOn
  modifiedBy := order.audit.modifiedBy
  modifiedOn := order.audit.modifiedOn

namespace Record

/-- The order of a row, without pending events. Of the texts only the status can be wrong. -/
def toOrder (record : Record) : Except Error Order :=
  match Status.ofName? record.status with
  | none => .error (.corruptRecord record.id.toText (Status.unknownText record.status))
  | some status =>
    .ok {
      id := record.id
      customerId := record.customerId
      totalCents := record.totalCents
      status
      cancelReason := record.cancelReason
      audit := ⟨record.createdBy, record.createdOn, record.modifiedBy, record.modifiedOn⟩
      pending := [] }

/-- The fields of a row in the order of declaration; an absent value is written as null. -/
def fields (record : Record) : List (String × Json) := [
  ("id", .text record.id.toText),
  ("customer_id", .text record.customerId),
  ("total_cents", .integer record.totalCents),
  ("status", .text record.status),
  ("cancel_reason", .ofOption .text record.cancelReason),
  ("created_by", .ofOption .text record.createdBy),
  ("created_on", .ofOption (.text ·.toText) record.createdOn),
  ("modified_by", .ofOption .text record.modifiedBy),
  ("modified_on", .ofOption (.text ·.toText) record.modifiedOn)]

/-- The row as a JSON object. -/
def toJson (record : Record) : Json :=
  .ofFields record.fields

/-- What a JSON row must look like. An optional field may be absent or null. -/
def rules : List Json.FieldRule := [
  .required "id" Json.Decoder.identifier,
  .required "customer_id" Json.Decoder.text,
  .required "total_cents" Json.Decoder.integer64,
  .required "status" Json.Decoder.text,
  .optional "cancel_reason" Json.Decoder.text,
  .optional "created_by" Json.Decoder.text,
  .optional "created_on" Json.Decoder.instant,
  .optional "modified_by" Json.Decoder.text,
  .optional "modified_on" Json.Decoder.instant]

/-- Decode a JSON row. -/
def ofJson : Json.Decoder Record := fun value => do
  let fields ← Json.recordFields "struct OrderRecord" rules value
  return {
    id := ← Json.requiredField "id" Json.Decoder.identifier fields
    customerId := ← Json.requiredField "customer_id" Json.Decoder.text fields
    totalCents := ← Json.requiredField "total_cents" Json.Decoder.integer64 fields
    status := ← Json.requiredField "status" Json.Decoder.text fields
    cancelReason := ← Json.optionalField "cancel_reason" Json.Decoder.text fields
    createdBy := ← Json.optionalField "created_by" Json.Decoder.text fields
    createdOn := ← Json.optionalField "created_on" Json.Decoder.instant fields
    modifiedBy := ← Json.optionalField "modified_by" Json.Decoder.text fields
    modifiedOn := ← Json.optionalField "modified_on" Json.Decoder.instant fields }

end Record

/-- A row gives back the order that it was made from, without its pending events. -/
theorem toOrder_toRecord (order : Order) : order.toRecord.toOrder = .ok order.clearPending := by
  simp [toRecord, Record.toOrder, clearPending]

end OutboxRelay.Order

import OutboxRelay.Json.Decode

/-!
# Order status

The status of an order and its names. The name is the only written form; a JSON value may also give
it as the single key of an object whose value is null.
-/

namespace OutboxRelay.Order

/-- Whether an order still stands. A cancelled order is never placed again. -/
inductive Status where
  | placed
  | cancelled
deriving DecidableEq, Repr, Inhabited

namespace Status

/-- The name of a status. -/
def name : Status → String
  | placed => "placed"
  | cancelled => "cancelled"

/-- The status of a name. Names are compared as they are, capitals included. -/
def ofName? (name : String) : Option Status :=
  if name = placed.name then some placed
  else if name = cancelled.name then some cancelled
  else none

/-- How an error says that a name is none of a status. -/
def unknownText (name : String) : String :=
  "unknown order status: " ++ name

/-- The status of a name that JSON gives. -/
def ofVariant (name : String) : Except Json.DecodeError Status :=
  match ofName? name with
  | some status => .ok status
  | none => .error (.unknownVariant name "`placed` or `cancelled`")

/-- Decode a JSON status. -/
def ofJson : Json.Decoder Status
  | .text name => ofVariant name
  | .object [(name, value)] => do
    let status ← ofVariant name
    match value with
    | .null => return status
    | other => throw (.invalidType other "unit")
  | .object _ => .error .ambiguousVariant
  | other => .error (.invalidType other "string or map")

/-- A name is read back as the status that it was written for. -/
@[simp] theorem ofName?_name (status : Status) : ofName? status.name = some status := by
  cases status <;> rfl

end Status

end OutboxRelay.Order

import OutboxRelay.Fields
import OutboxRelay.Json.Number

/-!
# JSON values

JSON values. Whole numbers and numbers with a fraction are kept apart, because a field of integers
accepts only the former. An object built with `Json.ofFields` lists its keys in ascending order,
each key once with the value given last; such objects are what the library stores, compares and
prints.
-/

namespace OutboxRelay

/-- A JSON value. -/
inductive Json where
  | null
  | bool (value : Bool)
  | integer (value : Int)
  | fraction (value : Json.Decimal)
  | text (value : String)
  | array (elements : List Json)
  | object (fields : List (String × Json))
deriving Inhabited

namespace Json

variable {α : Type}

/-- The object with these fields, in the order of their keys. -/
def ofFields (fields : List (String × Json)) : Json :=
  object (Fields.ofList fields)

/-- The value under a key; a value that is no object has none. -/
def get? (key : String) : Json → Option Json
  | object fields => fields.lookup key
  | _ => none

/-- The text, if the value is one. -/
def text? : Json → Option String
  | text value => some value
  | _ => none

/-- An optional value, absent as null. -/
def ofOption (encode : α → Json) : Option α → Json
  | some value => encode value
  | none => null

/-- A field written only if its value is present. -/
def presentField (key : String) (encode : α → Json) : Option α → List (String × Json)
  | some value => [(key, encode value)]
  | none => []

end Json

end OutboxRelay

import OutboxRelay.Json.Basic
import OutboxRelay.Identifier
import OutboxRelay.Instant.Reader
import OutboxRelay.Text.Quoted

/-!
# Decoding JSON

Decoding JSON values into typed data. A decoder either gives the value or the first fault. A record
is read from an object or, position by position, from an array. In an object the fields are visited
in the order of their keys, so the first bad one in that order is reported; only then are missing
fields reported, in the order in which the record declares them. Unknown keys are ignored.
-/

namespace OutboxRelay.Json

variable {α : Type}

/-- Why a value cannot be decoded. -/
inductive DecodeError where
  /-- A required field is absent. -/
  | missingField (name : String)
  /-- A value of another kind stands where `expected` should. -/
  | invalidType (found : Json) (expected : String)
  /-- An integer does not fit its type. -/
  | invalidValue (found : Int) (expected : String)
  /-- An array has too few or too many elements. -/
  | invalidLength (length : Nat) (expected : String)
  /-- A text names no case of an enumeration. -/
  | unknownVariant (name : String) (expected : String)
  /-- An object that names a case of an enumeration must have exactly one key. -/
  | ambiguousVariant
  /-- A text is no identifier. -/
  | notAnIdentifier
  /-- A text is no instant. -/
  | notAnInstant (fault : Instant.ReadError)

/-- How an error names the value that it found. -/
def describe : Json → String
  | null => "null"
  | bool true => "boolean `true`"
  | bool false => "boolean `false`"
  | integer value => s!"integer `{value}`"
  | fraction value => s!"floating point `{String.ofList value.characters}`"
  | text value => s!"string {Text.quoted value}"
  | array _ => "sequence"
  | object _ => "map"

/-- The wording of a fault. -/
def DecodeError.message : DecodeError → String
  | missingField name => s!"missing field `{name}`"
  | invalidType found expected => s!"invalid type: {describe found}, expected {expected}"
  | invalidValue found expected => s!"invalid value: integer `{found}`, expected {expected}"
  | invalidLength length expected => s!"invalid length {length}, expected {expected}"
  | unknownVariant name expected => s!"unknown variant `{name}`, expected {expected}"
  | ambiguousVariant => "invalid value: map, expected map with a single key"
  | notAnIdentifier => "UUID parsing failed"
  | notAnInstant fault => fault.message

/-- A decoder of values of one type. -/
abbrev Decoder (α : Type) := Json → Except DecodeError α

namespace Decoder

/-- A text. -/
def text : Decoder String
  | .text value => .ok value
  | other => .error (.invalidType other "a string")

/-- An integer within bounds; `expected` names its type in errors. -/
def integer (bounds : Text.IntegerBounds) (expected : String) : Decoder Int
  | .integer value =>
    if bounds.admits value then .ok value else .error (.invalidValue value expected)
  | other => .error (.invalidType other expected)

/-- A signed integer of 32 bits. -/
def integer32 : Decoder Int :=
  integer (.signed 32) "i32"

/-- A signed integer of 64 bits. -/
def integer64 : Decoder Int :=
  integer (.signed 64) "i64"

/-- An identifier in any of its forms. -/
def identifier : Decoder Identifier
  | .text value =>
    match Identifier.ofText? value with
    | some id => .ok id
    | none => .error .notAnIdentifier
  | other => .error (.invalidType other "a formatted UUID string")

/-- An instant. -/
def instant : Decoder Instant
  | .text value =>
    match Instant.ofText value with
    | .ok instant => .ok instant
    | .error fault => .error (.notAnInstant fault)
  | other => .error (.invalidType other "an RFC 3339 formatted date and time string")

/-- An optional value, absent as null. -/
def optional (decode : Decoder α) : Decoder (Option α)
  | .null => .ok none
  | value => (decode value).map some

/-- Any value. -/
def any : Decoder Json := .ok

end Decoder

/-- What a record demands of one field. -/
structure FieldRule where
  name : String
  mandatory : Bool
  check : Decoder Unit

namespace FieldRule

/-- A field that has to be there. -/
def required (name : String) (decode : Decoder α) : FieldRule :=
  ⟨name, true, fun value => (decode value).map fun _ => ()⟩

/-- A field that may be absent or null. -/
def optional (name : String) (decode : Decoder α) : FieldRule :=
  ⟨name, false, fun value => (decode.optional value).map fun _ => ()⟩

end FieldRule

/-- Check one visited field against the rules of the record. -/
def checkField (rules : List FieldRule) (field : String × Json) : Except DecodeError Unit :=
  match rules.find? fun rule => rule.name == field.1 with
  | some rule => rule.check field.2
  | none => .ok ()

/-- Report the first required field that is absent. -/
def checkPresence (rules : List FieldRule) (fields : List (String × Json)) :
    Except DecodeError Unit :=
  match rules.find? fun rule => rule.mandatory && (fields.lookup rule.name).isNone with
  | some rule => .error (.missingField rule.name)
  | none => .ok ()

/-- The checked fields of a record; `shape` names it in errors. -/
def recordFields (shape : String) (rules : List FieldRule) :
    Json → Except DecodeError (List (String × Json))
  | object fields => do
    fields.forM (checkField rules)
    checkPresence rules fields
    return fields
  | array elements => do
    let fields := (rules.map (·.name)).zip elements
    fields.forM (checkField rules)
    if elements.length < rules.length then
      throw (.invalidLength elements.length s!"{shape} with {rules.length} elements")
    if rules.length < elements.length then
      throw (.invalidLength elements.length "fewer elements in array")
    return fields
  | other => .error (.invalidType other shape)

/-- Decode a required field of a record. -/
def requiredField (name : String) (decode : Decoder α) (fields : List (String × Json)) :
    Except DecodeError α :=
  match fields.lookup name with
  | some value => decode value
  | none => .error (.missingField name)

/-- Decode a field that may be absent or null. -/
def optionalField (name : String) (decode : Decoder α) (fields : List (String × Json)) :
    Except DecodeError (Option α) :=
  match fields.lookup name with
  | some value => decode.optional value
  | none => .ok none

end OutboxRelay.Json

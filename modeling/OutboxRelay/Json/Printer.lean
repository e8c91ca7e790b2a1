import OutboxRelay.Json.Basic

/-!
# Written JSON

The compact text of a JSON value: no blanks, fields in the order in which the object lists them.
In a text only the quote, the backslash and the control characters below the space are escaped;
five of the latter have a letter of their own, the rest are written by code point.
-/

namespace OutboxRelay.Json

/-- A digit of a code point in lower-case hexadecimal. -/
def hexDigit (n : Nat) : Char :=
  Nat.digitChar (n % 16)

/-- One character inside the quotes of a text. -/
def escapeCharacter (c : Char) : List Char :=
  if c = '"' then ['\\', '"']
  else if c = '\\' then ['\\', '\\']
  else if c = '\x08' then ['\\', 'b']
  else if c = '\x0c' then ['\\', 'f']
  else if c = '\n' then ['\\', 'n']
  else if c = '\r' then ['\\', 'r']
  else if c = '\t' then ['\\', 't']
  else if c.toNat < 0x20 then
    ['\\', 'u', '0', '0', hexDigit (c.toNat / 16), hexDigit c.toNat]
  else [c]

/-- A text between its quotes. -/
def textCharacters (text : String) : List Char :=
  '"' :: text.toList.flatMap escapeCharacter ++ ['"']

mutual

/-- The characters of a value. -/
def characters : Json → List Char
  | null => ['n', 'u', 'l', 'l']
  | bool true => ['t', 'r', 'u', 'e']
  | bool false => ['f', 'a', 'l', 's', 'e']
  | integer value => (toString value).toList
  | fraction value => value.characters
  | text value => textCharacters value
  | array elements => '[' :: elementCharacters elements ++ [']']
  | object fields => '\x7b' :: fieldCharacters fields ++ ['\x7d']

/-- The elements of an array, parted by commas. -/
def elementCharacters : List Json → List Char
  | [] => []
  | [element] => characters element
  | element :: rest => characters element ++ ',' :: elementCharacters rest

/-- The fields of an object, parted by commas. -/
def fieldCharacters : List (String × Json) → List Char
  | [] => []
  | [(key, value)] => textCharacters key ++ ':' :: characters value
  | (key, value) :: rest =>
    textCharacters key ++ ':' :: characters value ++ ',' :: fieldCharacters rest

end

/-- The value as text. -/
def compact (value : Json) : String :=
  String.ofList value.characters

end OutboxRelay.Json

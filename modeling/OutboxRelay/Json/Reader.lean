import OutboxRelay.Json.Basic
import OutboxRelay.Identifier
import OutboxRelay.Text.Digits

/-!
# Reading JSON

Reading a JSON text. A text holds one value, blanks around it and around every part allowed.
Objects come out with their keys in order; of a repeated key the last value counts. A number
without fraction and exponent is whole if it fits sixty-four bits with or without sign, and a
number with a fraction otherwise. The fuel of the recursive reader counts the characters that are
left, so that it never ends the reading of a text.
-/

namespace OutboxRelay.Json

/-- The blanks of the format. -/
def isSpace (c : Char) : Bool :=
  c == ' ' || c == '\t' || c == '\n' || c == '\r'

/-- Skip blanks. -/
def skipSpace (characters : List Char) : List Char :=
  characters.dropWhile isSpace

/-- Four hexadecimal digits and what follows them. -/
def readUnit? : List Char → Option (Nat × List Char)
  | a :: b :: c :: d :: rest => (Identifier.hexAfter? 0 [a, b, c, d]).map (·, rest)
  | _ => none

/-- A character given by its code point, a surrogate only together with its partner. -/
def readCodePoint? (characters : List Char) : Option (Char × List Char) := do
  let (unit, rest) ← readUnit? characters
  if unit < 0xd800 ∨ 0xdfff < unit then return (Char.ofNat unit, rest)
  guard (unit < 0xdc00)
  match rest with
  | '\\' :: 'u' :: more =>
    let (low, rest) ← readUnit? more
    guard (0xdc00 ≤ low ∧ low ≤ 0xdfff)
    return (Char.ofNat (0x10000 + (unit - 0xd800) * 0x400 + (low - 0xdc00)), rest)
  | _ => none

/-- The character behind a backslash, if it is one of those with a letter. -/
def escaped? : Char → Option Char
  | '"' => some '"'
  | '\\' => some '\\'
  | '/' => some '/'
  | 'b' => some '\x08'
  | 'f' => some '\x0c'
  | 'n' => some '\n'
  | 'r' => some '\r'
  | 't' => some '\t'
  | _ => none

/-- The rest of a text behind its opening quote; the part already read is given in reverse. -/
def readText? : Nat → List Char → List Char → Option (String × List Char)
  | 0, _, _ => none
  | _ + 1, read, '"' :: rest => some (String.ofList read.reverse, rest)
  | fuel + 1, read, '\\' :: 'u' :: rest => do
    let (c, rest) ← readCodePoint? rest
    readText? fuel (c :: read) rest
  | fuel + 1, read, '\\' :: letter :: rest => do
    let c ← escaped? letter
    readText? fuel (c :: read) rest
  | fuel + 1, read, c :: rest =>
    if c.toNat < 0x20 ∨ c = '\\' then none else readText? fuel (c :: read) rest
  | _ + 1, _, [] => none

/-- The digits in front of a text and what follows them. -/
def spanDigits (characters : List Char) : List Char × List Char :=
  characters.span fun c => (Text.digitValue? c).isSome

/-- The exponent of a number, zero if none is written. -/
def readExponent? : List Char → Option (Bool × Int × List Char)
  | e :: rest =>
    if e = 'e' ∨ e = 'E' then
      let (negative, rest) := match rest with
        | '-' :: rest => (true, rest)
        | '+' :: rest => (false, rest)
        | rest => (false, rest)
      let (digits, rest) := spanDigits rest
      (Text.digits? digits).map fun n =>
        (true, if negative then -Int.ofNat n else Int.ofNat n, rest)
    else some (false, 0, e :: rest)
  | [] => some (false, 0, [])

/-- The digits of a fraction, if a point introduces them. -/
def readFraction? : List Char → Option (Option (List Char) × List Char)
  | '.' :: rest =>
    let (digits, rest) := spanDigits rest
    if digits.isEmpty then none else some (some digits, rest)
  | rest => some (none, rest)

/-- Append digits to a number as long as it fits an unsigned word, and give back those that are
left. -/
def fittingDigits (value : Nat) : List Char → Nat × List Char
  | [] => (value, [])
  | c :: rest =>
    match (Text.digitValue? c).map (10 * value + ·) with
    | some longer =>
      if (Text.IntegerBounds.unsigned 64).admits longer then fittingDigits longer rest
      else (value, c :: rest)
    | none => (value, c :: rest)

/-- A number with a fraction or an exponent. Of its digits those count that fit an unsigned word:
a digit left over multiplies by ten in front of the point and is forgotten behind it. -/
def ofParts? (negative : Bool) (whole fractionDigits : List Char) (exponent : Int) :
    Option Json :=
  let (kept, dropped) := fittingDigits 0 whole
  let (coefficient, forgotten) := fittingDigits kept fractionDigits
  let read := fractionDigits.length - forgotten.length
  (Decimal.ofWritten? negative coefficient (exponent + dropped.length - read)).map fraction

/-- A whole number as a value: one that fits neither signed nor unsigned words, and the negative
zero, is kept as a number with a fraction. -/
def ofWhole? (negative : Bool) (digits : List Char) : Option Json := do
  let magnitude ← Text.digits? digits
  let value := if negative then -Int.ofNat magnitude else Int.ofNat magnitude
  let bounds := if negative then Text.IntegerBounds.signed 64 else Text.IntegerBounds.unsigned 64
  if bounds.admits value ∧ ¬(negative ∧ magnitude = 0) then return integer value
  else ofParts? negative digits [] 0

/-- A number in front of a text. -/
def readNumber? (characters : List Char) : Option (Json × List Char) := do
  let (negative, unsigned) := match characters with
    | '-' :: rest => (true, rest)
    | rest => (false, rest)
  let (whole, rest) := spanDigits unsigned
  guard (whole ≠ [] ∧ (whole.length = 1 ∨ whole.head? ≠ some '0'))
  let (fractionDigits, rest) ← readFraction? rest
  let (hasExponent, exponent, rest) ← readExponent? rest
  match fractionDigits, hasExponent with
  | none, false => (ofWhole? negative whole).map (·, rest)
  | digits, _ => (ofParts? negative whole (digits.getD []) exponent).map (·, rest)

mutual

/-- A value in front of a text. -/
def readValue? : Nat → List Char → Option (Json × List Char)
  | 0, _ => none
  | fuel + 1, characters =>
    match skipSpace characters with
    | 'n' :: 'u' :: 'l' :: 'l' :: rest => some (null, rest)
    | 't' :: 'r' :: 'u' :: 'e' :: rest => some (bool true, rest)
    | 'f' :: 'a' :: 'l' :: 's' :: 'e' :: rest => some (bool false, rest)
    | '"' :: rest => (readText? (rest.length + 1) [] rest).map fun (value, rest) =>
        (text value, rest)
    | '[' :: rest =>
      match skipSpace rest with
      | ']' :: rest => some (array [], rest)
      | rest => (readElements? fuel rest).map fun (elements, rest) => (array elements, rest)
    | '\x7b' :: rest =>
      match skipSpace rest with
      | '\x7d' :: rest => some (object [], rest)
      | rest => (readFields? fuel rest).map fun (fields, rest) => (ofFields fields, rest)
    | rest => readNumber? rest

/-- One or more elements up to the closing bracket. -/
def readElements? : Nat → List Char → Option (List Json × List Char)
  | 0, _ => none
  | fuel + 1, characters =>
    match readValue? fuel characters with
    | none => none
    | some (element, rest) =>
      match skipSpace rest with
      | ',' :: rest => (readElements? fuel rest).map fun (elements, rest) =>
          (element :: elements, rest)
      | ']' :: rest => some ([element], rest)
      | _ => none

/-- One or more fields up to the closing brace. -/
def readFields? : Nat → List Char → Option (List (String × Json) × List Char)
  | 0, _ => none
  | fuel + 1, characters =>
    match skipSpace characters with
    | '"' :: rest =>
      match readText? (rest.length + 1) [] rest with
      | none => none
      | some (key, rest) =>
        match skipSpace rest with
        | ':' :: rest =>
          match readValue? fuel rest with
          | none => none
          | some (value, rest) =>
            match skipSpace rest with
            | ',' :: rest => (readFields? fuel rest).map fun (fields, rest) =>
                ((key, value) :: fields, rest)
            | '\x7d' :: rest => some ([(key, value)], rest)
            | _ => none
        | _ => none
    | _ => none

end

/-- Read a text as one value. -/
def ofText? (text : String) : Option Json := do
  let characters := text.toList
  let (value, rest) ← readValue? (characters.length + 1) characters
  guard (skipSpace rest).isEmpty
  return value

end OutboxRelay.Json

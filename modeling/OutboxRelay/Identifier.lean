/-!
# Identifiers

Identifiers of 128 bits and their texts. An identifier is written as thirty-two lower-case
hexadecimal digits in groups of eight, four, four, four and twelve. Four forms are read back: the
bare digits, the grouped digits, and the grouped digits in braces or behind the URN namespace;
either case of letters is understood throughout, and nothing else is.
-/

namespace OutboxRelay

/-- An identifier, one of the `2 ^ 128` words. -/
structure Identifier where
  bits : BitVec 128
deriving DecidableEq, Inhabited

namespace Identifier

/-- The lowest `count` hexadecimal digits of a number, most significant first. -/
def hexDigits : Nat → Nat → List Char
  | 0, _ => []
  | count + 1, n => hexDigits count (n / 16) ++ [Nat.digitChar (n % 16)]

/-- The number that a hexadecimal digit stands for. -/
def hexValue? (c : Char) : Option Nat :=
  if '0' ≤ c ∧ c ≤ '9' then some (c.toNat - '0'.toNat)
  else if 'a' ≤ c ∧ c ≤ 'f' then some (c.toNat - 'a'.toNat + 10)
  else if 'A' ≤ c ∧ c ≤ 'F' then some (c.toNat - 'A'.toNat + 10)
  else none

/-- Append hexadecimal digits to a number read so far. -/
def hexAfter? (value : Nat) : List Char → Option Nat
  | [] => some value
  | c :: rest =>
    match hexValue? c with
    | some digit => hexAfter? (16 * value + digit) rest
    | none => none

/-- The sizes of the groups before the last one. -/
def groups : List Nat := [8, 4, 4, 4]

/-- Put a hyphen behind each group; what remains is the last group. -/
def hyphenate : List Nat → List Char → List Char
  | [], digits => digits
  | size :: sizes, digits => digits.take size ++ '-' :: hyphenate sizes (digits.drop size)

/-- Take the hyphens out again, provided that each stands where the groups put it. -/
def unhyphenate? : List Nat → List Char → Option (List Char)
  | [], digits => some digits
  | size :: sizes, characters =>
    match characters.drop size with
    | '-' :: rest => (unhyphenate? sizes rest).map (characters.take size ++ ·)
    | _ => none

/-- The identifier as text. -/
def toText (id : Identifier) : String :=
  String.ofList (hyphenate groups (hexDigits 32 id.bits.toNat))

instance : ToString Identifier := ⟨toText⟩

/-- Read exactly thirty-two digits. -/
def ofDigits? (digits : List Char) : Option Identifier :=
  if digits.length = 32 then (hexAfter? 0 digits).map fun n => ⟨BitVec.ofNat 128 n⟩ else none

/-- Read grouped digits. -/
def ofGroups? (characters : List Char) : Option Identifier :=
  (unhyphenate? groups characters).bind ofDigits?

/-- Read the inside of braces, given what stands behind the opening one. -/
def ofBraced? (characters : List Char) : Option Identifier :=
  match characters.reverse with
  | '}' :: inside => ofGroups? inside.reverse
  | _ => none

/-- The namespace of identifiers among uniform names. -/
def urn : List Char := "urn:uuid:".toList

/-- What stands behind the namespace, which may be written in either case of letters. -/
def dropUrn? (characters : List Char) : Option (List Char) :=
  if (characters.take urn.length).map Char.toLower = urn then some (characters.drop urn.length)
  else none

/-- Read an identifier in any of its four forms. -/
def ofText? (text : String) : Option Identifier :=
  match text.toList with
  | '{' :: rest => ofBraced? rest
  | characters =>
    match dropUrn? characters with
    | some rest => ofGroups? rest
    | none => if characters.length = 32 then ofDigits? characters else ofGroups? characters

/-- The written digits are as many as asked for. -/
theorem length_hexDigits (count n : Nat) : (hexDigits count n).length = count := by
  induction count generalizing n with
  | zero => rfl
  | succ count ih => simp [hexDigits, ih]

end Identifier

end OutboxRelay

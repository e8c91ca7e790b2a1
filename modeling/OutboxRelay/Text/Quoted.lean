import OutboxRelay.Text.Printable

/-!
# Quoted text

Quoted texts, the form in which an error names a value that it rejects. The value stands between
double quotes; a quote and a backslash get a backslash in front, the usual four control characters
their letter, every other invisible character its code point in lower-case hexadecimal between
braces. The apostrophe stands as it is. Between the outer quotes no quote stands without its
backslash.
-/

namespace OutboxRelay.Text

/-- The digits of a number in lower-case hexadecimal, without leading zeros. -/
def hexDigits (n : Nat) : List Char :=
  Nat.toDigits 16 n

/-- One character of a quoted text. -/
def escapeCharacter (c : Char) : List Char :=
  if c = '"' then ['\\', '"']
  else if c = '\\' then ['\\', '\\']
  else if c = '\x00' then ['\\', '0']
  else if c = '\t' then ['\\', 't']
  else if c = '\r' then ['\\', 'r']
  else if c = '\n' then ['\\', 'n']
  else if isPrintable c then [c]
  else ['\\', 'u', '\x7b'] ++ hexDigits c.toNat ++ ['\x7d']

/-- The text between double quotes, its invisible characters escaped. -/
def quoted (text : String) : String :=
  String.ofList ('"' :: text.toList.flatMap escapeCharacter ++ ['"'])

end OutboxRelay.Text

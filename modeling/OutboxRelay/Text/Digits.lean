/-!
# Decimal integers

Reading decimal integers. A number is one or more ASCII digits behind an optional sign; a plus
sign is always allowed, a minus sign only where negative values are. Leading zeros do not matter,
blanks are never skipped, and a value outside the bounds is refused rather than wrapped.
-/

namespace OutboxRelay.Text

/-- The value of a digit, and nothing for any other character. -/
def digitValue? (c : Char) : Option Nat :=
  if '0' ≤ c ∧ c ≤ '9' then some (c.toNat - '0'.toNat) else none

/-- Append the digits to a number read so far. -/
def digitsAfter? (value : Nat) : List Char → Option Nat
  | [] => some value
  | c :: rest =>
    match digitValue? c with
    | some digit => digitsAfter? (10 * value + digit) rest
    | none => none

/-- The number that one or more digits denote. -/
def digits? : List Char → Option Nat
  | [] => none
  | digits => digitsAfter? 0 digits

/-- Bounds of an integer variable. Negative values are written with a sign of their own, so the
lower bound decides whether a minus sign is understood at all. -/
structure IntegerBounds where
  least : Int
  greatest : Int

namespace IntegerBounds

/-- Unsigned integers of the given width. -/
def unsigned (width : Nat) : IntegerBounds := ⟨0, Int.ofNat (Nat.pow 2 width) - 1⟩

/-- Signed integers of the given width. -/
def signed (width : Nat) : IntegerBounds :=
  ⟨-Int.ofNat (Nat.pow 2 (width - 1)), Int.ofNat (Nat.pow 2 (width - 1)) - 1⟩

/-- Whether a value is within the bounds. -/
def admits (bounds : IntegerBounds) (value : Int) : Bool :=
  bounds.least ≤ value && value ≤ bounds.greatest

end IntegerBounds

/-- The integer that a text denotes, read as a whole and without regard to bounds. -/
def signedDigits? (negativeAllowed : Bool) : List Char → Option Int
  | '+' :: digits => (digits? digits).map Int.ofNat
  | '-' :: digits => if negativeAllowed then (digits? digits).map fun n => -Int.ofNat n else none
  | digits => (digits? digits).map Int.ofNat

/-- The integer that a text denotes, provided that it is within the bounds. -/
def integer? (bounds : IntegerBounds) (text : String) : Option Int :=
  (signedDigits? (bounds.least < 0) text.toList).filter bounds.admits

/-- An integer that was read lies within its bounds. -/
theorem admits_of_integer?_eq_some {bounds : IntegerBounds} {text : String} {value : Int}
    (read : integer? bounds text = some value) : bounds.admits value :=
  (Option.filter_eq_some_iff.1 read).2

end OutboxRelay.Text

import OutboxRelay.Instant.Basic
import OutboxRelay.Instant.Calendar
import OutboxRelay.Text.Blank
import OutboxRelay.Text.Digits

/-!
# Reading instants

Reading an instant from a date and a time with a zone. The reader is generous: fields need no
leading zeros, blanks may stand around the separators and in front of the zone, a blank or either
case of `t` may part date and time, any number of fraction digits is understood and the first nine
count. The zone is `Z`, `UTC` in any case, or an offset of hours and minutes. A field that its
range excludes is refused as soon as it is read, and the first fault decides the error.
-/

namespace OutboxRelay.Instant

/-- Why a text denotes no instant. -/
inductive ReadError where
  /-- The text ends where more was expected. -/
  | premature
  /-- Text follows the zone. -/
  | trailing
  /-- A field has a value that no instant has. -/
  | outOfRange
  /-- A character stands where another one was expected. -/
  | invalid
  /-- The offset leads out of the years that an instant can lie in. -/
  | impossible
deriving DecidableEq, Repr

/-- The wording of a fault. -/
def ReadError.message : ReadError → String
  | premature => "premature end of input"
  | trailing => "trailing input"
  | outOfRange => "input is out of range"
  | invalid => "input contains invalid characters"
  | impossible => "no possible date and time matching input"

/-- A scanner consumes the front of a text or stops at its first fault. -/
abbrev Scan := StateT (List Char) (Except ReadError)

namespace Scan

/-- Skip blanks, if there are any. -/
def blanks : Scan Unit :=
  modify Text.trimFront

/-- One given character. -/
def literal (expected : Char) : Scan Unit := do
  match ← get with
  | [] => throw .premature
  | c :: rest => if c = expected then set rest else throw .invalid

/-- Whether a character is one of the ten digits. -/
def isDigit (c : Char) : Bool :=
  (Text.digitValue? c).isSome

/-- The greatest number that a field can hold. -/
def greatestField : Int := (Text.IntegerBounds.signed 64).greatest

/-- A number of at least one digit, and of at most `width` digits where a width is given. -/
def number (width : Option Nat) : Scan Nat := do
  let characters ← get
  match characters with
  | [] => throw .premature
  | c :: _ => unless isDigit c do throw .invalid
  let window := match width with
    | some bound => characters.take bound
    | none => characters
  let digits := window.takeWhile isDigit
  let value := (Text.digits? digits).getD 0
  if greatestField < value then throw .outOfRange
  set (characters.drop digits.length)
  return value

/-- A number between two bounds, blanks allowed in front. -/
def field (least greatest : Nat) : Scan Nat := do
  blanks
  let value ← number (some 2)
  unless least ≤ value ∧ value ≤ greatest do throw .outOfRange
  return value

/-- The year: up to four digits, or a sign and any number of digits. -/
def year : Scan Int := do
  blanks
  let value ← match ← get with
    | '-' :: rest => do
      set rest
      pure (-Int.ofNat (← number none))
    | '+' :: rest => do
      set rest
      pure (Int.ofNat (← number none))
    | _ => pure (Int.ofNat (← number (some 4)))
  unless (Text.IntegerBounds.signed 32).admits value do throw .outOfRange
  return value

/-- A separator between two fields, blanks allowed in front. -/
def separator (c : Char) : Scan Unit := do
  blanks
  literal c

/-- What parts the date from the time. -/
def dateEnd : Scan Unit := do
  match ← get with
  | [] => throw .premature
  | c :: rest => if c = 'T' ∨ c = 't' ∨ c = ' ' then set rest else throw .invalid

/-- The fraction of a second in nanoseconds, zero if there is none. -/
def fraction : Scan Nat := do
  match ← get with
  | '.' :: rest =>
    set rest
    let value ← number (some 9)
    let used := rest.length - (← get).length
    modify (·.dropWhile isDigit)
    return value * Nat.pow 10 (9 - used)
  | _ => return 0

/-- The two digits of an offset's hours. -/
def offsetHours : Scan Nat := do
  match ← get with
  | tens :: ones :: rest =>
    match Text.digitValue? tens, Text.digitValue? ones with
    | some t, some o => do set rest; return 10 * t + o
    | _, _ => throw .invalid
  | [c] => throw (if c.toNat < 128 then .premature else .invalid)
  | [] => throw .premature

/-- The two digits of an offset's minutes; sixty and more are a value out of range. -/
def offsetMinutes : Scan Nat := do
  let minutes ← offsetHours
  unless minutes < 60 do throw .outOfRange
  return minutes

/-- The minus sign of an offset may be the hyphen or the mathematical sign. -/
def isMinus (c : Char) : Bool :=
  c == '-' || c.toNat == 0x2212

/-- The offset of local time in seconds. -/
def offset : Scan Int := do
  match ← get with
  | [] => throw .premature
  | sign :: rest =>
    unless sign = '+' ∨ isMinus sign do throw .invalid
    set rest
    let hours ← offsetHours
    modify (·.dropWhile fun c => c == ':' || Text.isBlank c)
    let minutes ← offsetMinutes
    let seconds : Int := hours * 3600 + minutes * 60
    return if sign = '+' then seconds else -seconds

/-- Whether the letters `UTC` stand in front, in any case. -/
def namesUniversalTime (characters : List Char) : Bool :=
  (characters.take 3).map Char.toUpper == ['U', 'T', 'C']

/-- The zone as an offset in seconds. -/
def zone : Scan Int := do
  blanks
  let characters ← get
  match characters with
  | c :: rest =>
    if namesUniversalTime characters then
      set (characters.drop 3)
      return 0
    else if c = 'Z' ∨ c = 'z' then
      set rest
      return 0
    else offset
  | [] => offset

end Scan

/-- The years that an instant can lie in. -/
def isKnownYear (year : Int) : Bool :=
  -262143 ≤ year && year ≤ 262142

/-- Whether an instant lies in those years. -/
def isKnown (instant : Instant) : Bool :=
  isKnownYear (CalendarDate.ofDays (instant.seconds / secondsPerDay)).year

/-- The instant of a local date and time of day at an offset. Second sixty is a leap second, which
belongs to the second before it. -/
def ofLocal (date : CalendarDate) (hour minute second nanos : Nat) (offset : Int) :
    Except ReadError Instant :=
  let seconds := date.toDays * secondsPerDay + hour * 3600 + minute * 60 + min second 59 - offset
  let instant : Instant := ⟨seconds, nanos + if second = 60 then nanosPerSecond else 0⟩
  if date.isValid && isKnownYear date.year && offset.natAbs < secondsPerDay then
    if instant.isKnown then .ok instant else .error .impossible
  else .error .outOfRange

/-- The whole grammar. -/
def scan : Scan Instant := do
  let year ← Scan.year
  Scan.separator '-'
  let month ← Scan.field 1 12
  Scan.separator '-'
  let day ← Scan.field 1 31
  Scan.dateEnd
  let hour ← Scan.field 0 23
  Scan.separator ':'
  let minute ← Scan.field 0 59
  Scan.separator ':'
  let second ← Scan.field 0 60
  let nanos ← Scan.fraction
  let offset ← Scan.zone
  Scan.blanks
  unless (← get).isEmpty do throw .trailing
  ofLocal ⟨year, month, day⟩ hour minute second nanos offset

/-- Read an instant. -/
def ofText (text : String) : Except ReadError Instant :=
  (scan.run text.toList).map Prod.fst

end OutboxRelay.Instant

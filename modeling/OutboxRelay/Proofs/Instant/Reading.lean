import OutboxRelay.Proofs.Instant.RoundTrip

/-!
# Instants that were read

Whatever text an instant is read from, it is one that a clock can show. So its own text is read back
as that instant, although the text that it came from may have been another one: with an offset, with
more digits of the fraction, or in another spelling.

What matters of the text is that at most nine digits of a fraction count, and that an offset is made
of whole minutes, so that a leap second stays the last second of its minute.
-/

namespace OutboxRelay

namespace Text

/-- A number of so many digits is that small. -/
theorem digitsAfter?_lt {digits : List Char} {value number : Nat}
    (read : digitsAfter? value digits = some number) :
    number < (value + 1) * 10 ^ digits.length := by
  induction digits generalizing value with
  | nil =>
    cases read
    simp
  | cons c rest inductionHypothesis =>
    rw [digitsAfter?] at read
    cases digit : digitValue? c with
    | none => simp [digit] at read
    | some n =>
      have small : n < 10 := by
        unfold digitValue? at digit
        split at digit
        · next between =>
          cases digit
          have last : c.toNat ≤ '9'.toNat := between.2
          have zero : '0'.toNat = 48 := rfl
          have nine : '9'.toNat = 57 := rfl
          omega
        · cases digit
      rw [digit] at read
      have bound := inductionHypothesis read
      calc number < (10 * value + n + 1) * 10 ^ rest.length := bound
        _ ≤ ((value + 1) * 10) * 10 ^ rest.length := Nat.mul_le_mul_right _ (by omega)
        _ = (value + 1) * 10 ^ (rest.length + 1) := by
          rw [Nat.pow_succ, Nat.mul_assoc, Nat.mul_comm 10]

theorem digits?_lt {digits : List Char} : (digits? digits).getD 0 < 10 ^ digits.length := by
  cases digits with
  | nil => simp [digits?]
  | cons c rest =>
    cases read : digits? (c :: rest) with
    | none => exact Nat.pow_pos (by decide)
    | some number => simpa using digitsAfter?_lt read

end Text

namespace Instant

namespace Scan

variable {α β : Type} {given : α → Prop} {property : β → Prop}

/-- Whatever a scanner gives has a property, on whichever text it succeeds. -/
def Gives (property : α → Prop) (scan : Scan α) : Prop :=
  ∀ characters value rest, scan.run characters = .ok (value, rest) → property value

theorem gives_pure {value : β} (holds : property value) : Gives property (pure value : Scan β) := by
  intro characters other rest scanned
  cases scanned
  exact holds

theorem gives_throw (fault : ReadError) : Gives property (throw fault : Scan β) := by
  intro characters value rest scanned
  cases scanned

/-- A result that was there before is given as it is. -/
theorem gives_lifted {result : Except ReadError β}
    (known : ∀ value, result = .ok value → property value) :
    Gives property (result : Scan β) := by
  intro characters value rest scanned
  cases given : result with
  | error fault =>
    rw [given] at scanned
    cases scanned
  | ok there =>
    rw [given] at scanned
    cases scanned
    exact known _ given

/-- A scanner goes on behind a check only if the condition holds. -/
theorem gives_checked {condition : Prop} [Decidable condition] {fault : ReadError}
    {next : Unit → Scan β} (passed : condition → Gives property (next ())) :
    Gives property (if condition then next () else throw fault >>= next) := by
  intro characters value rest scanned
  by_cases holds : condition
  · rw [if_pos holds] at scanned
    exact passed holds characters value rest scanned
  · rw [if_neg holds] at scanned
    cases scanned

/-- A sequence gives what its second part gives for everything that the first part gives. -/
theorem Gives.bind {scan : Scan α} {next : α → Scan β} (first : Gives given scan)
    (second : ∀ value, given value → Gives property (next value)) :
    Gives property (scan >>= next) := by
  intro characters result rest scanned
  rw [StateT.run_bind] at scanned
  cases begun : scan.run characters with
  | error fault =>
    rw [begun] at scanned
    cases scanned
  | ok read =>
    rw [begun] at scanned
    exact second read.1 (first characters read.1 read.2 begun) read.2 result rest scanned

/-- A sequence gives what its second part gives, whatever the first part was. -/
theorem gives_behind {scan : Scan α} {next : α → Scan β}
    (second : ∀ value, Gives property (next value)) : Gives property (scan >>= next) := by
  have first : Gives (fun _ => True) scan := fun _ _ _ _ => trivial
  exact first.bind fun value _ => second value

/-- A number is as small as its digits are few, and no more digits are used up than it may have. -/
theorem number_bounds {bound value : Nat} {characters rest : List Char}
    (scanned : (number (some bound)).run characters = .ok (value, rest)) :
    value < 10 ^ (characters.length - rest.length) ∧ characters.length - rest.length ≤ bound := by
  cases characters with
  | nil => cases scanned
  | cons c others =>
    let digits := ((c :: others).take bound).takeWhile isDigit
    have fewer : digits.length ≤ ((c :: others).take bound).length :=
      (List.takeWhile_sublist _).length_le
    rw [List.length_take] at fewer
    have read : value = (Text.digits? digits).getD 0 ∧ rest = (c :: others).drop digits.length := by
      by_cases digit : isDigit c = true
      · by_cases large : greatestField < ((Text.digits? digits).getD 0 : Nat)
        · simp [number, digit, digits, large] at scanned
          cases scanned
        · simp [number, digit, digits, large] at scanned
          cases scanned
          exact ⟨rfl, rfl⟩
      · simp [number, digit] at scanned
        cases scanned
    have used : (c :: others).length - rest.length = digits.length := by
      rw [read.2, List.length_drop]
      omega
    rw [used, read.1]
    exact ⟨Text.digits?_lt, by omega⟩

/-- A fraction is less than a second. Its digits are nanoseconds once they are nine, and as many
zeros as are missing stand behind the digits. -/
theorem gives_fraction : Gives (· < nanosPerSecond) fraction := by
  intro characters nanos behind scanned
  have none :
      Except.ok (0, characters) = (.ok (nanos, behind) : Except ReadError (Nat × List Char)) →
        nanos < nanosPerSecond := by
    rintro ⟨⟩
    decide
  cases characters with
  | nil => exact none scanned
  | cons c rest =>
    by_cases point : c = '.'
    · subst point
      cases read : (number (some 9)).run rest with
      | error fault =>
        simp [fraction, read] at scanned
      | ok result =>
        obtain ⟨value, left⟩ := result
        obtain ⟨small, few⟩ := number_bounds read
        have given : nanos = value * 10 ^ (9 - (rest.length - left.length)) := by
          simp [fraction, read] at scanned
          exact scanned.1.symm
        rw [given]
        calc value * 10 ^ (9 - (rest.length - left.length))
          _ < 10 ^ (rest.length - left.length) * 10 ^ (9 - (rest.length - left.length)) :=
            Nat.mul_lt_mul_of_pos_right small (Nat.pow_pos (by decide))
          _ = 10 ^ 9 := by rw [← Nat.pow_add, Nat.add_sub_cancel' few]
    · simp [fraction, point] at scanned
      exact none scanned

/-- An offset is made of whole minutes. -/
theorem gives_offset : Gives (fun offset : Int => offset % 60 = 0) offset := by
  refine gives_behind fun characters => ?_
  cases characters with
  | nil => exact gives_throw _
  | cons sign rest =>
    refine gives_checked fun _ => gives_behind fun _ => gives_behind fun hours =>
      gives_behind fun _ => gives_behind fun minutes => gives_pure ?_
    split_ifs <;> omega

theorem gives_zone : Gives (fun offset : Int => offset % 60 = 0) zone := by
  refine gives_behind fun _ => gives_behind fun characters => ?_
  cases characters with
  | nil => exact gives_offset
  | cons c rest =>
    dsimp only
    split_ifs
    · exact gives_behind fun _ => gives_pure rfl
    · exact gives_behind fun _ => gives_pure rfl
    · exact gives_offset

end Scan

/-- A local time at an offset of whole minutes is an instant that a clock can show. -/
theorem isValid_of_ofLocal {date : CalendarDate} {hour minute second nanos : Nat} {offset : Int}
    {instant : Instant} (fraction : nanos < nanosPerSecond)
    (whole : offset % 60 = 0) (read : ofLocal date hour minute second nanos offset = .ok instant) :
    instant.IsValid := by
  let minutes : Int := date.toDays * secondsPerDay + hour * 3600 + minute * 60
  have shape : instant.isKnown = true ∧ instant.seconds = minutes + min second 59 - offset ∧
      instant.nanos = nanos + if second = 60 then nanosPerSecond else 0 := by
    simp only [ofLocal] at read
    split_ifs at read <;> cases read <;> simp_all [minutes]
  refine ⟨shape.1, ?_⟩
  rw [shape.2.1, shape.2.2]
  by_cases leap : second = 60
  · simp only [leap, if_pos, minutes, secondsPerDay]
    omega
  · simp [leap, fraction]

/-- Whatever is read is an instant that a clock can show. The fields of the text are followed
through the scanner, of which only the fraction and the offset matter. -/
theorem isValid_of_ofText {text : String} {instant : Instant} (read : ofText text = .ok instant) :
    instant.IsValid := by
  have gives : Scan.Gives IsValid scan :=
    -- Nothing is needed of the date, the hour, the minute, the second and what stands between them.
    Scan.gives_behind fun _ => Scan.gives_behind fun _ => Scan.gives_behind fun _ =>
    Scan.gives_behind fun _ => Scan.gives_behind fun _ => Scan.gives_behind fun _ =>
    Scan.gives_behind fun _ => Scan.gives_behind fun _ => Scan.gives_behind fun _ =>
    Scan.gives_behind fun _ => Scan.gives_behind fun _ =>
    Scan.gives_fraction.bind fun _ fraction => Scan.gives_zone.bind fun _ whole =>
    Scan.gives_behind fun _ => Scan.gives_behind fun _ =>
    Scan.gives_checked fun _ => Scan.gives_lifted fun _ => isValid_of_ofLocal fraction whole
  cases scanned : scan.run text.toList with
  | error fault => simp [ofText, scanned, Except.map] at read
  | ok result =>
    simp [ofText, scanned, Except.map] at read
    exact read ▸ gives _ _ _ scanned

end Instant

end OutboxRelay

import Mathlib.Algebra.Ring.Nat
import OutboxRelay.Instant.Printer
import OutboxRelay.Instant.Reader
import OutboxRelay.Proofs.Instant.Calendar
import OutboxRelay.Proofs.Text.Digits

/-!
# Instants read back

The text of an instant is read back as that instant, if it is one that a clock can show: it lies in
the years that a date can have, and only the last second of a minute can be a leap second.

A scanner that was given a printed field leaves what stands behind the field. No field is followed
by a digit, so that a scanner of digits never takes more than its own.
-/

namespace OutboxRelay.Instant

/-- An instant that a clock can show: its year is known, and its nanoseconds make a leap second only
at the end of a minute. -/
structure IsValid (instant : Instant) : Prop where
  known : instant.isKnown = true
  nanos : instant.nanos < nanosPerSecond ∨
    instant.nanos < 2 * nanosPerSecond ∧ instant.seconds % 60 = 59

/-! ### Printed numbers -/

theorem padded_ne_nil (width n : Nat) : padded width n ≠ [] := by
  simp [padded, Nat.toDigits_ne_nil]

theorem isDigit_of_mem_padded {width n : Nat} {c : Char} (member : c ∈ padded width n) :
    Scan.isDigit c = true := by
  rcases List.mem_append.mp member with zero | digit
  · rw [(List.mem_replicate.mp zero).2]
    decide
  · exact Text.digitValue?_of_mem_toDigits digit

/-- A number that fits is exactly as wide as asked for. -/
theorem length_padded {width n : Nat} (positive : 0 < width) (fits : n < 10 ^ width) :
    (padded width n).length = width := by
  have short : (Nat.toDigits 10 n).length ≤ width :=
    (Nat.length_toDigits_le_iff (by decide) positive).mpr fits
  rw [padded, List.length_append, List.length_replicate]
  omega

theorem digits?_padded (width n : Nat) : Text.digits? (padded width n) = some n :=
  Text.digits?_zeros_toDigits _ n

/-- A printed number begins with a digit, which is neither a blank nor a sign. -/
theorem padded_eq_cons (width n : Nat) :
    ∃ first rest, padded width n = first :: rest ∧ Scan.isDigit first = true ∧
      Text.isBlank first = false ∧ first ≠ '-' ∧ first ≠ '+' := by
  have all : ∀ k : Fin 10, Text.isBlank (Nat.digitChar k) = false ∧ Nat.digitChar k ≠ '-' ∧
      Nat.digitChar k ≠ '+' := by
    decide
  cases printed : padded width n with
  | nil => exact absurd printed (padded_ne_nil width n)
  | cons first rest =>
    have member : first ∈ padded width n := printed ▸ List.mem_cons_self
    obtain ⟨k, bound, rfl⟩ : ∃ k < 10, first = Nat.digitChar k := by
      rcases List.mem_append.mp member with zero | digit
      · exact ⟨0, by decide, (List.mem_replicate.mp zero).2⟩
      · exact Text.eq_digitChar_of_mem_toDigits digit
    exact ⟨_, rest, rfl, isDigit_of_mem_padded member, all ⟨k, bound⟩⟩

/-! ### Scanners -/

namespace Scan

variable {α β : Type}

/-- A scanner goes on behind what it consumed. -/
theorem run_bind {scan : Scan α} {next : α → Scan β} {characters rest : List Char} {value : α}
    (scanned : scan.run characters = .ok (value, rest)) :
    (scan >>= next).run characters = (next value).run rest := by
  rw [StateT.run_bind, scanned]
  rfl

/-- What was scanned is passed on. -/
theorem ok_bind (value : α) (next : α → Except ReadError β) :
    (Except.ok value >>= next) = next value :=
  rfl

/-- What can stand behind a number: nothing, or a character that is no digit. -/
def NoDigit (rest : List Char) : Prop :=
  ∀ c ∈ rest.head?, isDigit c = false

theorem noDigit_cons {c : Char} (other : isDigit c = false) (rest : List Char) :
    NoDigit (c :: rest) := by
  rintro _ ⟨⟩
  exact other

theorem NoDigit.takeWhile_eq_nil {rest : List Char} (behind : NoDigit rest) :
    rest.takeWhile isDigit = [] := by
  cases rest with
  | nil => rfl
  | cons c others => rw [List.takeWhile_cons, behind c rfl]; rfl

/-- Digits are taken up to the first character that is none. -/
theorem takeWhile_digits {digits rest : List Char} (all : ∀ c ∈ digits, isDigit c = true)
    (behind : NoDigit rest) : (digits ++ rest).takeWhile isDigit = digits := by
  rw [List.takeWhile_append_of_pos all, behind.takeWhile_eq_nil, List.append_nil]

theorem blanks_run {c : Char} (visible : Text.isBlank c = false) (rest : List Char) :
    blanks.run (c :: rest) = .ok ((), c :: rest) := by
  rw [blanks, StateT.run_modify, Text.trimFront, List.dropWhile_cons, visible]
  rfl

theorem literal_run (c : Char) (rest : List Char) :
    (literal c).run (c :: rest) = .ok ((), rest) := by
  simp [literal]
  rfl

theorem separator_run {c : Char} (visible : Text.isBlank c = false) (rest : List Char) :
    (separator c).run (c :: rest) = .ok ((), rest) := by
  rw [separator, run_bind (blanks_run visible rest)]
  exact literal_run c rest

theorem dateEnd_run (rest : List Char) : dateEnd.run ('T' :: rest) = .ok ((), rest) := by
  simp [dateEnd]
  rfl

/-- A window that is wide enough hides no digit. -/
theorem takeWhile_take_digits {digits rest : List Char} {bound : Nat}
    (all : ∀ c ∈ digits, isDigit c = true) (wide : digits.length ≤ bound)
    (behind : NoDigit rest) : ((digits ++ rest).take bound).takeWhile isDigit = digits := by
  have cut : (digits ++ rest).take bound = digits ++ rest.take (bound - digits.length) := by
    rw [List.take_append, List.take_of_length_le wide]
  have behindCut : NoDigit (rest.take (bound - digits.length)) := by
    intro c member
    cases rest with
    | nil => simp at member
    | cons first others =>
      cases left : bound - digits.length with
      | zero => simp [left] at member
      | succ more => exact behind c (by simpa [left] using member)
  rw [cut, takeWhile_digits all behindCut]

/-- A printed number is read, if it is no wider than the scanner looks. What stands behind it is
left. -/
theorem number_run {bound? : Option Nat} {width n : Nat} {rest : List Char}
    (small : (n : Int) ≤ greatestField) (wide : ∀ bound ∈ bound?, (padded width n).length ≤ bound)
    (behind : NoDigit rest) : (number bound?).run (padded width n ++ rest) = .ok (n, rest) := by
  have all : ∀ c ∈ padded width n, isDigit c = true := fun c member => isDigit_of_mem_padded member
  obtain ⟨first, others, printed, digit, _⟩ := padded_eq_cons width n
  have value := digits?_padded width n
  have dropped : (padded width n ++ rest).drop (padded width n).length = rest := List.drop_left
  have begun : padded width n ++ rest = first :: (others ++ rest) := by
    rw [printed, List.cons_append]
  cases bound? with
  | none =>
    have taken := takeWhile_digits all behind
    rw [begun] at taken dropped ⊢
    simp only [number, StateT.run_bind, StateT.run_get, pure_bind, digit, if_true, taken, value,
      Option.getD_some, if_neg (Int.not_lt.mpr small), dropped]
    rfl
  | some bound =>
    have taken := takeWhile_take_digits all (wide bound rfl) behind
    rw [begun] at taken dropped ⊢
    simp only [number, StateT.run_bind, StateT.run_get, pure_bind, digit, if_true, taken, value,
      Option.getD_some, if_neg (Int.not_lt.mpr small), dropped]
    rfl

/-- Nothing is skipped in front of a printed number. -/
theorem blanks_padded (width n : Nat) (rest : List Char) :
    blanks.run (padded width n ++ rest) = .ok ((), padded width n ++ rest) := by
  obtain ⟨first, others, printed, _, visible, _⟩ := padded_eq_cons width n
  rw [printed, List.cons_append]
  exact blanks_run visible _

theorem field_run {least greatest n : Nat} {rest : List Char} (low : least ≤ n)
    (high : n ≤ greatest) (fits : n < 100) (behind : NoDigit rest) :
    (field least greatest).run (padded 2 n ++ rest) = .ok (n, rest) := by
  have small : (n : Int) ≤ greatestField := by
    have bound : (100 : Int) ≤ greatestField := by decide
    omega
  have wide : ∀ bound ∈ some 2, (padded 2 n).length ≤ bound := by
    rintro bound ⟨⟩
    exact Nat.le_of_eq (length_padded (by decide) fits)
  rw [field, run_bind (blanks_padded 2 n rest), run_bind (number_run small wide behind)]
  simp [low, high]
  rfl

/-- A year that is known fits into what a scanner takes for a year, and into a field. -/
theorem admits_of_isKnownYear {value : Int} (known : isKnownYear value = true) :
    (-262143 ≤ value ∧ value ≤ 262142) ∧ (Text.IntegerBounds.signed 32).admits value = true ∧
      (value.natAbs : Int) ≤ greatestField := by
  have bounds : -262143 ≤ value ∧ value ≤ 262142 := by
    simpa [isKnownYear] using known
  have least : (Text.IntegerBounds.signed 32).least = -2147483648 := by decide
  have greatest : (Text.IntegerBounds.signed 32).greatest = 2147483647 := by decide
  have field : (262143 : Int) ≤ greatestField := by decide
  refine ⟨bounds, ?_, ?_⟩
  · simp only [Text.IntegerBounds.admits, least, greatest, Bool.and_eq_true, decide_eq_true_iff]
    omega
  · omega

section

variable {value : Int} (known : isKnownYear value = true) {rest : List Char}
  (behind : NoDigit rest)

include known behind

/-- A year of four digits is read without a sign. -/
theorem year_run_short (positive : 0 ≤ value) (short : value ≤ 9999) :
    year.run (padded 4 value.toNat ++ rest) = .ok (value, rest) := by
  obtain ⟨_, signed, small⟩ := admits_of_isKnownYear known
  obtain ⟨first, others, printed, digit, visible, noMinus, noPlus⟩ := padded_eq_cons 4 value.toNat
  have read : (number (some 4)).run (padded 4 value.toNat ++ rest) = .ok (value.toNat, rest) := by
    refine number_run (by omega) ?_ behind
    rintro bound ⟨⟩
    exact Nat.le_of_eq (length_padded (by decide) (by omega))
  have whole : Int.ofNat value.toNat = value := Int.toNat_of_nonneg positive
  rw [year, run_bind (blanks_padded 4 _ rest)]
  simp only [StateT.run_bind, StateT.run_get, pure_bind]
  split
  · next sign => exact absurd (List.cons.inj (printed ▸ sign)).1 noMinus
  · next sign => exact absurd (List.cons.inj (printed ▸ sign)).1 noPlus
  · simp only [StateT.run_bind, read, ok_bind, whole, signed]
    rfl

/-- A year behind a sign is read to its last digit. -/
theorem year_run_signed :
    year.run ((if value < 0 then '-' else '+') :: (padded 4 value.natAbs ++ rest)) =
      .ok (value, rest) := by
  obtain ⟨_, signed, small⟩ := admits_of_isKnownYear known
  have read : (number none).run (padded 4 value.natAbs ++ rest) = .ok (value.natAbs, rest) :=
    number_run small (by rintro bound ⟨⟩) behind
  split
  · next negative =>
    have whole : -Int.ofNat value.natAbs = value := by
      rw [Int.ofNat_eq_natCast]
      omega
    rw [year, run_bind (blanks_run (by decide) _)]
    simp only [StateT.run_bind, StateT.run_get, StateT.run_set, pure_bind, read, ok_bind, whole,
      signed]
    rfl
  · next positive =>
    have whole : Int.ofNat value.natAbs = value := by
      rw [Int.ofNat_eq_natCast]
      omega
    rw [year, run_bind (blanks_run (by decide) _)]
    simp only [StateT.run_bind, StateT.run_get, StateT.run_set, pure_bind, read, ok_bind, whole,
      signed]
    rfl

/-- The year is read with its sign, which is printed where four digits are not enough. -/
theorem year_run : year.run (yearText value ++ rest) = .ok (value, rest) := by
  have read := year_run_signed known behind
  unfold yearText
  split
  · next short => exact year_run_short known behind short.1 short.2
  · split
    · next negative =>
      rw [if_pos negative] at read
      exact read
    · next positive =>
      rw [if_neg positive] at read
      exact read

end

/-- The digits of a fraction are read as so many places of it. -/
theorem fraction_run_digits {width n : Nat} (positive : 0 < width) (narrow : width ≤ 9)
    (fits : n < 10 ^ width) :
    fraction.run ('.' :: padded width n ++ ['Z']) = .ok (n * Nat.pow 10 (9 - width), ['Z']) := by
  have behind : NoDigit ['Z'] := noDigit_cons (by decide) []
  have length : (padded width n).length = width := length_padded positive fits
  have small : (n : Int) ≤ greatestField := by
    have power : 10 ^ width ≤ 10 ^ 9 := Nat.pow_le_pow_right (by decide) narrow
    have limit : (1000000000 : Int) ≤ greatestField := by decide
    omega
  have wide : ∀ bound ∈ some 9, (padded width n).length ≤ bound := by
    rintro bound ⟨⟩
    omega
  have read := number_run small wide behind
  have used : (padded width n ++ ['Z']).length - ['Z'].length = width := by
    rw [List.length_append, length, Nat.add_sub_cancel]
  rw [fraction]
  simp only [StateT.run_bind, StateT.run_get, StateT.run_set, StateT.run_modify, pure_bind,
    List.cons_append, read, ok_bind, used]
  rfl

/-- A printed fraction is read to the nanosecond, whether all of its digits were printed or not.
Three, six or nine digits are printed, or none. -/
theorem fraction_run {nanos : Nat} (bound : nanos < nanosPerSecond) :
    fraction.run (fractionText nanos ++ ['Z']) = .ok (nanos, ['Z']) := by
  have limit : nanos < 1000000000 := bound
  unfold fractionText
  split
  · next whole =>
    subst whole
    rfl
  split
  · next millis =>
    have whole : nanos / 1000000 * Nat.pow 10 (9 - 3) = nanos := by
      have power : Nat.pow 10 (9 - 3) = 1000000 := by decide
      rw [power]
      omega
    rw [fraction_run_digits (by decide) (by decide) (by omega), whole]
  split
  · next micros =>
    have whole : nanos / 1000 * Nat.pow 10 (9 - 6) = nanos := by
      have power : Nat.pow 10 (9 - 6) = 1000 := by decide
      rw [power]
      omega
    rw [fraction_run_digits (by decide) (by decide) (by omega), whole]
  · have whole : nanos * Nat.pow 10 (9 - 9) = nanos := Nat.mul_one nanos
    rw [fraction_run_digits (by decide) (by decide) bound, whole]

theorem zone_run : zone.run ['Z'] = .ok (0, []) := by
  rfl

/-- Nothing that a fraction begins with is a digit. -/
theorem noDigit_fractionText (nanos : Nat) : NoDigit (fractionText nanos ++ ['Z']) := by
  unfold fractionText
  repeat' split
  all_goals exact noDigit_cons (by decide) _

end Scan

/-- The whole text, field by field. Each field ends where the separator behind it begins. -/
theorem scan_run {date : CalendarDate} {hour minute second nanos : Nat}
    (known : isKnownYear date.year = true) (onCalendar : date.isValid = true) (hours : hour ≤ 23)
    (minutes : minute ≤ 59) (seconds : second ≤ 60) (bound : nanos < nanosPerSecond) :
    scan.run (yearText date.year ++ '-' :: (padded 2 date.month ++ '-' :: (padded 2 date.day ++
      'T' :: (padded 2 hour ++ ':' :: (padded 2 minute ++ ':' :: (padded 2 second ++
        (fractionText nanos ++ ['Z']))))))) =
      (ofLocal date hour minute second nanos 0).map fun instant => (instant, []) := by
  have dash : ∀ rest, Scan.NoDigit ('-' :: rest) := Scan.noDigit_cons (by decide)
  have colon : ∀ rest, Scan.NoDigit (':' :: rest) := Scan.noDigit_cons (by decide)
  have letter : ∀ rest, Scan.NoDigit ('T' :: rest) := Scan.noDigit_cons (by decide)
  obtain ⟨⟨⟨fromOne, toTwelve⟩, fromFirst⟩, toLast⟩ :
      ((1 ≤ date.month ∧ date.month ≤ 12) ∧ 1 ≤ date.day) ∧
        date.day ≤ CalendarDate.daysInMonth date.year date.month := by
    simpa [CalendarDate.isValid] using onCalendar
  have days : date.day ≤ 31 := by
    refine Nat.le_trans toLast ?_
    unfold CalendarDate.daysInMonth
    repeat' split
    all_goals decide
  rw [scan, Scan.run_bind (Scan.year_run known (dash _)),
    Scan.run_bind (Scan.separator_run (by decide) _),
    Scan.run_bind (Scan.field_run fromOne toTwelve (by omega) (dash _)),
    Scan.run_bind (Scan.separator_run (by decide) _),
    Scan.run_bind (Scan.field_run fromFirst days (by omega) (letter _)),
    Scan.run_bind (Scan.dateEnd_run _),
    Scan.run_bind (Scan.field_run (Nat.zero_le _) hours (by omega) (colon _)),
    Scan.run_bind (Scan.separator_run (by decide) _),
    Scan.run_bind (Scan.field_run (Nat.zero_le _) minutes (by omega) (colon _)),
    Scan.run_bind (Scan.separator_run (by decide) _),
    Scan.run_bind (Scan.field_run (Nat.zero_le _) seconds (by omega)
      (Scan.noDigit_fractionText nanos)),
    Scan.run_bind (Scan.fraction_run bound), Scan.run_bind Scan.zone_run]
  cases ofLocal date hour minute second nanos 0 <;> rfl

/-- The parts of an instant that is shown make up that instant again. A leap second is shown as
second sixty, and comes back as nanoseconds beyond the last second of its minute. -/
theorem ofLocal_parts {instant : Instant} (valid : instant.IsValid) :
    let secondOfDay := (instant.seconds % secondsPerDay).toNat
    ofLocal (CalendarDate.ofDays (instant.seconds / secondsPerDay)) (secondOfDay / 3600)
      (secondOfDay / 60 % 60) (secondOfDay % 60 + instant.nanos / nanosPerSecond)
      (instant.nanos % nanosPerSecond) 0 = .ok instant := by
  intro secondOfDay
  have exist := CalendarDate.isValid_ofDays (instant.seconds / secondsPerDay)
  have year : isKnownYear (CalendarDate.ofDays (instant.seconds / secondsPerDay)).year = true :=
    valid.known
  have bounds := valid.nanos
  have seconds : (CalendarDate.ofDays (instant.seconds / secondsPerDay)).toDays * secondsPerDay +
      (secondOfDay / 3600 : Nat) * 3600 + (secondOfDay / 60 % 60 : Nat) * 60 +
      (min (secondOfDay % 60 + instant.nanos / nanosPerSecond) 59 : Nat) - 0 =
      instant.seconds := by
    rw [CalendarDate.toDays_ofDays]
    simp only [secondsPerDay, nanosPerSecond, secondOfDay] at bounds ⊢
    omega
  have nanos : (instant.nanos % nanosPerSecond +
      if secondOfDay % 60 + instant.nanos / nanosPerSecond = 60 then nanosPerSecond else 0) =
      instant.nanos := by
    by_cases sixty : secondOfDay % 60 + instant.nanos / nanosPerSecond = 60
    · rw [if_pos sixty]
      simp only [secondsPerDay, nanosPerSecond, secondOfDay] at bounds sixty ⊢
      omega
    · rw [if_neg sixty]
      simp only [secondsPerDay, nanosPerSecond, secondOfDay] at bounds sixty ⊢
      omega
  simp only [ofLocal, seconds, nanos, exist, year, valid.known]
  rfl

/-- The text of an instant that a clock can show is read back as that instant.

Proof: the printed fields are scanned as the numbers that were printed (`scan_run`), as the date of
a day exists and has a known year. The fields then make up the instant again by `ofLocal_parts`,
which rests on the count of days. -/
theorem ofText_toText {instant : Instant} (valid : instant.IsValid) :
    ofText instant.toText = .ok instant := by
  have exist := CalendarDate.isValid_ofDays (instant.seconds / secondsPerDay)
  have bound : instant.nanos % nanosPerSecond < nanosPerSecond := Nat.mod_lt _ (by decide)
  have hours : (instant.seconds % secondsPerDay).toNat / 3600 ≤ 23 := by
    simp only [secondsPerDay]
    omega
  have seconds : (instant.seconds % secondsPerDay).toNat % 60 + instant.nanos / nanosPerSecond ≤
      60 := by
    have nanos := valid.nanos
    simp only [secondsPerDay, nanosPerSecond] at nanos ⊢
    omega
  have minutes : (instant.seconds % secondsPerDay).toNat / 60 % 60 ≤ 59 :=
    Nat.le_of_lt_succ (Nat.mod_lt _ (by decide))
  have scanned := scan_run valid.known exist hours minutes seconds bound
  rw [ofLocal_parts valid] at scanned
  rw [ofText, toText, String.toList_ofList]
  simp only [timeText, List.append_assoc, List.cons_append] at scanned ⊢
  rw [scanned]
  rfl

end OutboxRelay.Instant

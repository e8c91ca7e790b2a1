import OutboxRelay.Instant.Calendar

/-!
# The count of days

Counting the days of a date that was found for a number of days gives that number, and every date
that is found exists.

An era has four centuries. A day of it lies in a century, in a group of four years of the century,
in a year of the group and on a day of that year. A leap day is the last day of a group, and the
last group of a century has one only in the fourth century. These parts are what the quotients of
the calendar come down to.
-/

namespace OutboxRelay.CalendarDate

/-- Where a day of an era lies. Years begin in March, so that a leap day is the last day of its
year. -/
structure EraDay where
  century : Int
  group : Int
  year : Int
  day : Int

namespace EraDay

/-- The day of the era. -/
def dayOfEra (place : EraDay) : Int :=
  36524 * place.century + 1461 * place.group + 365 * place.year + place.day

/-- The year of the era. -/
def yearOfEra (place : EraDay) : Int :=
  100 * place.century + 4 * place.group + place.year

/-- The parts are within their bounds, and a leap day stands where there is one: at the end of a
group, and at the end of a century only in the fourth one. -/
structure Exists (place : EraDay) : Prop where
  century : 0 ≤ place.century ∧ place.century ≤ 3
  group : 0 ≤ place.group ∧ place.group ≤ 24
  year : 0 ≤ place.year ∧ place.year ≤ 3
  day : 0 ≤ place.day ∧ place.day ≤ 365
  leap : place.day = 365 → place.year = 3 ∧ (place.group = 24 → place.century = 3)

/-- Every day of an era lies somewhere. The last day of the last group and of the last year would
spill into a fifth one, so the quotients are capped. -/
theorem exists_dayOfEra_eq {day : Int} (bounds : 0 ≤ day ∧ day < 146097) :
    ∃ place : EraDay, place.Exists ∧ place.dayOfEra = day := by
  let century := min 3 (day / 36524)
  let ofCentury := day - 36524 * century
  let group := min 24 (ofCentury / 1461)
  let ofGroup := ofCentury - 1461 * group
  let year := min 3 (ofGroup / 365)
  refine ⟨⟨century, group, year, ofGroup - 365 * year⟩, ⟨?_, ?_, ?_, ?_, ?_⟩, ?_⟩
  all_goals
    simp only [dayOfEra]
    omega

variable {place : EraDay}

/-- The quotients of the calendar find the year. A year has a day more or less than the average,
which the correction takes out again unless the day is the last one of the era. The arithmetic is
linear once the parts have names. -/
theorem yearOfEra_eq (exist : place.Exists) :
    (place.dayOfEra - place.dayOfEra / 1460 + place.dayOfEra / 36524 - place.dayOfEra / 146096) /
      365 = place.yearOfEra := by
  obtain ⟨⟨_, _⟩, ⟨_, _⟩, ⟨_, _⟩, ⟨_, _⟩, leap⟩ := exist
  by_cases last : place.dayOfEra = 146096
  · rw [last]
    simp only [dayOfEra, yearOfEra] at last ⊢
    omega
  · simp only [dayOfEra, yearOfEra] at last ⊢
    generalize day : 36524 * place.century + 1461 * place.group + 365 * place.year + place.day =
      dayOfEra at last ⊢
    have centuries : dayOfEra / 36524 = place.century := by omega
    have eras : dayOfEra / 146096 = 0 := by omega
    have years : dayOfEra / 1460 = 25 * place.century + place.group ∨
        dayOfEra / 1460 = 25 * place.century + place.group + 1 ∧
          1460 ≤ 24 * place.century + place.group + 365 * place.year + place.day := by
      omega
    rcases years with exact | ⟨oneMore, late⟩
    · rw [centuries, eras, exact]
      omega
    · rw [centuries, eras, oneMore]
      omega

/-- What is left of the day of the era is the day of the year. -/
theorem day_eq (exist : place.Exists) :
    place.dayOfEra -
      (365 * place.yearOfEra + place.yearOfEra / 4 - place.yearOfEra / 100) = place.day := by
  obtain ⟨⟨_, _⟩, ⟨_, _⟩, ⟨_, _⟩, _⟩ := exist
  have groups : place.yearOfEra / 4 = 25 * place.century + place.group := by
    simp only [yearOfEra]
    omega
  have centuries : place.yearOfEra / 100 = place.century := by
    simp only [yearOfEra]
    omega
  rw [groups, centuries]
  simp only [dayOfEra, yearOfEra]
  omega

theorem yearOfEra_bounds (exist : place.Exists) : 0 ≤ place.yearOfEra ∧ place.yearOfEra < 400 := by
  obtain ⟨⟨_, _⟩, ⟨_, _⟩, ⟨_, _⟩, _⟩ := exist
  simp only [yearOfEra]
  omega

/-- A year of the calendar that begins within a March year with a leap day is a leap year. -/
theorem isLeapYear_of_day (exist : place.Exists) (leapDay : place.day = 365) (era : Int) :
    isLeapYear (place.yearOfEra + era * 400 + 1) = true := by
  obtain ⟨year, century⟩ := exist.leap leapDay
  obtain ⟨⟨_, _⟩, ⟨_, _⟩, _⟩ := exist
  simp only [isLeapYear, yearOfEra, Bool.and_eq_true, Bool.or_eq_true, beq_iff_eq, bne_iff_ne]
  omega

end EraDay

/-- The date of a day of an era: months are found from the day of the year, and January and February
belong to the following year of the calendar. -/
theorem ofDays_eq {days : Int} {place : EraDay} (exist : place.Exists)
    (same : place.dayOfEra = (days + epochDay) % daysPerEra) :
    ofDays days =
      let month := (5 * place.day + 2) / 153
      let day := (place.day - (153 * month + 2) / 5 + 1).toNat
      let year := place.yearOfEra + (days + epochDay) / daysPerEra * 400
      if month < 10 then ⟨year, (month + 3).toNat, day⟩
      else ⟨year + 1, (month - 9).toNat, day⟩ := by
  simp only [ofDays, ← same, EraDay.yearOfEra_eq exist, EraDay.day_eq exist]

theorem exists_eraDay (days : Int) :
    ∃ place : EraDay, place.Exists ∧ place.dayOfEra = (days + epochDay) % daysPerEra :=
  EraDay.exists_dayOfEra_eq (by simp only [daysPerEra]; omega)

/-- The months of a year that begins in March, and the days of such a month. -/
theorem month_bounds {dayOfYear month : Int} (bounds : 0 ≤ dayOfYear ∧ dayOfYear ≤ 365)
    (found : month = (5 * dayOfYear + 2) / 153) :
    (0 ≤ month ∧ month ≤ 11) ∧ 0 ≤ dayOfYear - (153 * month + 2) / 5 ∧
      dayOfYear - (153 * month + 2) / 5 ≤ 30 := by
  omega

/-- Years of the calendar are counted in eras as the March years that they begin in. -/
theorem toDays_of_march {year month era day : Int} (within : 0 ≤ year ∧ year < 400)
    (months : 0 ≤ month ∧ month ≤ 11) (first : 1 ≤ day) :
    (if month < 10 then (⟨year + era * 400, (month + 3).toNat, day.toNat⟩ : CalendarDate)
      else ⟨year + era * 400 + 1, (month - 9).toNat, day.toNat⟩).toDays =
      era * daysPerEra +
        (year * 365 + year / 4 - year / 100 + ((153 * month + 2) / 5 + day - 1)) - epochDay := by
  have eras : (year + era * 400) / 400 = era := by omega
  have years : (year + era * 400) % 400 = year := by omega
  have days : ((day.toNat : Nat) : Int) = day := Int.toNat_of_nonneg (by omega)
  split
  · next early =>
    have late : ¬(month + 3).toNat ≤ 2 := by omega
    have same : (((month + 3).toNat : Nat) : Int) - 3 = month := by omega
    simp only [toDays, if_neg late, same, eras, years, days]
  · next late =>
    have early : (month - 9).toNat ≤ 2 := by omega
    have same : (((month - 9).toNat : Nat) : Int) + 9 = month := by omega
    have before : year + era * 400 + 1 - 1 = year + era * 400 := by omega
    simp only [toDays, if_pos early, same, before, eras, years, days]

/-- The days up to the date that was found for a number of days are that number.

Proof: the day lies somewhere in its era (`exists_eraDay`). From there the date is known by
`ofDays_eq`, and the days up to a date of a March year by `toDays_of_march`; what is left is
arithmetic of the parts. -/
theorem toDays_ofDays (days : Int) : (ofDays days).toDays = days := by
  obtain ⟨place, exist, same⟩ := exists_eraDay days
  obtain ⟨months, first, _⟩ := month_bounds exist.day rfl
  have left := EraDay.day_eq exist
  rw [ofDays_eq exist same]
  refine (toDays_of_march (EraDay.yearOfEra_bounds exist) months (by omega)).trans ?_
  have parts := Int.mul_ediv_add_emod (days + epochDay) daysPerEra
  rw [← same] at parts
  simp only [daysPerEra, epochDay] at parts ⊢
  omega

/-- A date that is found exists. The months from March on have the lengths that the quotient gives
them, save that February ends where its year does. -/
theorem isValid_ofDays (days : Int) : (ofDays days).isValid = true := by
  obtain ⟨place, exist, same⟩ := exists_eraDay days
  have bounds := exist.day
  obtain ⟨⟨low, high⟩, first, _⟩ := month_bounds exist.day rfl
  have leap := EraDay.isLeapYear_of_day exist
  rw [ofDays_eq exist same]
  generalize (days + epochDay) / daysPerEra = era
  generalize place.yearOfEra = year at leap ⊢
  generalize place.day = day at bounds low high first leap ⊢
  generalize found : (5 * day + 2) / 153 = month at low high first ⊢
  by_cases february : month = 11
  · subst february
    by_cases leapDay : day = 365
    · subst leapDay
      simp [isValid, daysInMonth, leap rfl era]
    · have short : (day - (153 * 11 + 2) / 5 + 1).toNat ≤ 28 := by omega
      have enough : 28 ≤ daysInMonth (year + era * 400 + 1) 2 := by
        unfold daysInMonth
        split <;> split <;> omega
      simp [isValid]
      omega
  · have others : month = 0 ∨ month = 1 ∨ month = 2 ∨ month = 3 ∨ month = 4 ∨ month = 5 ∨
        month = 6 ∨ month = 7 ∨ month = 8 ∨ month = 9 ∨ month = 10 := by
      omega
    rcases others with rfl | rfl | rfl | rfl | rfl | rfl | rfl | rfl | rfl | rfl | rfl
    all_goals
      simp [isValid, daysInMonth]
      omega

end OutboxRelay.CalendarDate

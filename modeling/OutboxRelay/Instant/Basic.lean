/-!
# Instants

Instants of coordinated universal time with nanosecond precision. An instant counts whole seconds
since the beginning of 1970 and the nanoseconds into the current second; during a leap second the
second does not advance and the nanoseconds run on past a billion, so that a leap second lies
strictly between its neighbours in the order.
-/

namespace OutboxRelay

/-- A moment in time. -/
structure Instant where
  /-- Whole seconds since 1970-01-01T00:00:00Z, negative before. -/
  seconds : Int
  /-- Nanoseconds into the second, a billion or more only within a leap second. -/
  nanos : Nat
deriving DecidableEq, Inhabited

namespace Instant

/-- Nanoseconds in a second. -/
def nanosPerSecond : Nat := 1000000000

/-- Seconds in a day. -/
def secondsPerDay : Nat := 86400

/-- Whether an instant comes no later than another. -/
def notAfter (earlier later : Instant) : Bool :=
  earlier.seconds < later.seconds ||
    (earlier.seconds == later.seconds && earlier.nanos ≤ later.nanos)

instance : LE Instant := ⟨fun earlier later => notAfter earlier later = true⟩

instance (earlier later : Instant) : Decidable (earlier ≤ later) :=
  inferInstanceAs (Decidable (notAfter earlier later = true))

/-- The beginning of the year 2000, the moment from which a database counts its timestamps. -/
def millennium : Instant := ⟨946684800, 0⟩

/-- Microseconds from the beginning of 2000 to an instant, the fraction dropped toward that
moment; this is what a database column keeps of an instant. -/
def microsSinceMillennium (instant : Instant) : Int :=
  ((instant.seconds - millennium.seconds) * nanosPerSecond + instant.nanos).tdiv 1000

/-- The instant at a number of microseconds from the beginning of 2000. -/
def ofMicrosSinceMillennium (micros : Int) : Instant :=
  ⟨millennium.seconds + micros / 1000000, (micros % 1000000).toNat * 1000⟩

/-- An instant as a database column returns it. -/
def stored (instant : Instant) : Instant :=
  ofMicrosSinceMillennium instant.microsSinceMillennium

/-- A whole number of microseconds is kept as it is. -/
theorem microsSinceMillennium_ofMicros (micros : Int) :
    (ofMicrosSinceMillennium micros).microsSinceMillennium = micros := by
  have whole : (ofMicrosSinceMillennium micros).microsSinceMillennium =
      (micros * 1000).tdiv 1000 := by
    simp only [microsSinceMillennium, ofMicrosSinceMillennium, nanosPerSecond]
    congr 1
    omega
  rw [whole, Int.mul_tdiv_cancel _ (by decide)]

/-- A database column returns what it once returned unchanged. -/
@[simp] theorem stored_stored (instant : Instant) : instant.stored.stored = instant.stored := by
  simp [stored, microsSinceMillennium_ofMicros]

theorem notAfter_refl (instant : Instant) : notAfter instant instant := by
  simp [notAfter]

theorem notAfter_total (a b : Instant) : notAfter a b || notAfter b a := by
  grind [notAfter]

theorem notAfter_trans {a b c : Instant} (first : notAfter a b) (second : notAfter b c) :
    notAfter a c := by
  grind [notAfter]

theorem notAfter_antisymm {a b : Instant} (first : notAfter a b) (second : notAfter b a) :
    a = b := by
  cases a
  cases b
  grind [notAfter]

end Instant

end OutboxRelay

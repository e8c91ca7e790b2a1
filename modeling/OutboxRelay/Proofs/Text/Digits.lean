import OutboxRelay.Proofs.Text.Blank
import OutboxRelay.Text.Digits

/-!
# Decimal digits read back

The decimal digits of a number are read back as that number, with or without zeros in front. The
digits of a number other than zero do not begin with a zero. The bounds of words of sixty-four bits
are given as numbers. Where blanks are dropped, a plus sign and blanks around a number do not matter
either.
-/

namespace OutboxRelay.Text

/-- A written digit stands for its value. -/
theorem digitValue?_digitChar {n : Nat} (digit : n < 10) :
    digitValue? (Nat.digitChar n) = some n := by
  have all : ∀ n : Fin 10, digitValue? (Nat.digitChar n) = some n.val := by decide
  exact all ⟨n, digit⟩

/-- Digits are read one after the other. -/
theorem digitsAfter?_append (value : Nat) (first second : List Char) :
    digitsAfter? value (first ++ second) =
      (digitsAfter? value first).bind (digitsAfter? · second) := by
  induction first generalizing value with
  | nil => rfl
  | cons c rest inductionHypothesis =>
    cases read : digitValue? c with
    | none => simp [digitsAfter?, read]
    | some digit => simp [digitsAfter?, read, inductionHypothesis]

/-- The digits of a number are its last digit behind the digits of a tenth. -/
theorem toDigits_step {n : Nat} (several : 10 ≤ n) :
    Nat.toDigits 10 n = Nat.toDigits 10 (n / 10) ++ [Nat.digitChar (n % 10)] :=
  Nat.toDigits_of_base_le (by decide) several

/-- Digits are read as the number that they were written for. The number of digits does not matter
for the induction, only that a tenth of a number is smaller. -/
theorem digitsAfter?_toDigits (n : Nat) : digitsAfter? 0 (Nat.toDigits 10 n) = some n := by
  induction n using Nat.strongRecOn with
  | ind n inductionHypothesis =>
    by_cases single : n < 10
    · rw [Nat.toDigits_of_lt_base single]
      simp [digitsAfter?, digitValue?_digitChar single]
    · have last : digitValue? (Nat.digitChar (n % 10)) = some (n % 10) :=
        digitValue?_digitChar (Nat.mod_lt n (by decide))
      rw [toDigits_step (Nat.le_of_not_lt single), digitsAfter?_append,
        inductionHypothesis (n / 10) (Nat.div_lt_self (by omega) (by decide)), Option.bind_some]
      simp only [digitsAfter?, last, Option.some.injEq]
      exact Nat.div_add_mod n 10

/-- Zeros in front of digits do not matter. -/
theorem digitsAfter?_zeros (count : Nat) (digits : List Char) :
    digitsAfter? 0 (List.replicate count '0' ++ digits) = digitsAfter? 0 digits := by
  induction count with
  | zero => rfl
  | succ count inductionHypothesis =>
    rw [List.replicate_succ, List.cons_append, digitsAfter?]
    exact inductionHypothesis

/-- A number is read back from its digits behind any number of zeros. -/
theorem digits?_zeros_toDigits (count n : Nat) :
    digits? (List.replicate count '0' ++ Nat.toDigits 10 n) = some n := by
  have something : List.replicate count '0' ++ Nat.toDigits 10 n ≠ [] := by
    simp [Nat.toDigits_ne_nil]
  have read := (digitsAfter?_zeros count (Nat.toDigits 10 n)).trans (digitsAfter?_toDigits n)
  cases digits : List.replicate count '0' ++ Nat.toDigits 10 n with
  | nil => exact absurd digits something
  | cons c rest => rwa [digits] at read

theorem digits?_toDigits (n : Nat) : digits? (Nat.toDigits 10 n) = some n :=
  digits?_zeros_toDigits 0 n

/-- Every written character is a digit. -/
theorem eq_digitChar_of_mem_toDigits {n : Nat} {c : Char} (member : c ∈ Nat.toDigits 10 n) :
    ∃ digit < 10, c = Nat.digitChar digit := by
  induction n using Nat.strongRecOn with
  | ind n inductionHypothesis =>
    by_cases single : n < 10
    · rw [Nat.toDigits_of_lt_base single] at member
      exact ⟨n, single, List.mem_singleton.mp member⟩
    · rw [toDigits_step (Nat.le_of_not_lt single)] at member
      rcases List.mem_append.mp member with higher | last
      · exact inductionHypothesis _ (Nat.div_lt_self (by omega) (by decide)) higher
      · exact ⟨n % 10, Nat.mod_lt n (by decide), List.mem_singleton.mp last⟩

theorem digitValue?_of_mem_toDigits {n : Nat} {c : Char} (member : c ∈ Nat.toDigits 10 n) :
    (digitValue? c).isSome := by
  obtain ⟨digit, bound, rfl⟩ := eq_digitChar_of_mem_toDigits member
  rw [digitValue?_digitChar bound]
  rfl

/-- A number other than zero does not begin with a zero: its first digit is that of a tenth, down to
a single digit. -/
theorem head?_toDigits {n : Nat} (positive : 0 < n) :
    (Nat.toDigits 10 n).head? ≠ some '0' := by
  induction n using Nat.strongRecOn with
  | ind n inductionHypothesis =>
    by_cases single : n < 10
    · have all : ∀ k : Fin 10, 0 < k.val → Nat.digitChar k ≠ '0' := by decide
      rw [Nat.toDigits_of_lt_base single, List.head?_cons]
      intro zero
      exact all ⟨n, single⟩ positive (Option.some.inj zero)
    · have tenth : (Nat.toDigits 10 (n / 10)).head? ≠ some '0' :=
        inductionHypothesis _ (Nat.div_lt_self positive (by decide)) (by omega)
      rw [toDigits_step (Nat.le_of_not_lt single), List.head?_append]
      cases digits : Nat.toDigits 10 (n / 10) with
      | nil => exact absurd digits Nat.toDigits_ne_nil
      | cons c rest => simpa [digits] using tenth

theorem admits_signed_64 {value : Int} : (IntegerBounds.signed 64).admits value ↔
    -9223372036854775808 ≤ value ∧ value ≤ 9223372036854775807 := by
  simp only [IntegerBounds.admits, Bool.and_eq_true, decide_eq_true_iff]
  rfl

theorem admits_unsigned_64 {value : Int} : (IntegerBounds.unsigned 64).admits value ↔
    0 ≤ value ∧ value ≤ 18446744073709551615 := by
  simp only [IntegerBounds.admits, Bool.and_eq_true, decide_eq_true_iff]
  rfl

/-- Unsigned words of any width hold nothing negative. -/
theorem nonneg_of_admits {width : Nat} {value : Int}
    (admitted : (IntegerBounds.unsigned width).admits value) : 0 ≤ value := by
  simp only [IntegerBounds.admits, Bool.and_eq_true, decide_eq_true_iff] at admitted
  exact admitted.1

/-! ### Integers -/

/-- No digit is blank, and none is a sign. -/
theorem plain_of_mem_toDigits {n : Nat} {c : Char} (member : c ∈ Nat.toDigits 10 n) :
    isBlank c = false ∧ c ≠ '+' ∧ c ≠ '-' := by
  have all : ∀ digit : Fin 10, isBlank (Nat.digitChar digit) = false ∧
      Nat.digitChar digit ≠ '+' ∧ Nat.digitChar digit ≠ '-' := by decide
  obtain ⟨digit, bound, rfl⟩ := eq_digitChar_of_mem_toDigits member
  exact all ⟨digit, bound⟩

/-- Digits without a sign denote the number that they were written for. -/
theorem signedDigits?_toDigits (negativeAllowed : Bool) (n : Nat) :
    signedDigits? negativeAllowed (Nat.toDigits 10 n) = some (n : Int) := by
  have read := digits?_toDigits n
  have plain : ∀ c ∈ Nat.toDigits 10 n, c ≠ '+' ∧ c ≠ '-' :=
    fun c member => (plain_of_mem_toDigits member).2
  unfold signedDigits?
  split
  · next first => exact absurd rfl (plain '+' (by simp [first])).1
  · next first => exact absurd rfl (plain '-' (by simp [first])).2
  · rw [read]
    rfl

/-- So do digits behind a plus sign. -/
theorem signedDigits?_plus_toDigits (negativeAllowed : Bool) (n : Nat) :
    signedDigits? negativeAllowed ('+' :: Nat.toDigits 10 n) = some (n : Int) := by
  rw [signedDigits?, digits?_toDigits]
  rfl

/-- A number is read back from its digits alone. -/
theorem integer?_toString {bounds : IntegerBounds} {n : Nat} (admitted : bounds.admits n) :
    integer? bounds (toString n) = some (n : Int) := by
  have digits : (toString n).toList = Nat.toDigits 10 n := Nat.toList_repr
  rw [integer?, digits, signedDigits?_toDigits, Option.filter_some, if_pos admitted]

/-- The ways to write a number where blanks are dropped: its digits, or a plus sign and its digits,
with blanks on both sides. -/
inductive Numeral (n : Nat) : String → Prop where
  | plain (before after : List Char) (front : ∀ c ∈ before, isBlank c = true)
      (back : ∀ c ∈ after, isBlank c = true) :
      Numeral n (String.ofList (before ++ Nat.toDigits 10 n ++ after))
  | plus (before after : List Char) (front : ∀ c ∈ before, isBlank c = true)
      (back : ∀ c ∈ after, isBlank c = true) :
      Numeral n (String.ofList (before ++ ('+' :: Nat.toDigits 10 n) ++ after))

/-- The digits of a number alone are one of these ways. -/
theorem numeral_toString (n : Nat) : Numeral n (toString n) := by
  have digits : toString n = String.ofList ([] ++ Nat.toDigits 10 n ++ []) := by
    rw [List.nil_append, List.append_nil]
    exact Nat.repr_eq_ofList_toDigits
  rw [digits]
  exact .plain [] [] nofun nofun

/-- A number is read back in whichever way it is written, if it is within the bounds of its word. -/
theorem Numeral.integer?_trim {bounds : IntegerBounds} {n : Nat} {text : String}
    (numeral : Numeral n text) (admitted : bounds.admits n) :
    integer? bounds (trim text) = some (n : Int) := by
  have solid : ∀ c ∈ Nat.toDigits 10 n, isBlank c = false :=
    fun c member => (plain_of_mem_toDigits member).1
  cases numeral with
  | plain before after front back =>
    rw [trim_surrounded front back Nat.toDigits_ne_nil (isTrimmed_of_solid solid), integer?,
      String.toList_ofList, signedDigits?_toDigits, Option.filter_some, if_pos admitted]
  | plus before after front back =>
    have signed : ∀ c ∈ '+' :: Nat.toDigits 10 n, isBlank c = false :=
      List.forall_mem_cons.mpr ⟨by decide, solid⟩
    rw [trim_surrounded front back (List.cons_ne_nil _ _) (isTrimmed_of_solid signed), integer?,
      String.toList_ofList, signedDigits?_plus_toDigits, Option.filter_some, if_pos admitted]

end OutboxRelay.Text

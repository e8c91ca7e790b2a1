import Mathlib.Algebra.Ring.Nat
import OutboxRelay.Identifier

/-!
# Identifiers read back

The text of an identifier is read back as that identifier, so that different identifiers have
different texts. Digits are read from the most significant one on, as they are written; hyphens are
found where the groups put them; and since a written identifier begins with a digit, it is taken
neither for a braced one nor for one behind a namespace.
-/

namespace OutboxRelay.Identifier

/-- A written digit stands for its value. -/
theorem hexValue?_digitChar {n : Nat} (digit : n < 16) : hexValue? (Nat.digitChar n) = some n := by
  have all : ∀ n : Fin 16, hexValue? (Nat.digitChar n) = some n.val := by decide
  exact all ⟨n, digit⟩

/-- Digits are read one after the other. -/
theorem hexAfter?_append (value : Nat) (first second : List Char) :
    hexAfter? value (first ++ second) = (hexAfter? value first).bind (hexAfter? · second) := by
  induction first generalizing value with
  | nil => rfl
  | cons c rest inductionHypothesis =>
    cases read : hexValue? c with
    | none => simp [hexAfter?, read]
    | some digit => simp [hexAfter?, read, inductionHypothesis]

/-- The lowest digits of a number that fits into them are read as that number, behind whatever was
read before. The induction is on the number of digits, the last of which is read last. -/
theorem hexAfter?_hexDigits (count value n : Nat) (fits : n < 16 ^ count) :
    hexAfter? value (hexDigits count n) = some (value * 16 ^ count + n) := by
  induction count generalizing n with
  | zero =>
    have zero : n = 0 := by simpa using fits
    simp [hexDigits, hexAfter?, zero]
  | succ count inductionHypothesis =>
    have higher : n / 16 < 16 ^ count := by
      rw [Nat.pow_succ] at fits
      exact Nat.div_lt_of_lt_mul (Nat.mul_comm _ _ ▸ fits)
    have lowest : hexValue? (Nat.digitChar (n % 16)) = some (n % 16) :=
      hexValue?_digitChar (Nat.mod_lt n (by decide))
    rw [hexDigits, hexAfter?_append, inductionHypothesis (n / 16) higher]
    simp only [Option.bind_some, hexAfter?, lowest, Option.some.injEq, Nat.pow_succ]
    have parts : 16 * (n / 16) + n % 16 = n := Nat.div_add_mod n 16
    rw [Nat.mul_add, Nat.add_assoc, parts, ← Nat.mul_assoc, Nat.mul_comm 16 value, Nat.mul_assoc,
      Nat.mul_comm 16]

/-- Every written character is a digit. -/
theorem eq_digitChar_of_mem_hexDigits {count n : Nat} {c : Char} (member : c ∈ hexDigits count n) :
    ∃ digit < 16, c = Nat.digitChar digit := by
  induction count generalizing n with
  | zero => cases member
  | succ count inductionHypothesis =>
    rcases List.mem_append.mp member with higher | lowest
    · exact inductionHypothesis higher
    · exact ⟨n % 16, Nat.mod_lt n (by decide), List.mem_singleton.mp lowest⟩

/-- Hyphens put in are taken out again, as long as there are digits for all groups. The induction is
on the sizes of the groups. -/
theorem unhyphenate?_hyphenate (sizes : List Nat) (digits : List Char)
    (enough : sizes.sum ≤ digits.length) :
    unhyphenate? sizes (hyphenate sizes digits) = some digits := by
  induction sizes generalizing digits with
  | nil => rfl
  | cons size sizes inductionHypothesis =>
    rw [List.sum_cons] at enough
    have length : (digits.take size).length = size := List.length_take_of_le (by omega)
    have remaining : sizes.sum ≤ (digits.drop size).length := by
      rw [List.length_drop]
      omega
    have front : (hyphenate (size :: sizes) digits).take size = digits.take size := by
      rw [hyphenate, List.take_append_of_le_length (by omega), List.take_take, Nat.min_self]
    have back : (hyphenate (size :: sizes) digits).drop size =
        '-' :: hyphenate sizes (digits.drop size) := by
      rw [hyphenate, List.drop_append_of_le_length (by omega), List.drop_of_length_le (by omega),
        List.nil_append]
    simp only [unhyphenate?, back, front, inductionHypothesis _ remaining, Option.map_some,
      List.take_append_drop]

/-- There is one hyphen for each group but the last. -/
theorem length_hyphenate (sizes : List Nat) (digits : List Char) :
    (hyphenate sizes digits).length = digits.length + sizes.length := by
  induction sizes generalizing digits with
  | nil => rfl
  | cons size sizes inductionHypothesis =>
    simp only [hyphenate, List.length_append, List.length_cons, inductionHypothesis,
      List.length_take, List.length_drop]
    omega

/-- A digit is no opening brace and does not begin the namespace. -/
theorem digitChar_begins_neither {digit : Nat} (bound : digit < 16) :
    Nat.digitChar digit ≠ '\x7b' ∧ (Nat.digitChar digit).toLower ≠ 'u' := by
  have all : ∀ n : Fin 16, Nat.digitChar n ≠ '\x7b' ∧ (Nat.digitChar n).toLower ≠ 'u' := by
    decide
  exact all ⟨digit, bound⟩

/-- The digits of an identifier are read back as that identifier. -/
theorem ofDigits?_hexDigits (id : Identifier) :
    ofDigits? (hexDigits 32 id.bits.toNat) = some id := by
  have fits : id.bits.toNat < 16 ^ 32 := id.bits.isLt
  rw [ofDigits?, if_pos (length_hexDigits 32 _), hexAfter?_hexDigits 32 0 _ fits]
  simp

/-- The text of an identifier is read back as that identifier. Of the forms that are read, the
hyphenated one is told by its length and its first character. -/
theorem ofText?_toText (id : Identifier) : ofText? id.toText = some id := by
  have count : (hexDigits 32 id.bits.toNat).length = 32 := length_hexDigits 32 _
  have grouped : ofGroups? (hyphenate groups (hexDigits 32 id.bits.toNat)) = some id := by
    have enough : groups.sum ≤ (hexDigits 32 id.bits.toNat).length := by
      rw [count]
      decide
    rw [ofGroups?, unhyphenate?_hyphenate groups _ enough, Option.bind_some, ofDigits?_hexDigits]
  have longer : (hyphenate groups (hexDigits 32 id.bits.toNat)).length = 36 := by
    rw [length_hyphenate, count]
    rfl
  obtain ⟨first, rest, digits⟩ := List.exists_cons_of_length_eq_add_one count
  obtain ⟨digit, bound, rfl⟩ : ∃ digit < 16, first = Nat.digitChar digit :=
    eq_digitChar_of_mem_hexDigits (digits ▸ List.mem_cons_self)
  obtain ⟨noBrace, noNamespace⟩ := digitChar_begins_neither bound
  obtain ⟨tail, text⟩ : ∃ tail, hyphenate groups (hexDigits 32 id.bits.toNat) =
      Nat.digitChar digit :: tail := ⟨_, by rw [digits]; rfl⟩
  have unnamed : dropUrn? (Nat.digitChar digit :: tail) = none := by
    rw [dropUrn?, if_neg]
    intro named
    exact noNamespace (List.cons.inj named).1
  rw [text] at grouped longer
  rw [toText, text, ofText?, String.toList_ofList]
  split
  · next braced => exact absurd (List.cons.inj braced).1 noBrace
  · next characters _ =>
    rw [unnamed, if_neg (by omega), grouped]

/-- Different identifiers have different texts. -/
theorem toText_injective : Function.Injective toText := by
  intro first second same
  have read := ofText?_toText first
  rw [same, ofText?_toText second] at read
  exact (Option.some.inj read).symm

end OutboxRelay.Identifier

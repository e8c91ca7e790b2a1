import Mathlib.Data.List.TakeDrop
import Mathlib.Data.Option.Basic
import OutboxRelay.Json.Printer
import OutboxRelay.Json.Reader
import OutboxRelay.Proofs.Fields
import OutboxRelay.Proofs.Identifier
import OutboxRelay.Proofs.Text.Digits

/-!
# JSON read back

The compact text of a plain value is read back as that value. A value is plain if its numbers are
whole and fit sixty-four bits, with or without sign, and its objects list their fields in order;
everything that the library builds is.

A reader of the front of a text has to know where to stop. What stands behind a value inside a text
is a comma or a closing bracket, or nothing, and none of these can go on a number; all other values
end where their own last character says so.
-/

namespace OutboxRelay.Json

/-- A value that is written so that it can be read back. Numbers with a fraction are left out, as
the library builds none. -/
inductive Plain : Json → Prop where
  | null : Plain null
  | bool (value : Bool) : Plain (bool value)
  | integer (value : Int)
    (fits : (Text.IntegerBounds.signed 64).admits value ∨
      (Text.IntegerBounds.unsigned 64).admits value) : Plain (integer value)
  | text (value : String) : Plain (text value)
  | array (elements : List Json) (all : ∀ element ∈ elements, Plain element) :
    Plain (array elements)
  | object (fields : List (String × Json)) (ordered : Fields.Ordered fields)
    (all : ∀ field ∈ fields, Plain field.2) : Plain (object fields)

/-- The object of plain values is plain, in whatever order they are given. -/
theorem plain_ofFields {fields : List (String × Json)} (all : ∀ field ∈ fields, Plain field.2) :
    Plain (ofFields fields) :=
  .object _ (Fields.ordered_ofList fields) fun field member => all field (Fields.mem_ofList member)

/-- What can stand behind a value inside a text: a comma, a closing bracket or brace, or nothing. -/
def Ends (rest : List Char) : Prop :=
  ∀ c ∈ rest.head?, c = ',' ∨ c = ']' ∨ c = '\x7d'

theorem ends_nil : Ends [] := by
  intro c member
  cases member

theorem ends_comma (rest : List Char) : Ends (',' :: rest) := by
  rintro c ⟨⟩
  exact Or.inl rfl

theorem ends_bracket (rest : List Char) : Ends (']' :: rest) := by
  rintro c ⟨⟩
  exact Or.inr (Or.inl rfl)

theorem ends_brace (rest : List Char) : Ends ('\x7d' :: rest) := by
  rintro c ⟨⟩
  exact Or.inr (Or.inr rfl)

/-- Nothing is skipped in front of a character that is no blank. -/
theorem skipSpace_cons {c : Char} (visible : isSpace c = false) (rest : List Char) :
    skipSpace (c :: rest) = c :: rest := by
  rw [skipSpace, List.dropWhile_cons, visible]
  rfl

/-! ### Texts -/

/-- A control character is read back from its code point: its two low digits are those of a number
below 32. -/
theorem readCodePoint?_control {c : Char} (control : c.toNat < 0x20) (rest : List Char) :
    readCodePoint? ('0' :: '0' :: hexDigit (c.toNat / 16) :: hexDigit c.toNat :: rest) =
      some (c, rest) := by
  have high : Identifier.hexValue? (hexDigit (c.toNat / 16)) = some (c.toNat / 16) := by
    rw [hexDigit, Nat.mod_eq_of_lt (by omega)]
    exact Identifier.hexValue?_digitChar (by omega)
  have low : Identifier.hexValue? (hexDigit c.toNat) = some (c.toNat % 16) :=
    Identifier.hexValue?_digitChar (Nat.mod_lt _ (by decide))
  have zero : Identifier.hexValue? '0' = some 0 := by decide
  have unit : readUnit? ('0' :: '0' :: hexDigit (c.toNat / 16) :: hexDigit c.toNat :: rest) =
      some (c.toNat, rest) := by
    simp only [readUnit?, Identifier.hexAfter?, zero, high, low, Option.map_some]
    congr 2
    omega
  have small : c.toNat < 0xd800 ∨ 0xdfff < c.toNat := Or.inl (by omega)
  rw [readCodePoint?, unit, Option.bind_eq_bind, Option.bind_some]
  dsimp only
  rw [if_pos small, Char.ofNat_toNat]
  rfl

/-- A written character is read back as itself. The cases are those of the writer. -/
theorem readText?_escapeCharacter (fuel : Nat) (read : List Char) (c : Char) (rest : List Char) :
    readText? (fuel + 1) read (escapeCharacter c ++ rest) = readText? fuel (c :: read) rest := by
  unfold escapeCharacter
  split
  · next quote => subst quote; rfl
  split
  · next backslash => subst backslash; rfl
  split
  · next backspace => subst backspace; rfl
  split
  · next feed => subst feed; rfl
  split
  · next newline => subst newline; rfl
  split
  · next carriage => subst carriage; rfl
  split
  · next tab => subst tab; rfl
  split
  · next control =>
    simp only [List.cons_append, List.nil_append, readText?, readCodePoint?_control control]
    rfl
  · next noQuote noBackslash _ _ _ _ _ printable =>
    rw [List.singleton_append, readText?, if_neg (not_or.mpr ⟨printable, noBackslash⟩)]
    · exact noQuote
    · intro _ backslash
      exact absurd backslash noBackslash
    · intro _ _ backslash
      exact absurd backslash noBackslash

/-- A written text is read back up to its closing quote. The induction is on the characters, over
all that was read before. -/
theorem readText?_flatMap (characters read rest : List Char) {fuel : Nat}
    (enough : characters.length < fuel) :
    readText? fuel read (characters.flatMap escapeCharacter ++ '"' :: rest) =
      some (String.ofList (read.reverse ++ characters), rest) := by
  induction characters generalizing fuel read with
  | nil =>
    obtain ⟨fuel, rfl⟩ := Nat.exists_eq_add_one.mpr enough
    rw [List.append_nil]
    rfl
  | cons c others inductionHypothesis =>
    obtain ⟨fuel, rfl⟩ := Nat.exists_eq_add_one.mpr (Nat.zero_lt_of_lt enough)
    have left : others.length < fuel := by
      rw [List.length_cons] at enough
      omega
    rw [List.flatMap_cons, List.append_assoc, readText?_escapeCharacter,
      inductionHypothesis _ left, List.reverse_cons, List.append_assoc, List.singleton_append]

theorem length_le_flatMap_escapeCharacter (characters : List Char) :
    characters.length ≤ (characters.flatMap escapeCharacter).length := by
  induction characters with
  | nil => exact Nat.le_refl 0
  | cons c others inductionHypothesis =>
    have written : 1 ≤ (escapeCharacter c).length := by
      unfold escapeCharacter
      repeat' split
      all_goals simp
    rw [List.flatMap_cons, List.length_append, List.length_cons]
    omega

/-- A text is read back from behind its opening quote. -/
theorem readText?_textCharacters (value : String) (rest : List Char) :
    let inside := value.toList.flatMap escapeCharacter ++ '"' :: rest
    readText? (inside.length + 1) [] inside = some (value, rest) := by
  have enough : value.toList.length <
      (value.toList.flatMap escapeCharacter ++ '"' :: rest).length + 1 := by
    have written := length_le_flatMap_escapeCharacter value.toList
    rw [List.length_append]
    omega
  simpa using readText?_flatMap value.toList [] rest enough

/-! ### Numbers -/

/-- What ends a value is no digit. -/
theorem Ends.takeWhile_eq_nil {rest : List Char} (ends : Ends rest) :
    rest.takeWhile (fun c => (Text.digitValue? c).isSome) = [] := by
  cases rest with
  | nil => rfl
  | cons c others =>
    have noDigit : (Text.digitValue? c).isSome = false := by
      rcases ends c rfl with rfl | rfl | rfl <;> decide
    rw [List.takeWhile_cons, noDigit]
    rfl

/-- The digits of a number are spanned up to the end of the value. -/
theorem spanDigits_toDigits (n : Nat) {rest : List Char} (ends : Ends rest) :
    spanDigits (Nat.toDigits 10 n ++ rest) = (Nat.toDigits 10 n, rest) := by
  have digits : ∀ c ∈ Nat.toDigits 10 n, (Text.digitValue? c).isSome :=
    fun c member => Text.digitValue?_of_mem_toDigits member
  have spanned : (Nat.toDigits 10 n ++ rest).takeWhile (fun c => (Text.digitValue? c).isSome) = _ :=
    List.takeWhile_append_of_pos digits
  rw [ends.takeWhile_eq_nil, List.append_nil] at spanned
  have dropped : (Nat.toDigits 10 n ++ rest).dropWhile (fun c => (Text.digitValue? c).isSome) = _ :=
    List.dropWhile_append_of_pos digits
  have whole : rest.dropWhile (fun c => (Text.digitValue? c).isSome) = rest := by
    have parts := List.takeWhile_append_dropWhile
      (p := fun c => (Text.digitValue? c).isSome) (l := rest)
    rwa [ends.takeWhile_eq_nil, List.nil_append] at parts
  rw [spanDigits, List.span_eq_takeWhile_dropWhile, spanned, dropped, whole]

/-- Neither a fraction nor an exponent begins where a value ends. -/
theorem Ends.read_nothing {rest : List Char} (ends : Ends rest) :
    readFraction? rest = some (none, rest) ∧ readExponent? rest = some (false, 0, rest) := by
  cases rest with
  | nil => exact ⟨rfl, rfl⟩
  | cons c others => rcases ends c rfl with rfl | rfl | rfl <;> exact ⟨rfl, rfl⟩

/-- A whole number is read back where it fits. -/
theorem ofWhole?_toDigits (negative : Bool) {n : Nat}
    (fits : (if negative then Text.IntegerBounds.signed 64
      else Text.IntegerBounds.unsigned 64).admits
      (if negative then -Int.ofNat n else Int.ofNat n)) (noZero : ¬(negative ∧ n = 0)) :
    ofWhole? negative (Nat.toDigits 10 n) =
      some (integer (if negative then -Int.ofNat n else Int.ofNat n)) := by
  simp only [ofWhole?, Text.digits?_toDigits, Option.bind_eq_bind, Option.bind_some]
  rw [if_pos ⟨fits, noZero⟩]
  rfl

/-- The digits of a number are accepted as a whole part: zero is written alone. -/
theorem toDigits_wellFormed (n : Nat) :
    Nat.toDigits 10 n ≠ [] ∧
      ((Nat.toDigits 10 n).length = 1 ∨ (Nat.toDigits 10 n).head? ≠ some '0') := by
  refine ⟨Nat.toDigits_ne_nil, ?_⟩
  by_cases zero : n = 0
  · subst zero
    exact Or.inl rfl
  · exact Or.inr (Text.head?_toDigits (Nat.pos_of_ne_zero zero))

/-- The digits of a number begin with a digit. -/
theorem toDigits_eq_cons (n : Nat) :
    ∃ digit < 10, ∃ rest, Nat.toDigits 10 n = Nat.digitChar digit :: rest := by
  cases digits : Nat.toDigits 10 n with
  | nil => exact absurd digits Nat.toDigits_ne_nil
  | cons c rest =>
    obtain ⟨digit, bound, rfl⟩ : ∃ digit < 10, c = Nat.digitChar digit :=
      Text.eq_digitChar_of_mem_toDigits (n := n) (digits ▸ List.mem_cons_self)
    exact ⟨digit, bound, rest, rfl⟩

/-- A digit is no sign and begins no other kind of value. -/
theorem digitChar_begins_number {digit : Nat} (bound : digit < 10) :
    Nat.digitChar digit ∉ ['-', 'n', 't', 'f', '"', '[', '\x7b', ']', '\x7d'] ∧
      isSpace (Nat.digitChar digit) = false := by
  have all : ∀ n : Fin 10,
      Nat.digitChar n ∉ ['-', 'n', 't', 'f', '"', '[', '\x7b', ']', '\x7d'] ∧
        isSpace (Nat.digitChar n) = false := by decide
  exact all ⟨digit, bound⟩

/-- An integer that fits is read back up to the end of the value. Its digits end there because no
digit can follow. -/
theorem readNumber?_integer {value : Int}
    (fits : (Text.IntegerBounds.signed 64).admits value ∨
      (Text.IntegerBounds.unsigned 64).admits value) {rest : List Char} (ends : Ends rest) :
    readNumber? (characters (integer value) ++ rest) = some (integer value, rest) := by
  obtain ⟨noFraction, noExponent⟩ := ends.read_nothing
  cases value with
  | ofNat n =>
    have written : characters (integer (Int.ofNat n)) = Nat.toDigits 10 n := by
      rw [characters, Int.toString_eq_repr, Int.repr_eq_if]
      simp
    have bounded : (Text.IntegerBounds.unsigned 64).admits (Int.ofNat n) := by
      rw [Text.admits_signed_64, Text.admits_unsigned_64, Int.ofNat_eq_natCast] at fits
      rw [Text.admits_unsigned_64, Int.ofNat_eq_natCast]
      omega
    have whole := ofWhole?_toDigits false bounded (by simp)
    obtain ⟨digit, bound, tail, digits⟩ := toDigits_eq_cons n
    have unsigned : Nat.digitChar digit ≠ '-' := fun sign =>
      (digitChar_begins_number bound).1 (sign ▸ List.mem_cons_self)
    rw [written, readNumber?, spanDigits_toDigits n ends]
    · dsimp only
      rw [guard, if_pos (toDigits_wellFormed n), noFraction]
      simp [noExponent, whole]
    · intro others sign
      rw [digits] at sign
      exact unsigned (List.cons.inj sign).1
  | negSucc n =>
    have written : characters (integer (Int.negSucc n)) = '-' :: Nat.toDigits 10 (n + 1) := by
      rw [characters, Int.toString_eq_repr, Int.repr_eq_if]
      simp
    have bounded : (Text.IntegerBounds.signed 64).admits (-Int.ofNat (n + 1)) := by
      rw [Text.admits_signed_64, Text.admits_unsigned_64] at fits
      rw [Text.admits_signed_64, Int.ofNat_eq_natCast]
      omega
    have whole : ofWhole? true (Nat.toDigits 10 (n + 1)) = some (integer (Int.negSucc n)) :=
      ofWhole?_toDigits true bounded (by simp)
    rw [written, List.cons_append, readNumber?, spanDigits_toDigits (n + 1) ends]
    dsimp only
    rw [guard, if_pos (toDigits_wellFormed (n + 1)), noFraction]
    simp [noExponent, whole]

/-! ### Values -/

/-- A whole number begins with a sign or a digit, as no other kind of value does. -/
theorem characters_integer_eq_cons (value : Int) :
    ∃ first rest, characters (integer value) = first :: rest ∧ isSpace first = false ∧
      first ∉ ['n', 't', 'f', '"', '[', '\x7b', ']', '\x7d'] := by
  rw [characters, Int.toString_eq_repr, Int.repr_eq_if]
  split
  · obtain ⟨digit, bound, rest, digits⟩ := toDigits_eq_cons value.toNat
    obtain ⟨other, visible⟩ := digitChar_begins_number bound
    refine ⟨_, rest, ?_, visible, fun member => other (List.mem_cons_of_mem _ member)⟩
    rw [Nat.toList_repr, digits]
  · exact ⟨'-', _, by simp; rfl, rfl, by decide⟩

/-- So a whole number is taken for a number. -/
theorem readValue?_integer (value : Int) (fuel : Nat) (rest : List Char) :
    readValue? (fuel + 1) (characters (integer value) ++ rest) =
      readNumber? (characters (integer value) ++ rest) := by
  obtain ⟨first, tail, written, visible, other⟩ := characters_integer_eq_cons value
  simp only [List.mem_cons, List.not_mem_nil, or_false, not_or] at other
  rw [written, List.cons_append, readValue?, skipSpace_cons visible]
  split
  all_goals first
    | rfl
    | next begins =>
      injection begins with same
      subst same
      simp at other

/-- A plain value begins with a character that is neither a blank nor a closing bracket. -/
theorem Plain.characters_eq_cons {value : Json} (plain : Plain value) :
    ∃ first rest, characters value = first :: rest ∧ isSpace first = false ∧ first ≠ ']' := by
  cases plain with
  | null => exact ⟨_, _, rfl, rfl, by decide⟩
  | bool value => cases value <;> exact ⟨_, _, rfl, rfl, by decide⟩
  | integer value fits =>
    obtain ⟨first, rest, written, visible, other⟩ := characters_integer_eq_cons value
    exact ⟨first, rest, written, visible, fun bracket => other (by simp [bracket])⟩
  | text value => exact ⟨_, _, rfl, rfl, by decide⟩
  | array elements all => exact ⟨_, _, rfl, rfl, by decide⟩
  | object fields ordered all => exact ⟨_, _, rfl, rfl, by decide⟩

theorem elementCharacters_cons (element next : Json) (others : List Json) :
    elementCharacters (element :: next :: others) =
      characters element ++ ',' :: elementCharacters (next :: others) := by
  simp [elementCharacters]

theorem fieldCharacters_cons (key : String) (value : Json) (next : String × Json)
    (others : List (String × Json)) :
    fieldCharacters ((key, value) :: next :: others) =
      textCharacters key ++
        ':' :: (characters value ++ ',' :: fieldCharacters (next :: others)) := by
  simp [fieldCharacters]

/-- Elements begin as the first one does. -/
theorem elementCharacters_eq_cons {element : Json} (plain : Plain element) (others : List Json) :
    ∃ first rest, elementCharacters (element :: others) = first :: rest ∧
      isSpace first = false ∧ first ≠ ']' := by
  obtain ⟨first, rest, written, visible, noBracket⟩ := plain.characters_eq_cons
  cases others with
  | nil => exact ⟨first, rest, written, visible, noBracket⟩
  | cons next others =>
    refine ⟨first, rest ++ ',' :: elementCharacters (next :: others), ?_, visible, noBracket⟩
    rw [elementCharacters_cons, written, List.cons_append]

/-- A value is read back up to its end if there is fuel for every character of it. Fuel is what
bounds the reader; a text brings enough of it for itself. -/
def ReadsBack (value : Json) : Prop :=
  ∀ rest fuel, Ends rest → (characters value).length < fuel →
    readValue? fuel (characters value ++ rest) = some (value, rest)

/-- Elements that are read back one by one are read back as a list. The induction is on the
elements; what stands behind each but the last is a comma. -/
theorem readElements?_elementCharacters {element : Json} {others : List Json}
    (back : ∀ value ∈ element :: others, ReadsBack value) (rest : List Char) {fuel : Nat}
    (enough : (elementCharacters (element :: others)).length + 1 < fuel) :
    readElements? fuel (elementCharacters (element :: others) ++ ']' :: rest) =
      some (element :: others, rest) := by
  induction others generalizing element fuel with
  | nil =>
    obtain ⟨fuel, rfl⟩ := Nat.exists_eq_add_one.mpr (Nat.zero_lt_of_lt enough)
    have fueled : (characters element).length < fuel := Nat.lt_of_succ_lt_succ enough
    rw [elementCharacters, readElements?,
      back element List.mem_cons_self _ _ (ends_bracket rest) fueled]
    rfl
  | cons next others inductionHypothesis =>
    obtain ⟨fuel, rfl⟩ := Nat.exists_eq_add_one.mpr (Nat.zero_lt_of_lt enough)
    rw [elementCharacters_cons, List.length_append, List.length_cons] at enough
    have fueled : (characters element).length < fuel := by omega
    have later : readElements? fuel (elementCharacters (next :: others) ++ ']' :: rest) =
        some (next :: others, rest) :=
      inductionHypothesis (fun value member => back value (List.mem_cons_of_mem _ member))
        (by omega)
    rw [elementCharacters_cons, List.append_assoc, List.cons_append, readElements?,
      back element List.mem_cons_self _ _ (ends_comma _) fueled]
    simp only [skipSpace_cons (c := ',') rfl, later]
    rfl

/-- Fields whose values are read back one by one are read back as a list. -/
theorem readFields?_fieldCharacters {first : String × Json} {others : List (String × Json)}
    (back : ∀ field ∈ first :: others, ReadsBack field.2) (rest : List Char) {fuel : Nat}
    (enough : (fieldCharacters (first :: others)).length + 1 < fuel) :
    readFields? fuel (fieldCharacters (first :: others) ++ '\x7d' :: rest) =
      some (first :: others, rest) := by
  have keyRead : ∀ (key : String) (behind : List Char),
      readText? ((key.toList.flatMap escapeCharacter ++ '"' :: behind).length + 1) []
        (key.toList.flatMap escapeCharacter ++ '"' :: behind) = some (key, behind) :=
    readText?_textCharacters
  induction others generalizing first fuel with
  | nil =>
    obtain ⟨fuel, rfl⟩ := Nat.exists_eq_add_one.mpr (Nat.zero_lt_of_lt enough)
    obtain ⟨key, value⟩ := first
    rw [fieldCharacters, List.length_append, List.length_cons] at enough
    have fueled : (characters value).length < fuel := by omega
    have valueRead := back (key, value) List.mem_cons_self _ _ (ends_brace rest) fueled
    simp only [fieldCharacters, textCharacters, List.cons_append, List.append_assoc,
      List.nil_append, readFields?, skipSpace_cons (c := '"') rfl, keyRead,
      skipSpace_cons (c := ':') rfl, valueRead, skipSpace_cons (c := '\x7d') rfl]
  | cons next others inductionHypothesis =>
    obtain ⟨fuel, rfl⟩ := Nat.exists_eq_add_one.mpr (Nat.zero_lt_of_lt enough)
    obtain ⟨key, value⟩ := first
    rw [fieldCharacters_cons, List.length_append, List.length_cons, List.length_append,
      List.length_cons] at enough
    have fueled : (characters value).length < fuel := by omega
    have valueRead := back (key, value) List.mem_cons_self _ _
      (ends_comma (fieldCharacters (next :: others) ++ '\x7d' :: rest)) fueled
    have later : readFields? fuel (fieldCharacters (next :: others) ++ '\x7d' :: rest) =
        some (next :: others, rest) :=
      inductionHypothesis (fun field member => back field (List.mem_cons_of_mem _ member))
        (by omega)
    simp only [fieldCharacters_cons, textCharacters, List.cons_append, List.append_assoc,
      List.nil_append, readFields?, skipSpace_cons (c := '"') rfl, keyRead,
      skipSpace_cons (c := ':') rfl, valueRead, skipSpace_cons (c := ',') rfl, later]
    rfl

/-- An array is read back if its elements are. -/
theorem readsBack_array {elements : List Json} (all : ∀ element ∈ elements, Plain element)
    (back : ∀ element ∈ elements, ReadsBack element) : ReadsBack (array elements) := by
  intro rest fuel ends enough
  obtain ⟨fuel, rfl⟩ := Nat.exists_eq_add_one.mpr (Nat.zero_lt_of_lt enough)
  cases elements with
  | nil => rfl
  | cons element others =>
    have enoughInside : (elementCharacters (element :: others)).length + 1 < fuel := by
      rw [characters, List.cons_append, List.length_cons, List.length_append] at enough
      exact Nat.lt_of_succ_lt_succ enough
    have elements : readElements? fuel (elementCharacters (element :: others) ++ ']' :: rest) =
        some (element :: others, rest) :=
      readElements?_elementCharacters back rest enoughInside
    obtain ⟨c, tail, written, visible, noBracket⟩ :=
      elementCharacters_eq_cons (all element List.mem_cons_self) others
    rw [written, List.cons_append] at elements
    simp only [characters, List.cons_append, List.append_assoc, List.nil_append, readValue?,
      skipSpace_cons (c := '[') rfl, written, skipSpace_cons visible]
    split
    · next closed => exact absurd (List.cons.inj closed).1 noBracket
    · rw [elements]
      rfl

/-- An object is read back if its fields are. They are in order already, so that reading does not
move them. -/
theorem readsBack_object {fields : List (String × Json)} (ordered : Fields.Ordered fields)
    (back : ∀ field ∈ fields, ReadsBack field.2) : ReadsBack (object fields) := by
  intro rest fuel ends enough
  obtain ⟨fuel, rfl⟩ := Nat.exists_eq_add_one.mpr (Nat.zero_lt_of_lt enough)
  cases fields with
  | nil => rfl
  | cons field others =>
    have enoughInside : (fieldCharacters (field :: others)).length + 1 < fuel := by
      rw [characters, List.cons_append, List.length_cons, List.length_append] at enough
      exact Nat.lt_of_succ_lt_succ enough
    have fields : readFields? fuel (fieldCharacters (field :: others) ++ '\x7d' :: rest) =
        some (field :: others, rest) :=
      readFields?_fieldCharacters back rest enoughInside
    have written : ∃ tail, fieldCharacters (field :: others) = '"' :: tail := by
      obtain ⟨key, value⟩ := field
      cases others with
      | nil => exact ⟨_, rfl⟩
      | cons next others => exact ⟨_, fieldCharacters_cons key value next others⟩
    obtain ⟨tail, written⟩ := written
    rw [written, List.cons_append] at fields
    simp only [characters, List.cons_append, List.append_assoc, List.nil_append, readValue?,
      skipSpace_cons (c := '\x7b') rfl, written, skipSpace_cons (c := '"') rfl]
    split
    · next closed => exact absurd (List.cons.inj closed).1 (by decide)
    · rw [fields, Option.map_some, ofFields, Fields.ofList_eq_self ordered]

/-- Every plain value is read back. The induction follows the value; the members of an array or an
object have less fuel, but also fewer characters. -/
theorem Plain.readsBack {value : Json} (plain : Plain value) : ReadsBack value := by
  induction plain with
  | null =>
    intro rest fuel ends enough
    obtain ⟨fuel, rfl⟩ := Nat.exists_eq_add_one.mpr (Nat.zero_lt_of_lt enough)
    rfl
  | bool value =>
    intro rest fuel ends enough
    obtain ⟨fuel, rfl⟩ := Nat.exists_eq_add_one.mpr (Nat.zero_lt_of_lt enough)
    cases value <;> rfl
  | integer value fits =>
    intro rest fuel ends enough
    obtain ⟨fuel, rfl⟩ := Nat.exists_eq_add_one.mpr (Nat.zero_lt_of_lt enough)
    exact (readValue?_integer value fuel rest).trans (readNumber?_integer fits ends)
  | text value =>
    intro rest fuel ends enough
    obtain ⟨fuel, rfl⟩ := Nat.exists_eq_add_one.mpr (Nat.zero_lt_of_lt enough)
    simp only [characters, textCharacters, List.cons_append, List.append_assoc, List.nil_append,
      readValue?, skipSpace_cons (c := '"') rfl, readText?_textCharacters]
    rfl
  | array elements all inductionHypothesis => exact readsBack_array all inductionHypothesis
  | object fields ordered all inductionHypothesis =>
    exact readsBack_object ordered inductionHypothesis

/-- The text of a plain value is read back as that value, and nothing is left behind it. -/
theorem ofText?_compact {value : Json} (plain : Plain value) :
    ofText? value.compact = some value := by
  have read := plain.readsBack [] _ ends_nil (Nat.lt_add_one _)
  rw [List.append_nil] at read
  rw [ofText?, compact, String.toList_ofList]
  dsimp only
  rw [read]
  rfl

end OutboxRelay.Json

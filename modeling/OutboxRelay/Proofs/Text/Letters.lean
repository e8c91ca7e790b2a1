import OutboxRelay.Text.Letters

/-!
# Lower case of ASCII texts

Of the ASCII characters only the twenty-six capital letters have another lower-case form, and none
of them is read differently at the end of a word. So an ASCII text is lowered letter by letter.
-/

namespace OutboxRelay.Text

/-- The first run holds the ASCII capitals, and all others begin behind ASCII. -/
theorem find?_lowercaseRuns {code : Nat} (ascii : code < 128) :
    lowercaseRuns.find? (·.contains code) =
      if 0x41 ≤ code ∧ code ≤ 0x5a then some ⟨0x41, 0x5a, 1, 32⟩ else none := by
  have capitals : lowercaseRuns = ⟨0x41, 0x5a, 1, 32⟩ :: lowercaseRuns.tail := rfl
  have behind : ∀ run ∈ lowercaseRuns.tail, 128 ≤ run.first := by decide +kernel
  have others : lowercaseRuns.tail.find? (·.contains code) = none := by
    refine List.find?_eq_none.mpr fun run member held => ?_
    have start := behind run member
    simp only [CaseRun.contains, Bool.and_eq_true, decide_eq_true_eq] at held
    omega
  have first : CaseRun.contains ⟨0x41, 0x5a, 1, 32⟩ code = decide (0x41 ≤ code ∧ code ≤ 0x5a) := by
    simp [CaseRun.contains, Nat.mod_one]
  rw [capitals, List.find?_cons, others, first]
  by_cases capital : 0x41 ≤ code ∧ code ≤ 0x5a
  · rw [if_pos capital, decide_eq_true capital]
  · rw [if_neg capital, decide_eq_false capital]

/-- An ASCII character is lowered to one character. -/
theorem lowercaseCharacter_of_ascii {c : Char} (ascii : c.toNat < 128) :
    lowercaseCharacter c = [c.toLower] := by
  have noDot : c.toNat ≠ 0x130 := by omega
  rw [lowercaseCharacter, if_neg noDot, find?_lowercaseRuns ascii]
  by_cases capital : 0x41 ≤ c.toNat ∧ c.toNat ≤ 0x5a
  · have all : ∀ letter : Fin 26, (Char.ofNat (0x41 + letter)).toLower =
        Char.ofNat (0x41 + letter + 32) := by decide
    have lowered := all ⟨c.toNat - 0x41, by omega⟩
    have place : 0x41 + (c.toNat - 0x41) = c.toNat := by omega
    simp only [place, Char.ofNat_toNat] at lowered
    rw [if_pos capital, lowered]
    rfl
  · have lowered : c.toLower = c := by
      unfold Char.toLower
      rw [dif_neg]
      exact fun within => capital
        ⟨UInt32.le_iff_toNat_le.mp within.1, UInt32.le_iff_toNat_le.mp within.2⟩
    rw [if_neg capital, lowered]

theorem lowercaseAfter_of_ascii {text : List Char} (ascii : ∀ c ∈ text, c.toNat < 128)
    (before : List Char) : lowercaseAfter before text = text.map Char.toLower := by
  induction text generalizing before with
  | nil => rfl
  | cons c rest inductionHypothesis =>
    have small : c.toNat < 128 := ascii c List.mem_cons_self
    have noSigma : c.toNat ≠ 0x3a3 := by omega
    have later := inductionHypothesis
      (fun other member => ascii other (List.mem_cons_of_mem c member)) (c :: before)
    rw [lowercaseAfter, later]
    simp only [if_neg noSigma, lowercaseCharacter_of_ascii small, List.singleton_append,
      List.map_cons]

/-- The capital letters that are lowered in this way are ASCII themselves. -/
theorem ascii_of_toLower {c : Char} (ascii : c.toLower.toNat < 128) : c.toNat < 128 := by
  unfold Char.toLower at ascii
  split at ascii
  · next capital =>
    have last : c.toNat ≤ 'Z'.toNat := UInt32.le_iff_toNat_le.mp capital.2
    exact Nat.lt_of_le_of_lt last (by decide)
  · exact ascii

/-- A text that is a word of ASCII letters up to their case is lowered to that word, if the word is
in lower case. The rules for other letters never come into it. -/
theorem lowercase_eq {text word : String} (ascii : ∀ c ∈ word.toList, c.toNat < 128)
    (same : text.toList.map Char.toLower = word.toList) : lowercase text = word := by
  have asciiToo : ∀ c ∈ text.toList, c.toNat < 128 := by
    intro c member
    refine ascii_of_toLower (ascii _ ?_)
    rw [← same]
    exact List.mem_map_of_mem member
  rw [lowercase, lowercaseAfter_of_ascii asciiToo, same, String.ofList_toList]

end OutboxRelay.Text

import OutboxRelay.Text.Blank

/-!
# Trimmed texts

Trimming drops a blank run at either end, and what is left neither begins nor ends with a blank. The
other way round, blanks that are put around such a text are just what trimming drops.
-/

namespace OutboxRelay.Text

/-- A text that neither begins nor ends with a blank. The empty text is one. -/
structure IsTrimmed (text : String) : Prop where
  front : ∀ c ∈ text.toList.head?, isBlank c = false
  back : ∀ c ∈ text.toList.getLast?, isBlank c = false

theorem not_isBlank_head?_trimFront (characters : List Char) :
    ∀ c ∈ (trimFront characters).head?, isBlank c = false := by
  intro c first
  obtain ⟨rest, trimmed⟩ := List.head?_eq_some_iff.mp first
  exact not_isBlank_head_trimFront trimmed

/-- Trimming at the end keeps the front. -/
theorem trimBack_prefix (characters : List Char) : trimBack characters <+: characters := by
  have suffix : trimFront characters.reverse <:+ characters.reverse := List.dropWhile_suffix isBlank
  rw [trimBack, ← List.reverse_suffix, List.reverse_reverse]
  exact suffix

theorem isTrimmed_trim (text : String) : IsTrimmed (trim text) := by
  rw [trim]
  constructor
  · intro c first
    rw [String.toList_ofList] at first
    obtain ⟨rest, trimmed⟩ := List.head?_eq_some_iff.mp first
    obtain ⟨dropped, whole⟩ := trimBack_prefix (trimFront text.toList)
    rw [trimmed] at whole
    exact not_isBlank_head_trimFront whole.symm
  · intro c last
    rw [String.toList_ofList, trimBack, List.getLast?_reverse] at last
    exact not_isBlank_head?_trimFront _ c last

/-- Blanks in front do not matter to trimming there. -/
theorem trimFront_append {blanks : List Char} (blank : ∀ c ∈ blanks, isBlank c = true)
    (text : List Char) : trimFront (blanks ++ text) = trimFront text :=
  List.dropWhile_append_of_pos blank

/-- What does not begin with a blank stays. -/
theorem trimFront_eq_self {text : List Char} (solid : ∀ c ∈ text.head?, isBlank c = false) :
    trimFront text = text := by
  cases text with
  | nil => rfl
  | cons c rest => exact List.dropWhile_cons_of_neg (Bool.eq_false_iff.mp (solid c rfl))

theorem isTrimmed_of_solid {text : List Char} (solid : ∀ c ∈ text, isBlank c = false) :
    IsTrimmed (String.ofList text) := by
  constructor
  · intro c first
    rw [String.toList_ofList] at first
    exact solid c (List.mem_of_head? first)
  · intro c last
    rw [String.toList_ofList] at last
    exact solid c (List.mem_of_getLast? last)

/-- Trimming takes blanks off again that were put around a text, provided that the text itself has
none at its ends. -/
theorem trim_surrounded {before core after : List Char}
    (front : ∀ c ∈ before, isBlank c = true) (back : ∀ c ∈ after, isBlank c = true)
    (nonempty : core ≠ []) (trimmed : IsTrimmed (String.ofList core)) :
    trim (String.ofList (before ++ core ++ after)) = String.ofList core := by
  have solidFront : ∀ c ∈ (core ++ after).head?, isBlank c = false := by
    obtain ⟨first, rest, rfl⟩ := List.exists_cons_of_ne_nil nonempty
    simpa using trimmed.front
  have solidBack : ∀ c ∈ core.reverse.head?, isBlank c = false := by
    rw [List.head?_reverse]
    simpa using trimmed.back
  have blank : ∀ c ∈ after.reverse, isBlank c = true :=
    fun c member => back c (List.mem_reverse.mp member)
  rw [trim, String.toList_ofList, List.append_assoc, trimFront_append front,
    trimFront_eq_self solidFront, trimBack, List.reverse_append, trimFront_append blank,
    trimFront_eq_self solidBack, List.reverse_reverse]

end OutboxRelay.Text

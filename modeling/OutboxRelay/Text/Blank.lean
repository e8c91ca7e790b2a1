/-!
# Blanks

Blank characters and trimming. A character is blank when Unicode gives it the property
White_Space; trimming removes the longest blank run at either end and nothing else, so that the
first character of what is left is never blank.
-/

namespace OutboxRelay.Text

/-- Blank characters are the twenty-five that carry the Unicode property White_Space. -/
def isBlank (c : Char) : Bool :=
  let code := c.toNat
  (9 ≤ code && code ≤ 13) || code == 0x20 || code == 0x85 || code == 0xa0 || code == 0x1680 ||
    (0x2000 ≤ code && code ≤ 0x200a) || code == 0x2028 || code == 0x2029 || code == 0x202f ||
    code == 0x205f || code == 0x3000

/-- Drop the blanks in front. -/
def trimFront (characters : List Char) : List Char :=
  characters.dropWhile isBlank

/-- Drop the blanks at the end. -/
def trimBack (characters : List Char) : List Char :=
  (trimFront characters.reverse).reverse

/-- The text without the blanks at its two ends. -/
def trim (text : String) : String :=
  String.ofList (trimBack (trimFront text.toList))

/-- Make one space of every run of blanks between words, and drop those at the ends. -/
def squeeze (text : String) : String :=
  let words := text.toList.splitBy fun a b => isBlank a == isBlank b
  " ".intercalate ((words.filter (!·.all isBlank)).map String.ofList)

/-- A text is blank when trimming leaves nothing of it. -/
def isBlankText (text : String) : Bool :=
  text.toList.all isBlank

/-- After trimming in front, a first character is never blank. -/
theorem not_isBlank_head_trimFront {characters rest : List Char} {first : Char}
    (trimmed : trimFront characters = first :: rest) : isBlank first = false := by
  induction characters with
  | nil => simp [trimFront] at trimmed
  | cons c others ih =>
    by_cases blank : isBlank c
    · exact ih (by simpa [trimFront, List.dropWhile_cons, blank] using trimmed)
    · have same : c = first ∧ others = rest := by
        simpa [trimFront, List.dropWhile_cons, blank] using trimmed
      simpa [← same.1] using blank

end OutboxRelay.Text

/-!
# Ordered fields

Named fields in the order of their names, each name once. Putting a field in replaces the value
under its name and leaves every other name alone.
-/

namespace OutboxRelay.Fields

variable {α : Type}

/-- Put a field in at its place in the order. -/
def insert (name : String) (value : α) : List (String × α) → List (String × α)
  | [] => [(name, value)]
  | (n, v) :: rest =>
    if name < n then (name, value) :: (n, v) :: rest
    else if name = n then (name, value) :: rest
    else (n, v) :: insert name value rest

/-- Put fields in one after the other; of a repeated name the last value stays. -/
def ofList (fields : List (String × α)) : List (String × α) :=
  fields.foldl (fun ordered field => insert field.1 field.2 ordered) []

/-- The other fields. -/
def erase (name : String) (fields : List (String × α)) : List (String × α) :=
  fields.filter (·.1 != name)

/-- A field just put in is found under its name. -/
theorem lookup_insert_self (name : String) (value : α) (fields : List (String × α)) :
    (insert name value fields).lookup name = some value := by
  induction fields with
  | nil => simp [insert]
  | cons field rest ih =>
    obtain ⟨n, v⟩ := field
    unfold insert
    split
    · simp
    · split
      · simp
      · rename_i different
        simp [List.lookup_cons, beq_eq_false_iff_ne.2 different, ih]

/-- Putting a field in leaves every other name alone. -/
theorem lookup_insert_ne {name other : String} (value : α) (fields : List (String × α))
    (different : other ≠ name) :
    (insert name value fields).lookup other = fields.lookup other := by
  have apart : (other == name) = false := beq_eq_false_iff_ne.2 different
  induction fields with
  | nil => simp [insert, List.lookup_cons, apart]
  | cons field rest ih =>
    obtain ⟨n, v⟩ := field
    unfold insert
    split
    · rw [List.lookup_cons, apart]
    · split
      · rename_i same
        subst same
        simp [List.lookup_cons, apart]
      · simp [List.lookup_cons, ih]

/-- An erased field is not found. -/
theorem lookup_erase_self (name : String) (fields : List (String × α)) :
    (erase name fields).lookup name = none := by
  induction fields with
  | nil => rfl
  | cons field rest ih =>
    obtain ⟨n, v⟩ := field
    by_cases same : n = name
    · simpa [erase, same] using ih
    · have apart : (name == n) = false := beq_eq_false_iff_ne.2 (Ne.symm same)
      simpa [erase, same, List.lookup_cons, apart] using ih

/-- Erasing a field leaves every other name alone. -/
theorem lookup_erase_ne {name other : String} (fields : List (String × α))
    (different : other ≠ name) :
    (erase name fields).lookup other = fields.lookup other := by
  induction fields with
  | nil => rfl
  | cons field rest ih =>
    obtain ⟨n, v⟩ := field
    by_cases same : n = name
    · subst same
      have apart : (other == n) = false := beq_eq_false_iff_ne.2 different
      simpa [erase, List.lookup_cons, apart] using ih
    · by_cases found : other = n
      · simp [erase, same, found]
      · have apart : (other == n) = false := beq_eq_false_iff_ne.2 found
        simpa [erase, same, List.lookup_cons, apart] using ih

end OutboxRelay.Fields

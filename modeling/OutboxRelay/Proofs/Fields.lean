import OutboxRelay.Fields

/-!
# Fields in order

Putting fields in keeps them in the strict order of their names and brings in nothing but what was
given. So a list of fields that is in order already is its own ordered form, and a name that is
given once is looked up in the ordered form as in the given one.
-/

namespace OutboxRelay.Fields

variable {α : Type}

/-- Names in strictly ascending order. In particular no name occurs twice. -/
def Ordered (fields : List (String × α)) : Prop :=
  fields.Pairwise fun earlier later => earlier.1 < later.1

/-- A field of a list into which one was put is that one or was there before. -/
theorem mem_insert {name : String} {value : α} {fields : List (String × α)} {field : String × α}
    (member : field ∈ insert name value fields) : field = (name, value) ∨ field ∈ fields := by
  induction fields with
  | nil => exact Or.inl (List.mem_singleton.mp member)
  | cons head rest inductionHypothesis =>
    unfold insert at member
    split at member
    · exact List.mem_cons.mp member
    · split at member
      · rcases List.mem_cons.mp member with same | later
        · exact Or.inl same
        · exact Or.inr (List.mem_cons_of_mem _ later)
      · rcases List.mem_cons.mp member with same | later
        · exact Or.inr (same ▸ List.mem_cons_self)
        · exact (inductionHypothesis later).imp_right (List.mem_cons_of_mem _)

/-- Putting a field in keeps the order. A field of the same name is replaced. -/
theorem Ordered.insert {fields : List (String × α)} (ordered : Ordered fields) (name : String)
    (value : α) : Ordered (Fields.insert name value fields) := by
  induction fields with
  | nil => exact List.pairwise_singleton _ _
  | cons head rest inductionHypothesis =>
    obtain ⟨n, v⟩ := head
    obtain ⟨first, later⟩ := List.pairwise_cons.mp ordered
    unfold Fields.insert
    split
    · next below =>
      refine List.pairwise_cons.mpr ⟨fun field member => ?_, ordered⟩
      rcases List.mem_cons.mp member with rfl | behind
      · exact below
      · exact String.lt_trans below (first field behind)
    · next notBelow =>
      split
      · next same =>
        subst same
        exact List.pairwise_cons.mpr ⟨first, later⟩
      · next different =>
        refine List.pairwise_cons.mpr ⟨fun field member => ?_, inductionHypothesis later⟩
        rcases mem_insert member with rfl | behind
        · rcases Std.le_iff_lt_or_eq.mp (Std.not_lt.mp notBelow) with above | same
          · exact above
          · exact absurd same.symm different
        · exact first field behind

/-- Fields put in one after the other stand in order. -/
theorem ordered_ofList (fields : List (String × α)) : Ordered (ofList fields) := by
  have general : ∀ (rest start : List (String × α)), Ordered start →
      Ordered (rest.foldl (fun ordered field => insert field.1 field.2 ordered) start) := by
    intro rest
    induction rest with
    | nil =>
      intro start ordered
      exact ordered
    | cons field rest inductionHypothesis =>
      intro start ordered
      exact inductionHypothesis _ (ordered.insert field.1 field.2)
  exact general fields [] List.Pairwise.nil

/-- Putting fields in brings in nothing else. -/
theorem mem_ofList {fields : List (String × α)} {field : String × α}
    (member : field ∈ ofList fields) : field ∈ fields := by
  have general : ∀ (rest start : List (String × α)),
      field ∈ rest.foldl (fun ordered field => insert field.1 field.2 ordered) start →
      field ∈ rest ∨ field ∈ start := by
    intro rest
    induction rest with
    | nil =>
      intro start among
      exact Or.inr among
    | cons head rest inductionHypothesis =>
      intro start among
      rcases inductionHypothesis _ among with later | placed
      · exact Or.inl (List.mem_cons_of_mem _ later)
      · rcases mem_insert placed with rfl | before
        · exact Or.inl List.mem_cons_self
        · exact Or.inr before
  rcases general fields [] member with given | none
  · exact given
  · cases none

/-- A field whose name comes last is put in at the end. -/
theorem insert_eq_append {name : String} (value : α) {fields : List (String × α)}
    (last : ∀ field ∈ fields, field.1 < name) :
    insert name value fields = fields ++ [(name, value)] := by
  induction fields with
  | nil => rfl
  | cons head rest inductionHypothesis =>
    obtain ⟨n, v⟩ := head
    have before : n < name := last (n, v) List.mem_cons_self
    rw [insert, if_neg (Std.not_lt.mpr (Std.le_of_lt before)), if_neg (Std.ne_of_lt before).symm,
      inductionHypothesis fun field member => last field (List.mem_cons_of_mem _ member)]
    rfl

/-- Fields that are in order already are their own ordered form. The induction goes over the fields
still to be put in, all of which come behind those put in before. -/
theorem ofList_eq_self {fields : List (String × α)} (ordered : Ordered fields) :
    ofList fields = fields := by
  have general : ∀ (rest start : List (String × α)), Ordered (start ++ rest) →
      rest.foldl (fun ordered field => insert field.1 field.2 ordered) start = start ++ rest := by
    intro rest
    induction rest with
    | nil =>
      intro start _
      exact (List.append_nil start).symm
    | cons field rest inductionHypothesis =>
      intro start whole
      have last : ∀ earlier ∈ start, earlier.1 < field.1 := fun earlier member =>
        (List.pairwise_append.mp whole).2.2 earlier member field List.mem_cons_self
      rw [List.foldl_cons, insert_eq_append field.2 last,
        inductionHypothesis _ (by simpa using whole), List.append_assoc, List.singleton_append]
  exact general fields [] ordered

/-- A name that is given at most once is looked up in the ordered form as in the given one. -/
theorem lookup_ofList {fields : List (String × α)} (once : (fields.map Prod.fst).Nodup)
    (name : String) : (ofList fields).lookup name = fields.lookup name := by
  have general : ∀ (rest start : List (String × α)), (rest.map Prod.fst).Nodup →
      (rest.foldl (fun ordered field => insert field.1 field.2 ordered) start).lookup name =
        (rest.lookup name).or (start.lookup name) := by
    intro rest
    induction rest with
    | nil =>
      intro start _
      exact rfl
    | cons field rest inductionHypothesis =>
      intro start distinct
      obtain ⟨fieldName, value⟩ := field
      obtain ⟨fresh, others⟩ := List.nodup_cons.mp distinct
      rw [List.foldl_cons, inductionHypothesis _ others]
      by_cases same : name = fieldName
      · subst same
        have absent : rest.lookup name = none := by
          refine List.lookup_eq_none_iff.mpr fun field member => ?_
          have among : field.1 ∈ rest.map Prod.fst := List.mem_map_of_mem member
          have apart : name ≠ field.1 := fun same => fresh (same ▸ among)
          exact bne_iff_ne.mpr apart
        rw [absent, Option.none_or, lookup_insert_self, List.lookup_cons_self, Option.some_or]
      · have apart : (name == fieldName) = false := beq_eq_false_iff_ne.mpr same
        rw [lookup_insert_ne value start same, List.lookup_cons, apart]
  rw [ofList, general fields [] once, List.lookup_nil, Option.or_none]

end OutboxRelay.Fields

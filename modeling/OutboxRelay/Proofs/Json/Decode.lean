import Mathlib.Data.List.Forall2
import OutboxRelay.Json.Decode
import OutboxRelay.Proofs.Effect
import OutboxRelay.Proofs.Fields
import OutboxRelay.Proofs.Identifier
import OutboxRelay.Proofs.Instant.RoundTrip

/-!
# Records read back

An object that gives every field of a record once, and every field as its rule demands, is decoded
field by field: each field has the value that was given for it. The other way round, a field that
was decoded was decoded from what stands under its name, so that a record says something of the
value that it was read from.
-/

namespace OutboxRelay.Json

variable {α : Type}

/-- What stands under a key of an object is the field of that name, if no name is given twice. -/
theorem get?_ofFields {fields : List (String × Json)} (once : (fields.map Prod.fst).Nodup)
    (key : String) : (ofFields fields).get? key = fields.lookup key :=
  Fields.lookup_ofList once key

/-- What a field is that its rule accepts. -/
theorem checkField_of_required {rules : List FieldRule} {name : String} (decode : Decoder α)
    {value : Json} {decoded : α}
    (rule : rules.find? (fun rule => rule.name == name) = some (.required name decode))
    (accepted : decode value = .ok decoded) : checkField rules (name, value) = .ok () := by
  rw [checkField, rule]
  simp [FieldRule.required, accepted, Except.map]

theorem checkField_of_optional {rules : List FieldRule} {name : String} (decode : Decoder α)
    {value : Json} {decoded : Option α}
    (rule : rules.find? (fun rule => rule.name == name) = some (.optional name decode))
    (accepted : decode.optional value = .ok decoded) : checkField rules (name, value) = .ok () := by
  rw [checkField, rule]
  simp [FieldRule.optional, accepted, Except.map]

/-- Fields that are all accepted are accepted one after the other. -/
theorem forM_checkField {rules : List FieldRule} {fields : List (String × Json)}
    (accepted : ∀ field ∈ fields, checkField rules field = .ok ()) :
    fields.forM (checkField rules) = .ok () := by
  induction fields with
  | nil => rfl
  | cons field rest inductionHypothesis =>
    rw [List.forM_eq_forM, List.forM_cons, accepted field List.mem_cons_self]
    exact inductionHypothesis fun later member => accepted later (List.mem_cons_of_mem _ member)

/-- An object of accepted fields passes for a record if it leaves out no field that has to be there.
Fields that no rule is about are passed over. -/
theorem recordFields_ofFields {rules : List FieldRule} {fields : List (String × Json)}
    (shape : String) (once : (fields.map Prod.fst).Nodup)
    (accepted : ∀ field ∈ fields, checkField rules field = .ok ())
    (complete : ∀ rule ∈ rules, rule.mandatory → (fields.lookup rule.name).isSome) :
    recordFields shape rules (ofFields fields) = .ok (Fields.ofList fields) := by
  have checked : (Fields.ofList fields).forM (checkField rules) = .ok () :=
    forM_checkField fun field member => accepted field (Fields.mem_ofList member)
  have present : checkPresence rules (Fields.ofList fields) = .ok () := by
    have nothingMissing : rules.find? (fun rule =>
        rule.mandatory && ((Fields.ofList fields).lookup rule.name).isNone) = none := by
      refine List.find?_eq_none.mpr fun rule member missing => ?_
      obtain ⟨mandatory, absent⟩ := Bool.and_eq_true_iff.mp missing
      rw [Fields.lookup_ofList once, Option.isNone_iff_eq_none] at absent
      have there := complete rule member mandatory
      rw [absent] at there
      cases there
    rw [checkPresence, nothingMissing]
  rw [ofFields, recordFields, checked]
  simp only [bind, Except.bind, present]
  rfl

/-- A field that a rule is about and accepts. Lists of rules and fields that fit each other make a
record. -/
structure FieldRule.Accepts (rule : FieldRule) (field : String × Json) : Prop where
  name : rule.name = field.1
  check : rule.check field.2 = .ok ()

theorem accepts_required (name : String) {decode : Decoder α} {value : Json} {decoded : α}
    (back : decode value = .ok decoded) :
    (FieldRule.required name decode).Accepts (name, value) := by
  refine ⟨rfl, ?_⟩
  simp [FieldRule.required, back, Except.map]

theorem accepts_optional (name : String) {decode : Decoder α} {value : Json} {decoded : Option α}
    (back : decode.optional value = .ok decoded) :
    (FieldRule.optional name decode).Accepts (name, value) := by
  refine ⟨rfl, ?_⟩
  simp [FieldRule.optional, back, Except.map]

/-- Fields that were given to one rule each are accepted by all rules together. -/
theorem checkField_of_accepts {rules : List FieldRule} {fields : List (String × Json)}
    (given : List.Forall₂ FieldRule.Accepts rules fields) (once : (fields.map Prod.fst).Nodup) :
    ∀ field ∈ fields, checkField rules field = .ok () := by
  induction given with
  | nil => rintro field ⟨⟩
  | @cons rule first rules rest accepts _ inductionHypothesis =>
    obtain ⟨fresh, once⟩ := List.nodup_cons.mp once
    rintro field (_ | ⟨_, later⟩)
    · simp [checkField, accepts.name, accepts.check]
    · have other : first.1 ≠ field.1 :=
        fun same => fresh (same ▸ List.mem_map_of_mem later)
      simpa [checkField, accepts.name, other] using inductionHypothesis once field later

/-- Every rule was given a field. -/
theorem lookup_of_accepts {rules : List FieldRule} {fields : List (String × Json)}
    (given : List.Forall₂ FieldRule.Accepts rules fields) :
    ∀ rule ∈ rules, (fields.lookup rule.name).isSome := by
  induction given with
  | nil => rintro rule ⟨⟩
  | @cons first field rules rest accepts _ inductionHypothesis =>
    rintro rule (_ | ⟨_, later⟩)
    · simp [accepts.name]
    · rw [List.lookup_cons]
      split
      · rfl
      · exact inductionHypothesis rule later

/-- An object that gives each rule of a record its field passes for the record. -/
theorem recordFields_of_accepts {rules : List FieldRule} {fields : List (String × Json)}
    (shape : String) (given : List.Forall₂ FieldRule.Accepts rules fields)
    (once : (fields.map Prod.fst).Nodup) :
    recordFields shape rules (ofFields fields) = .ok (Fields.ofList fields) :=
  recordFields_ofFields shape once (checkField_of_accepts given once)
    fun rule member _ => lookup_of_accepts given rule member

/-- A required field of an object is decoded as what was written for it, wherever it stands. -/
theorem requiredField_ofList {fields : List (String × Json)} (once : (fields.map Prod.fst).Nodup)
    (name : String) (decode : Decoder α) {value : Json} {decoded : α}
    (given : fields.lookup name = some value) (back : decode value = .ok decoded) :
    requiredField name decode (Fields.ofList fields) = .ok decoded := by
  rw [requiredField, Fields.lookup_ofList once, given]
  exact back

theorem optionalField_ofList {fields : List (String × Json)} (once : (fields.map Prod.fst).Nodup)
    (name : String) (decode : Decoder α) {value : Json} {decoded : Option α}
    (given : fields.lookup name = some value) (back : decode.optional value = .ok decoded) :
    optionalField name decode (Fields.ofList fields) = .ok decoded := by
  rw [optionalField, Fields.lookup_ofList once, given]
  exact back

theorem optionalField_ofList_absent {fields : List (String × Json)}
    (once : (fields.map Prod.fst).Nodup) (name : String) (decode : Decoder α)
    (absent : fields.lookup name = none) :
    optionalField name decode (Fields.ofList fields) = .ok none := by
  rw [optionalField, Fields.lookup_ofList once, absent]

/-! ### Single values -/

theorem decode_identifier (id : Identifier) :
    Decoder.identifier (.text id.toText) = .ok id := by
  rw [Decoder.identifier, Identifier.ofText?_toText]

theorem decode_instant {instant : Instant} (valid : instant.IsValid) :
    Decoder.instant (.text instant.toText) = .ok instant := by
  rw [Decoder.instant, Instant.ofText_toText valid]

/-- An optional value is read back if the value is, and is never taken for an absent one. Only null
stands for absence. -/
theorem decode_ofOption {decode : Decoder α} {encode : α → Json} {value? : Option α}
    (back : ∀ value ∈ value?, decode (encode value) = .ok value)
    (notNull : ∀ value, encode value ≠ .null) :
    decode.optional (ofOption encode value?) = .ok value? := by
  cases value? with
  | none => rfl
  | some value =>
    rw [ofOption, Decoder.optional, back value rfl]
    · rfl
    · exact notNull value

theorem decode_ofOption_text (value? : Option String) :
    Decoder.text.optional (ofOption .text value?) = .ok value? :=
  decode_ofOption (fun _ _ => rfl) (fun _ => Json.noConfusion)

theorem decode_integer64 {value : Int} (fits : (Text.IntegerBounds.signed 64).admits value = true) :
    Decoder.integer64 (.integer value) = .ok value := by
  rw [Decoder.integer64, Decoder.integer, if_pos fits]

/-! ### What was decoded -/

variable {name : String}

/-- Checking the fields of an object changes none of them. -/
theorem eq_of_recordFields {shape : String} {rules : List FieldRule}
    {fields kept : List (String × Json)}
    (checked : recordFields shape rules (.object fields) = .ok kept) : kept = fields := by
  obtain ⟨_, _, present⟩ := bind_eq_ok_iff.mp checked
  obtain ⟨_, _, same⟩ := bind_eq_ok_iff.mp present
  cases same
  rfl

/-- What was decoded for a required field is what stands under its name. -/
theorem lookup_of_requiredField {decode : Decoder α} {fields : List (String × Json)} {decoded : α}
    (read : requiredField name decode fields = .ok decoded) :
    ∃ value, fields.lookup name = some value ∧ decode value = .ok decoded := by
  cases found : fields.lookup name with
  | none => simp [requiredField, found] at read
  | some value => exact ⟨value, rfl, by simpa [requiredField, found] using read⟩

/-- What was decoded for a field that may be absent is there, and is no null. -/
theorem exists_of_optionalField {decode : Decoder α} {fields : List (String × Json)} {decoded : α}
    (read : optionalField name decode fields = .ok (some decoded)) :
    ∃ value, decode value = .ok decoded := by
  cases found : fields.lookup name with
  | none => simp [optionalField, found] at read
  | some value =>
    rw [optionalField, found] at read
    dsimp only at read
    unfold Decoder.optional at read
    split at read
    · cases read
    · cases given : decode value with
      | error fault => simp [given, Except.map] at read
      | ok other =>
        have same : other = decoded := by simpa [given, Except.map] using read
        exact ⟨value, given.trans (congrArg _ same)⟩

/-- Only a text is decoded as a text. -/
theorem eq_of_decode_text {value : Json} {decoded : String}
    (read : Decoder.text value = .ok decoded) : value = .text decoded := by
  cases value <;> simp_all [Decoder.text]

/-- An integer that is decoded lies within its bounds. -/
theorem admits_of_decode_integer {bounds : Text.IntegerBounds} {expected : String} {value : Json}
    {decoded : Int} (read : Decoder.integer bounds expected value = .ok decoded) :
    bounds.admits decoded = true := by
  unfold Decoder.integer at read
  split at read
  · split at read
    · cases read
      assumption
    · cases read
  · cases read

/-- An identifier is decoded from any text that denotes it. -/
theorem exists_of_decode_identifier {value : Json} {id : Identifier}
    (read : Decoder.identifier value = .ok id) :
    ∃ written, value = .text written ∧ Identifier.ofText? written = some id := by
  cases value with
  | text written =>
    cases denoted : Identifier.ofText? written with
    | none => simp [Decoder.identifier, denoted] at read
    | some other => exact ⟨written, rfl, by simpa [Decoder.identifier, denoted] using read⟩
  | _ => simp [Decoder.identifier] at read

/-- An instant is decoded from any text that denotes it. -/
theorem exists_of_decode_instant {value : Json} {instant : Instant}
    (read : Decoder.instant value = .ok instant) :
    ∃ written, value = .text written ∧ Instant.ofText written = .ok instant := by
  cases value with
  | text written =>
    cases denoted : Instant.ofText written with
    | error fault => simp [Decoder.instant, denoted] at read
    | ok other => exact ⟨written, rfl, by simpa [Decoder.instant, denoted] using read⟩
  | _ => simp [Decoder.instant] at read

end OutboxRelay.Json

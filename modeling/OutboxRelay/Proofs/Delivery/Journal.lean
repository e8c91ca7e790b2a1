import OutboxRelay.Proofs.Delivery.Trial
import Mathlib.Data.List.DropRight

/-!
# Journals of delivery

A journal notes attempts and the resets that succeeded, in the order in which they happened. What a
row of the outbox says about its attempts is an account of the journal: the retry count is the
number of rejections recorded since the last reset, the error text is that of the last of them, and
the row is processed if an accepted attempt was recorded. A row is accounted for if it says just
that; each note that is added to the journal changes the row in such a way that it still does.
-/

namespace OutboxRelay.Delivery

open Outbox (Message Pending)

/-- One thing that happens to a message of the outbox. Only resets that succeeded are noted, and
attempts whatever came of them. -/
inductive Note where
  | attempted (attempt : Attempt)
  | reset (id : Identifier)

namespace Note

/-- The message that a note is about. -/
def id : Note → Identifier
  | attempted attempt => attempt.message.id
  | reset id => id

/-- The attempt that a note is of. -/
def attempt? : Note → Option Attempt
  | attempted attempt => some attempt
  | reset _ => none

/-- Whether a note is of a reset of a message. -/
def resets (id : Identifier) : Note → Bool
  | attempted _ => false
  | reset other => other == id

end Note

/-- The attempts of a journal. -/
def attempts (journal : List Note) : List Attempt :=
  journal.filterMap (·.attempt?)

/-- The attempts for a message, in the order in which they were made. -/
def attemptsFor (id : Identifier) (journal : List Note) : List Attempt :=
  (attempts journal).filter (·.message.id == id)

/-- The part of a journal since the last reset of a message, and all of it if there was none. -/
def sinceReset (id : Identifier) (journal : List Note) : List Note :=
  journal.rtakeWhile fun note => !note.resets id

/-- The wordings of the rejections of a message that were recorded since its last reset. A rejection
whose record was lost is not among them, as the row knows nothing of it. -/
def rejections (id : Identifier) (journal : List Note) : List String :=
  (attemptsFor id (sinceReset id journal)).filterMap (·.rejection?)

section

variable {id : Identifier} {journal : List Note} {note : Note} {attempt : Attempt}

theorem attempts_append (front back : List Note) :
    attempts (front ++ back) = attempts front ++ attempts back :=
  List.filterMap_append

theorem attemptsFor_append (front back : List Note) :
    attemptsFor id (front ++ back) = attemptsFor id front ++ attemptsFor id back := by
  rw [attemptsFor, attempts_append, List.filter_append]
  rfl

/-- An attempt for a message comes behind the earlier ones. -/
theorem attemptsFor_attempted (same : attempt.message.id = id) :
    attemptsFor id (journal ++ [.attempted attempt]) = attemptsFor id journal ++ [attempt] := by
  rw [attemptsFor_append]
  congr 1
  exact List.filter_cons_of_pos (beq_iff_eq.mpr same)

/-- A note about another message is no attempt for this one. -/
theorem attemptsFor_other (other : note.id ≠ id) :
    attemptsFor id (journal ++ [note]) = attemptsFor id journal := by
  rw [attemptsFor_append]
  cases note with
  | attempted attempt =>
    have none : attemptsFor id [.attempted attempt] = [] :=
      List.filter_cons_of_neg fun same => other (eq_of_beq same)
    rw [none, List.append_nil]
  | reset => exact List.append_nil _

/-- A reset is no attempt. -/
theorem attemptsFor_reset (other : Identifier) :
    attemptsFor id (journal ++ [.reset other]) = attemptsFor id journal := by
  rw [attemptsFor_append]
  exact List.append_nil _

theorem sinceReset_reset : sinceReset id (journal ++ [.reset id]) = [] := by
  rw [sinceReset, List.rtakeWhile_concat_neg]
  simp [Note.resets]

/-- Without a reset the part since the last one goes on. -/
theorem sinceReset_append {notes : List Note} (none : ∀ note ∈ notes, note.resets id = false) :
    sinceReset id (journal ++ notes) = sinceReset id journal ++ notes := by
  induction notes using List.reverseRecOn with
  | nil => simp
  | append_singleton notes note inductionHypothesis =>
    have standing : (!note.resets id) = true := by
      simp [none note (by simp)]
    rw [← List.append_assoc, sinceReset,
      List.rtakeWhile_concat_pos (fun note => !note.resets id) _ note standing, ← List.append_assoc]
    congr 1
    exact inductionHypothesis fun earlier among => none earlier (by simp [among])

/-- A reset forgets the rejections before it. -/
theorem rejections_reset : rejections id (journal ++ [.reset id]) = [] := by
  rw [rejections, sinceReset_reset]
  rfl

/-- Without a reset rejections only come to those before, in the order of the notes. -/
theorem rejections_append {notes : List Note} (none : ∀ note ∈ notes, note.resets id = false) :
    rejections id (journal ++ notes) =
      rejections id journal ++ (attemptsFor id notes).filterMap (·.rejection?) := by
  rw [rejections, sinceReset_append none, attemptsFor_append, List.filterMap_append]
  rfl

/-- An attempt for a message adds its rejection, if it has one. -/
theorem rejections_attempted (same : attempt.message.id = id) :
    rejections id (journal ++ [.attempted attempt]) =
      rejections id journal ++ attempt.rejection?.toList := by
  have none : ∀ note ∈ [Note.attempted attempt], note.resets id = false := by simp [Note.resets]
  have one : attemptsFor id [.attempted attempt] = [attempt] :=
    (attemptsFor_attempted same : attemptsFor id ([] ++ [.attempted attempt]) = [] ++ [attempt])
  rw [rejections_append none, one]
  cases found : attempt.rejection? <;> simp [found]

/-- An attempt that was not rejected, or whose rejection was not recorded. -/
theorem rejections_unrejected (same : attempt.message.id = id)
    (unrejected : attempt.rejection? = none) :
    rejections id (journal ++ [.attempted attempt]) = rejections id journal := by
  rw [rejections_attempted same, unrejected]
  exact List.append_nil _

/-- Without any attempt there is no rejection. -/
theorem rejections_untried (untried : attemptsFor id journal = []) :
    rejections id journal = [] := by
  have part : (attemptsFor id (sinceReset id journal)).Sublist (attemptsFor id journal) :=
    ((List.rtakeWhile_suffix _ _).sublist.filterMap _).filter _
  rw [untried] at part
  rw [rejections, List.sublist_nil.mp part]
  rfl

/-- A note about another message is no rejection of this one. -/
theorem rejections_other (other : note.id ≠ id) :
    rejections id (journal ++ [note]) = rejections id journal := by
  have none : ∀ added ∈ [note], added.resets id = false := by
    cases note with
    | attempted attempt => simp [Note.resets]
    | reset another =>
      have different : another ≠ id := other
      simp [Note.resets, different]
  have nothing : attemptsFor id [note] = [] :=
    (attemptsFor_other other : attemptsFor id ([] ++ [note]) = attemptsFor id [])
  rw [rejections_append none, nothing]
  exact List.append_nil _

end

/-! ### Rows -/

/-- What a row says about its attempts is what the journal says about them. Every note that concerns
the row must leave it so, which is shown case by case below. -/
structure Accounted (ceiling : Int) (journal : List Note) (row : Message) : Prop where
  counted : row.retryCount = (rejections row.id journal).length
  bounded : row.retryCount ≤ max ceiling 0
  error : row.error = (rejections row.id journal).getLast?.map fun text =>
    if ceiling ≤ row.retryCount then exhaustedText ceiling text else text
  published : (attemptsFor row.id journal).countP (·.accepted) = row.isProcessed.toNat
  /-- Nothing comes after the rejection that made a message exhausted. -/
  last : row.isProcessed = false → 0 < row.retryCount → ceiling ≤ row.retryCount →
    (attemptsFor row.id journal).getLast?.bind (·.rejection?) =
      (rejections row.id journal).getLast?

section

variable {ceiling : Int} {journal : List Note} {row : Message} {note : Note} {attempt : Attempt}

/-- A row as it is added, before any attempt for it: it says nothing, and there is nothing to
say. -/
theorem accounted_asAdded (message : Message) (untried : attemptsFor message.id journal = []) :
    Accounted ceiling journal message.asAdded where
  counted := by
    change (0 : Int) = (rejections message.id journal).length
    rw [rejections_untried untried]
    rfl
  bounded := Int.le_max_right _ _
  error := by
    change none = (rejections message.id journal).getLast?.map _
    rw [rejections_untried untried]
    rfl
  published := by
    change (attemptsFor message.id journal).countP _ = 0
    rw [untried]
    rfl
  last := fun _ positive => absurd positive (Int.lt_irrefl 0)

/-- A note about another message changes nothing in the account of this one. -/
theorem Accounted.other (accounted : Accounted ceiling journal row) (other : note.id ≠ row.id) :
    Accounted ceiling (journal ++ [note]) row where
  counted := by rw [rejections_other other, accounted.counted]
  bounded := accounted.bounded
  error := by rw [rejections_other other, accounted.error]
  published := by rw [attemptsFor_other other, accounted.published]
  last := by
    rw [attemptsFor_other other, rejections_other other]
    exact accounted.last

/-- A reset takes count and error off the row, and the rejections before it no longer count. -/
theorem Accounted.reset (accounted : Accounted ceiling journal row) :
    Accounted ceiling (journal ++ [.reset row.id]) row.reset where
  counted := by
    change (0 : Int) = (rejections row.id _).length
    rw [rejections_reset]
    rfl
  bounded := Int.le_max_right _ _
  error := by
    change none = (rejections row.id _).getLast?.map _
    rw [rejections_reset]
    rfl
  published := by
    change (attemptsFor row.id _).countP _ = row.isProcessed.toNat
    rw [attemptsFor_reset, accounted.published]
  last := fun _ positive => absurd positive (Int.lt_irrefl 0)

/-- An attempt that was not recorded says nothing about its row, which stays as it is. -/
theorem Accounted.lost (accounted : Accounted ceiling journal row)
    (under : row.retryCount < ceiling) (of : attempt.message.id = row.id)
    (lost : attempt.recorded = false) :
    Accounted ceiling (journal ++ [.attempted attempt]) row := by
  have unrejected : attempt.rejection? = none := by
    unfold Attempt.rejection?
    split <;> simp [lost]
  have same : rejections row.id (journal ++ [.attempted attempt]) = rejections row.id journal :=
    rejections_unrejected of unrejected
  constructor
  · rw [same, accounted.counted]
  · exact accounted.bounded
  · rw [same, accounted.error]
  · rw [attemptsFor_attempted of, List.countP_append, accounted.published]
    simp [Attempt.accepted, lost]
  · intro _ _ reached
    exact absurd reached (Int.not_le.mpr under)

/-- An accepted attempt makes its row processed, and there was no accepted one before, since the row
was waiting. -/
theorem Accounted.accepted (accounted : Accounted ceiling journal row)
    (waiting : row.isProcessed = false) (of : attempt.message.id = row.id)
    (recorded : attempt.recorded = true) (answer : attempt.answer = .ok ()) (now : Instant) :
    Accounted ceiling (journal ++ [.attempted attempt]) (row.processedAt now) := by
  have unrejected : attempt.rejection? = none := by
    rw [Attempt.rejection?, answer]
  have same : rejections row.id (journal ++ [.attempted attempt]) = rejections row.id journal :=
    rejections_unrejected of unrejected
  constructor
  · change row.retryCount = (rejections row.id _).length
    rw [same, accounted.counted]
  · exact accounted.bounded
  · change row.error = (rejections row.id _).getLast?.map _
    rw [same]
    exact accounted.error
  · change (attemptsFor row.id _).countP _ = 1
    rw [attemptsFor_attempted of, List.countP_append, accounted.published, waiting]
    simp [Attempt.accepted, recorded, answer, Except.isOk, Except.toBool]
  · intro unprocessed
    cases unprocessed

/-- A rejection is one more, and its text stays with the row, with the ceiling in front of it if
that is reached. The count of the row is below the greatest one, so that counting has not
stopped. -/
theorem Accounted.rejected {error : Broker.Error} (accounted : Accounted ceiling journal row)
    (under : row.retryCount < ceiling) (few : ceiling ≤ greatestRetryCount)
    (of : attempt.message.id = row.id) (recorded : attempt.recorded = true)
    (answer : attempt.answer = .error error) :
    let retryCount := nextRetryCount row.retryCount
    Accounted ceiling (journal ++ [.attempted attempt])
      (row.failedWith (Trial.failureText ceiling retryCount error) retryCount) := by
  intro retryCount
  have one : retryCount = row.retryCount + 1 := nextRetryCount_of_lt under few
  have most : max row.retryCount retryCount = row.retryCount + 1 := by omega
  have rejection : attempt.rejection? = some error.message := by
    rw [Attempt.rejection?, answer, recorded]
    rfl
  have more : rejections row.id (journal ++ [.attempted attempt]) =
      rejections row.id journal ++ [error.message] := by
    rw [rejections_attempted of, rejection]
    rfl
  constructor
  · change max row.retryCount retryCount = (rejections row.id _).length
    rw [more, most, accounted.counted, List.length_append]
    rfl
  · change max row.retryCount retryCount ≤ _
    omega
  · change some (Trial.failureText ceiling retryCount error) = (rejections row.id _).getLast?.map
      fun text => if ceiling ≤ max row.retryCount retryCount then _ else text
    rw [more, most, List.getLast?_concat, one]
    rfl
  · change (attemptsFor row.id _).countP _ = row.isProcessed.toNat
    rw [attemptsFor_attempted of, List.countP_append, accounted.published]
    simp [Attempt.accepted, answer, Except.isOk, Except.toBool]
  · intro _ _ _
    change (attemptsFor row.id _).getLast?.bind _ = (rejections row.id _).getLast?
    rw [more, attemptsFor_attempted of, List.getLast?_concat, List.getLast?_concat]
    exact rejection

/-- Whatever became of an attempt, its row is accounted for again: the cases are an acceptance, a
rejection, and a record that was lost. -/
theorem Accounted.treated (accounted : Accounted ceiling journal row)
    (waiting : row.isProcessed = false) (under : row.retryCount < ceiling)
    (few : ceiling ≤ greatestRetryCount) (of : attempt.message = row.toPending) (now : Instant) :
    Accounted ceiling (journal ++ [.attempted attempt])
      (Trial.afterwards ceiling attempt now row) := by
  have ofRow : attempt.message.id = row.id := by rw [of]; rfl
  cases recorded : attempt.recorded with
  | false =>
    have same : Trial.afterwards ceiling attempt now row = row := by
      simp [Trial.afterwards, recorded]
    rw [same]
    exact accounted.lost under ofRow recorded
  | true =>
    have settles : Trial.afterwards ceiling attempt now row =
        Trial.settle ceiling row.toPending attempt.answer now row := by
      simp [Trial.afterwards, recorded, of, Message.toPending]
    rw [settles]
    cases answer : attempt.answer with
    | ok => exact accounted.accepted waiting ofRow recorded answer now
    | error error => exact accounted.rejected under few ofRow recorded answer

end

end OutboxRelay.Delivery

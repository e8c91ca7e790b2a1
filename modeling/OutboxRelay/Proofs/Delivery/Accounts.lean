import OutboxRelay.Proofs.Delivery.Chronicle

/-!
# Accounts of delivery

What a reader of the outbox may conclude from a row. The retry count is that of the rejections that
were recorded since the last reset, and it never passes the ceiling; the error text is that of the
last rejection, with the ceiling in front once it is reached; and a row that is processed or at the
ceiling rests: no attempt is made for it until it is reset. All attempts that were made are
accounted for: one that was accepted, if the row is processed, and beside it only those that were
rejected and those whose record was lost.
-/

namespace OutboxRelay.Delivery

open Outbox (Message)

/-- A row says about its attempts what the journal says. The parts are what a reader of the outbox
can check against the journal without knowing how delivery works. -/
structure Balances (ceiling : Int) (journal : List Note) (row : Message) : Prop where
  counted : row.retryCount = (rejections row.id journal).length
  bounded : 0 ≤ row.retryCount ∧ row.retryCount ≤ max ceiling 0
  /-- At the ceiling the last attempt of all was the last rejection. -/
  exhausted : row.isProcessed = false → 1 ≤ ceiling → row.retryCount = ceiling →
    ∃ attempt error, (attemptsFor row.id journal).getLast? = some attempt ∧
      attempt.answer = .error error ∧
      row.error = some ("exceeded max retries (" ++ toString ceiling ++ "): " ++ error.message)
  retried : 0 < row.retryCount → row.retryCount < ceiling →
    ∃ text, (rejections row.id journal).getLast? = some text ∧ row.error = some text
  unfailed : row.retryCount = 0 → row.error = none
  attempts : (attemptsFor row.id journal).length =
    (if row.isProcessed then 1 else 0) +
      ((attemptsFor row.id journal).filterMap (·.rejection?)).length +
      (attemptsFor row.id journal).countP fun attempt => !attempt.recorded

/-- A store of distinct messages as they were added, before any attempt, with a bus that was offered
nothing yet. -/
structure Untried (trial : Trial) : Prop where
  ids : trial.memory.ids.Nodup
  added : ∀ row ∈ trial.memory.outbox, row.asAdded = row
  offered : trial.offered = []
  marks : trial.marks = 0

/-- All attempts are accounted for, and they are those that bus and store saw. So the journal leaves
nothing out, and nothing in it was invented. -/
structure Accounts (ceiling : Int) (given : Trial) (chronicle : Chronicle) : Prop where
  balances : ∀ row ∈ chronicle.outbox, Balances ceiling chronicle.journal row
  /-- Attempts are made for messages of the outbox. -/
  known : ∀ attempt ∈ attempts chronicle.journal,
    Known chronicle.world.state.memory attempt.message
  offered : chronicle.world.state.offered = (attempts chronicle.journal).map fun attempt =>
    (attempt.message.eventType, attempt.message.content)
  /-- Each attempt has the answer that was given for it, -/
  answered : (attempts chronicle.journal).map (·.answer) =
    (List.range (attempts chronicle.journal).length).map given.answers
  /-- and its record is lost exactly if a fault was given for it. -/
  recorded : (attempts chronicle.journal).map (·.recorded) =
    (List.range (attempts chronicle.journal).length).map fun n => (given.faults n).isNone

/-- A row that is processed or at the ceiling is not attempted any more before it is reset, and a
processed one is never reset. It compares two moments of one run, the earlier of which knew the
row. -/
def Rests (ceiling : Int) (earlier later : Chronicle) : Prop :=
  ∃ notes, later.journal = earlier.journal ++ notes ∧
    ∀ row ∈ earlier.outbox, row.isProcessed = true ∨ ceiling ≤ row.retryCount →
      ∀ front attempt, front ++ [.attempted attempt] <+: notes →
        attempt.message.id = row.id → row.isProcessed = false ∧ .reset row.id ∈ front

section

variable {config : Config} {ceiling : Int} {start : World Trial} {given trial : Trial}
  {journal : List Note} {row : Message} {moves : List Move}

/-- A row with a count has a rejection. -/
theorem Accounted.rejection (accounted : Accounted ceiling journal row)
    (positive : 0 < row.retryCount) :
    ∃ text, (rejections row.id journal).getLast? = some text := by
  have counted := accounted.counted
  cases last : (rejections row.id journal).getLast? with
  | some text => exact ⟨text, rfl⟩
  | none =>
    rw [List.getLast?_eq_none_iff.mp last] at counted
    exact absurd counted (Int.ne_of_gt positive)

/-- A row that is accounted for says what the journal says, in the words of a reader of the
outbox. -/
theorem Accounted.balances (accounted : Accounted ceiling journal row) :
    Balances ceiling journal row := by
  have counted := accounted.counted
  have bounded := accounted.bounded
  constructor
  case counted => exact counted
  case bounded => exact ⟨by omega, bounded⟩
  case exhausted =>
    intro waiting positive reached
    obtain ⟨text, rejected⟩ := accounted.rejection (by omega)
    have last := accounted.last waiting (by omega) (by omega)
    rw [rejected] at last
    obtain ⟨attempt, ultimate, rejection⟩ := Option.bind_eq_some_iff.mp last
    obtain ⟨error, answer, rfl⟩ := Attempt.answer_of_rejection? rejection
    refine ⟨attempt, error, ultimate, answer, ?_⟩
    rw [accounted.error, rejected, Option.map_some, if_pos (by omega)]
    rfl
  case retried =>
    intro positive under
    obtain ⟨text, rejected⟩ := accounted.rejection positive
    refine ⟨text, rejected, ?_⟩
    rw [accounted.error, rejected, Option.map_some, if_neg (by omega)]
  case unfailed =>
    intro none
    have empty : rejections row.id journal = [] := List.length_eq_zero_iff.mp (by omega)
    rw [accounted.error, empty]
    rfl
  case attempts =>
    have published := accounted.published
    have fates := Attempt.length_eq_fates (attemptsFor row.id journal)
    rw [published] at fates
    rw [fates]
    cases row.isProcessed <;> rfl

/-- A row that is processed or at the ceiling is not due before it is reset. As long as no reset
comes, later notes leave the acceptance or the rejections that settled it in the journal. -/
theorem Sound.rests_of (sound : Sound ceiling given trial journal)
    (here : row ∈ trial.memory.outbox) (rests : row.isProcessed = true ∨ ceiling ≤ row.retryCount)
    {front : List Note} (due : Due ceiling (journal ++ front) row.id) :
    row.isProcessed = false ∧ .reset row.id ∈ front := by
  have accounted := sound.accounted row here
  have waiting : row.isProcessed = false := by
    have published := accounted.published
    have none := due.waiting
    rw [attemptsFor_append, List.countP_append, published] at none
    cases processed : row.isProcessed with
    | false => rfl
    | true =>
      rw [processed] at none
      simp at none
  refine ⟨waiting, ?_⟩
  by_contra absent
  have none : ∀ note ∈ front, note.resets row.id = false := by
    intro note among
    cases note with
    | attempted => rfl
    | reset id =>
      have other : id ≠ row.id := by
        rintro rfl
        exact absent among
      simp [Note.resets, other]
  have under := due.under
  rw [rejections_append none, List.length_append] at under
  have counted := accounted.counted
  have reached : ceiling ≤ row.retryCount := rests.resolve_left (by simp [waiting])
  omega

/-- Before any attempt every row is accounted for by the empty journal. -/
theorem sound_untried (untried : Untried trial) : Sound ceiling trial trial [] where
  ids := untried.ids
  accounted row here := untried.added row here ▸ accounted_asAdded row rfl
  known _ among := absurd among List.not_mem_nil
  due front attempt part := by
    have empty := List.prefix_nil.mp part
    simp at empty
  offered := untried.offered
  marks := untried.marks
  answers := rfl
  faults := rfl
  answered := rfl
  recorded := rfl

/-- In every run from untried messages on, whatever the bus answers and whatever records are lost,
all attempts are accounted for, and from each moment on rows at rest are left alone. Counts stop at
the greatest one; no ceiling is above it, being a number of the same width.

Proof: trial and journal agree before the first move and after every run (`Chronicle.sound_run`).
What is asked of rows follows from their being accounted for, row by row. An attempt in the journal
was due when it was made, and a row at rest is not due (`Sound.rests_of`), so that every attempt for
it stands behind a reset. -/
theorem attempts_accounted (few : config.maxRetries ≤ greatestRetryCount)
    (untried : Untried start.state)
    (distinct : ∀ rows messages, .commit rows messages ∈ moves → (messages.map (·.id)).Nodup) :
    Accounts config.maxRetries start.state (Chronicle.run config { world := start } moves) ∧
      ∀ first later, moves = first ++ later →
        Rests config.maxRetries (Chronicle.run config { world := start } first)
          (Chronicle.run config { world := start } moves) := by
  let begun : Chronicle := { world := start }
  have untouched : Sound config.maxRetries start.state begun.world.state begun.journal :=
    sound_untried untried
  have sound : Sound config.maxRetries start.state _ _ :=
    Chronicle.sound_run untouched few distinct
  constructor
  · exact ⟨fun row here => (sound.accounted row here).balances, sound.known, sound.offered,
      sound.answered, sound.recorded⟩
  · rintro first later rfl
    have earlier : Sound config.maxRetries start.state _ _ :=
      Chronicle.sound_run untouched few fun rows messages among =>
        distinct rows messages (List.mem_append_left later among)
    obtain ⟨notes, whole⟩ := Chronicle.journal_run config (Chronicle.run config begun first) later
    rw [← Chronicle.run_append] at whole
    refine ⟨notes, whole.symm, fun row here rests front attempt part same => ?_⟩
    have made : (Chronicle.run config begun first).journal ++ front ++ [.attempted attempt] <+:
        (Chronicle.run config begun (first ++ later)).journal := by
      rw [← whole, List.append_assoc]
      exact (List.prefix_append_right_inj _).mpr part
    exact earlier.rests_of here rests (same ▸ sound.due _ attempt made)

end

/-- A bus that refuses its first and third attempt, and a store that loses the second record. -/
def trialWorld : World Trial where
  ids n := ⟨BitVec.ofNat 128 n⟩
  clock _ := ⟨0, 0⟩
  state := {
    answers := fun n => if n = 0 ∨ n = 2 then .error (.publish "refused") else .ok ()
    faults := fun n => if n = 1 then some (.store "lost") else none }

/-- Two messages. After two cycles the first one is given up, and the second one, whose first record
is lost, is attempted again and processed; a reset and one more cycle deliver the first one. -/
def troubledMoves : List Move :=
  [.commit [] [.fresh ⟨1⟩ "placed" "first" ⟨0, 0⟩, .fresh ⟨2⟩ "placed" "second" ⟨0, 1⟩],
    .cycle, .cycle, .cycle, .reset ⟨1⟩, .cycle]

theorem attempts_accounted_troubledMoves :
    let config : Config := { maxRetries := 2 }
    config.maxRetries ≤ greatestRetryCount ∧ Untried trialWorld.state ∧
      (∀ rows messages, .commit rows messages ∈ troubledMoves → (messages.map (·.id)).Nodup) ∧
      Accounts config.maxRetries trialWorld.state
        (Chronicle.run config { world := trialWorld } troubledMoves) ∧
      ∀ first later, troubledMoves = first ++ later →
        Rests config.maxRetries (Chronicle.run config { world := trialWorld } first)
          (Chronicle.run config { world := trialWorld } troubledMoves) := by
  intro config
  have few : config.maxRetries ≤ greatestRetryCount := by decide
  have untried : Untried trialWorld.state := ⟨List.nodup_nil, nofun, rfl, rfl⟩
  have distinct : ∀ rows messages, .commit rows messages ∈ troubledMoves →
      (messages.map (·.id)).Nodup := by
    intro rows messages among
    simp only [troubledMoves, List.mem_cons, Move.commit.injEq, reduceCtorEq, List.not_mem_nil,
      or_false] at among
    rw [among.2]
    decide
  exact ⟨few, untried, distinct, attempts_accounted few untried distinct⟩

end OutboxRelay.Delivery

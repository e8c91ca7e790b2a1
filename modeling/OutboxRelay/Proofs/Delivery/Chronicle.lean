import OutboxRelay.Proofs.Delivery.Journal
import Mathlib.Data.List.Infix
import Mathlib.Data.List.Nodup

/-!
# Chronicles of delivery

Commits, cycles of one processor and resets, in any order, while the bus answers as it pleases and
any record of an outcome may be lost. Every row of the outbox is accounted for at every moment
between two moves: its retry count, its error text and whether it is processed follow from the
attempts made for it and from what of them was recorded.

The invariant is carried through a cycle message by message. What makes it work is that a poll gives
distinct messages as they stand in the outbox, none of them processed or at the ceiling, and that
the treatment of one leaves the others so. The counts that a cycle computes from its poll are
therefore those of the outbox at the time they are recorded.
-/

namespace OutboxRelay.Delivery

open Outbox (Memory Message Pending Session StagedRow)

/-- A trial and what was noted of it. The notes are taken from what processor and store give back,
and neither of them sees the journal. -/
structure Chronicle where
  world : World Trial
  journal : List Note := []

/-- One thing that happens between cycles, or a whole cycle. There is one processor, so that nothing
comes between the steps of a cycle. -/
inductive Move where
  /-- A session is committed; whatever it staged before did not touch the store. -/
  | commit (rows : List StagedRow) (messages : List Message)
  | cycle
  | reset (id : Identifier)
  /-- The switches that make the next commit or the next poll fail are set anew. -/
  | disturb (failNextCommit failNextFetch : Bool)

/-- A session that staged rows and messages. -/
def staged (rows : List StagedRow) (messages : List Message) : Session :=
  messages.foldl (fun session message => session.add message)
    (rows.foldl (fun session row => session.putRow row.table row.key row.value) {})

namespace Chronicle

/-- The messages in the outbox. -/
def outbox (chronicle : Chronicle) : List Message :=
  chronicle.world.state.memory.outbox

/-- What one move does, and what is noted of it. A cycle notes its attempts, and a reset itself if
it succeeds. -/
def step (config : Config) (chronicle : Chronicle) : Move → Chronicle
  | .commit rows messages =>
    { chronicle with
      world := ((Trial.store.commit (staged rows messages)).perform chronicle.world).2 }
  | .cycle =>
    let processor := Trial.processor config
    { world := (processor.processBatch.perform chronicle.world).2
      journal := chronicle.journal ++ (processor.cycle chronicle.world).1.map .attempted }
  | .reset id =>
    let resetting := (Trial.store.resetRetries id).perform chronicle.world
    { world := resetting.2
      journal := chronicle.journal ++ if resetting.1.isOk then [.reset id] else [] }
  | .disturb failNextCommit failNextFetch =>
    let trial := chronicle.world.state
    { chronicle with
      world := chronicle.world.withState
        (trial.setMemory { trial.memory with failNextCommit, failNextFetch }) }

/-- What moves do one after the other. -/
def run (config : Config) (chronicle : Chronicle) (moves : List Move) : Chronicle :=
  moves.foldl (step config) chronicle

/-- A run goes on where a shorter run ended, with the journal that was kept so far. -/
theorem run_append (config : Config) (chronicle : Chronicle) (first later : List Move) :
    run config chronicle (first ++ later) = run config (run config chronicle first) later :=
  List.foldl_append

/-- A journal only grows. -/
theorem journal_run (config : Config) (chronicle : Chronicle) (moves : List Move) :
    chronicle.journal <+: (run config chronicle moves).journal := by
  induction moves generalizing chronicle with
  | nil => exact List.prefix_refl _
  | cons move moves inductionHypothesis =>
    have grows : chronicle.journal <+: (step config chronicle move).journal := by
      cases move with
      | commit | disturb => exact List.prefix_refl _
      | cycle | reset => exact List.prefix_append _ _
    exact grows.trans (inductionHypothesis _)

end Chronicle

/-! ### The invariant -/

/-- A message may be attempted: it was not accepted yet, and fewer rejections than the ceiling were
recorded since its last reset. It is said of the journal alone. -/
structure Due (ceiling : Int) (journal : List Note) (id : Identifier) : Prop where
  waiting : (attemptsFor id journal).countP (·.accepted) = 0
  under : (rejections id journal).length < ceiling

/-- A message is one of the outbox, with its type and its content. -/
def Known (memory : Memory) (message : Pending) : Prop :=
  ∃ row ∈ memory.outbox, row.id = message.id ∧ row.eventType = message.eventType ∧
    row.content = message.content

/-- What is known stays known as long as nothing that was added is lost. -/
theorem Known.mono {before after : Memory} {message : Pending} (known : Known before message)
    (grows : before.added <+: after.added) : Known after message := by
  obtain ⟨row, here, id, eventType, content⟩ := known
  have stays : row.asAdded ∈ after.added := grows.subset (List.mem_map.mpr ⟨row, here, rfl⟩)
  obtain ⟨later, there, same⟩ := List.mem_map.mp stays
  obtain ⟨sameId, sameType, sameContent, _⟩ := Message.eq_of_asAdded same
  exact ⟨later, there, sameId.trans id, sameType.trans eventType, sameContent.trans content⟩

/-- A trial and its journal agree, and answers and faults are as they were given. This is the
invariant of all moves; that every attempt was due when it was made is part of it, because it cannot
be read off a later outbox. -/
structure Sound (ceiling : Int) (given trial : Trial) (journal : List Note) : Prop where
  ids : trial.memory.ids.Nodup
  accounted : ∀ row ∈ trial.memory.outbox, Accounted ceiling journal row
  known : ∀ attempt ∈ attempts journal, Known trial.memory attempt.message
  due : ∀ front attempt, front ++ [.attempted attempt] <+: journal →
    Due ceiling front attempt.message.id
  offered : trial.offered = (attempts journal).map fun attempt =>
    (attempt.message.eventType, attempt.message.content)
  marks : trial.marks = (attempts journal).length
  answers : trial.answers = given.answers
  faults : trial.faults = given.faults
  answered : (attempts journal).map (·.answer) =
    (List.range (attempts journal).length).map given.answers
  recorded : (attempts journal).map (·.recorded) =
    (List.range (attempts journal).length).map fun n => (given.faults n).isNone

/-- Messages that a cycle still has to treat: distinct, and each as it stands in the outbox, neither
processed nor at the ceiling. So the counts that the cycle computes are those of the rows. -/
structure Current (ceiling : Int) (queue : List Pending) (rows : List Message) : Prop where
  ids : (queue.map (·.id)).Nodup
  rows : ∀ message ∈ queue, ∃ row ∈ rows, row.toPending = message ∧ row.isProcessed = false ∧
    row.retryCount < ceiling

/-- A poll gives such messages, since it selects rows by just these conditions. -/
theorem current_getRetryable {limit ceiling : Int} {memory : Memory} {queue : List Pending}
    (ids : memory.ids.Nodup) (polled : (memory.getRetryable limit ceiling).1 = .ok queue) :
    Current ceiling queue memory.outbox := by
  unfold Memory.getRetryable Memory.poll at polled
  split at polled
  · cases polled
  · injection polled with same
    subst same
    constructor
    · rw [List.map_map]
      exact Outbox.Memory.nodup_oldestFirst (·.isRetryable ceiling) limit ids
    · intro message among
      obtain ⟨row, selected, rfl⟩ := List.mem_map.mp among
      obtain ⟨here, retryable⟩ := Outbox.eligible_of_mem_oldestFirst selected
      have due : row.isProcessed = false ∧ row.retryCount < ceiling := by
        simpa [Message.isRetryable] using retryable
      exact ⟨row, here, rfl, due⟩

/-- The row of a message in the queue is the only one under its identifier. -/
theorem Current.row {ceiling : Int} {queue : List Pending} {memory : Memory} {message : Pending}
    {row : Message} (current : Current ceiling queue memory.outbox) (ids : memory.ids.Nodup)
    (among : message ∈ queue) (here : row ∈ memory.outbox) (same : row.id = message.id) :
    row.toPending = message ∧ row.isProcessed = false ∧ row.retryCount < ceiling := by
  obtain ⟨standing, there, rfl, due⟩ := current.rows message among
  rw [List.inj_on_of_nodup_map ids here there same]
  exact ⟨rfl, due⟩

/-- The first message of the queue is one of the outbox. -/
theorem Current.known {ceiling : Int} {queue : List Pending} {memory : Memory} {message : Pending}
    (current : Current ceiling (message :: queue) memory.outbox) : message.id ∈ memory.ids := by
  obtain ⟨row, here, same, _⟩ := current.rows message List.mem_cons_self
  exact List.mem_map.mpr ⟨row, here, congrArg (·.id) same⟩

section

variable {ceiling : Int} {given before after : Trial} {journal : List Note} {message : Pending}
  {queue : List Pending} {attempt : Attempt}

/-- What is added stays. -/
theorem Trial.Treats.added (treats : Trial.Treats ceiling message before after attempt) :
    after.memory.added = before.memory.added := by
  obtain ⟨now, outbox⟩ := treats.outbox
  rw [Memory.added, outbox, List.map_map]
  exact List.map_congr_left fun row _ => Trial.asAdded_afterwards ceiling attempt now row

/-- The queue behind a message that was treated stands as it did. The treatment changed rows under
one identifier only, which none of the other messages has. -/
theorem Current.tail (current : Current ceiling (message :: queue) before.memory.outbox)
    (treats : Trial.Treats ceiling message before after attempt) :
    Current ceiling queue after.memory.outbox := by
  obtain ⟨fresh, ids⟩ := List.nodup_cons.mp current.ids
  refine ⟨ids, fun waiting among => ?_⟩
  obtain ⟨row, here, rfl, due⟩ := current.rows waiting (List.mem_cons_of_mem _ among)
  obtain ⟨now, outbox⟩ := treats.outbox
  have other : row.id ≠ attempt.message.id := by
    intro same
    rw [treats.of] at same
    exact fresh (List.mem_map.mpr ⟨row.toPending, among, same⟩)
  refine ⟨row, ?_, rfl, due⟩
  rw [outbox]
  exact List.mem_map.mpr ⟨row, here, Trial.afterwards_other other⟩

/-- The rows are accounted for after a treatment: the one of the message by its new note, and all
others because that note is about another message. -/
theorem Sound.accounted_treat (sound : Sound ceiling given before journal)
    (current : Current ceiling (message :: queue) before.memory.outbox)
    (few : ceiling ≤ greatestRetryCount)
    (treats : Trial.Treats ceiling message before after attempt) :
    ∀ row ∈ after.memory.outbox, Accounted ceiling (journal ++ [.attempted attempt]) row := by
  obtain ⟨now, outbox⟩ := treats.outbox
  rw [outbox]
  intro changed among
  obtain ⟨row, here, rfl⟩ := List.mem_map.mp among
  have accounted := sound.accounted row here
  by_cases same : row.id = message.id
  · obtain ⟨rfl, waiting, under⟩ := current.row sound.ids List.mem_cons_self here same
    exact accounted.treated waiting under few treats.of now
  · rw [← treats.of] at same
    rw [Trial.afterwards_other same]
    exact accounted.other (Ne.symm same)

/-- A message in the queue is due, as its row is accounted for and is neither processed nor at the
ceiling. -/
theorem Sound.due_of_current (sound : Sound ceiling given before journal)
    (current : Current ceiling (message :: queue) before.memory.outbox) :
    Due ceiling journal message.id := by
  obtain ⟨row, here, rfl, waiting, under⟩ := current.rows message List.mem_cons_self
  have accounted := sound.accounted row here
  constructor
  · have published := accounted.published
    rwa [waiting] at published
  · have counted := accounted.counted
    change ((rejections row.id journal).length : Int) < ceiling
    rwa [← counted]

/-- A list whose entries are given by number, with one more entry. -/
theorem map_concat_eq_range {α β : Type} {entries : List α} {entry : α} {value : α → β}
    {given : Nat → β} (before : entries.map value = (List.range entries.length).map given)
    (last : value entry = given entries.length) :
    (entries ++ [entry]).map value = (List.range (entries ++ [entry]).length).map given := by
  rw [List.map_append, List.map_singleton, List.length_append, List.length_singleton,
    List.range_succ, List.map_append, List.map_singleton, before, last]

/-- A treatment keeps trial and journal in agreement. The attempt has the answer and the fault that
were given for its number, because bus and store count along with the journal. -/
theorem Sound.treat (sound : Sound ceiling given before journal)
    (current : Current ceiling (message :: queue) before.memory.outbox)
    (few : ceiling ≤ greatestRetryCount)
    (treats : Trial.Treats ceiling message before after attempt) :
    Sound ceiling given after (journal ++ [.attempted attempt]) := by
  have added := treats.added
  have kept : before.memory.added <+: after.memory.added := by rw [added]
  have one : attempts (journal ++ [.attempted attempt]) = attempts journal ++ [attempt] :=
    attempts_append journal _
  have offers : before.offered.length = (attempts journal).length := by
    rw [sound.offered, List.length_map]
  constructor
  case ids =>
    rw [Memory.ids, Memory.map_key_of_added (fun _ => rfl) added]
    exact sound.ids
  case accounted => exact sound.accounted_treat current few treats
  case known =>
    rw [one]
    intro made among
    rcases List.mem_append.mp among with earlier | last
    · exact (sound.known made earlier).mono kept
    · obtain rfl := List.mem_singleton.mp last
      obtain ⟨row, here, same, _⟩ := current.rows message List.mem_cons_self
      rw [treats.of, ← same]
      exact Known.mono ⟨row, here, rfl, rfl, rfl⟩ kept
  case due =>
    intro front another part
    rcases List.prefix_concat_iff.mp part with whole | earlier
    · obtain ⟨rfl, last⟩ := List.append_inj' whole rfl
      obtain rfl : another = attempt := by simpa using last
      rw [treats.of]
      exact sound.due_of_current current
    · exact sound.due front another earlier
  case offered =>
    rw [one, List.map_append, List.map_singleton, treats.of, treats.offered, sound.offered]
  case marks =>
    rw [one, treats.marks, sound.marks, List.length_append]
    rfl
  case answers => rw [treats.answers, sound.answers]
  case faults => rw [treats.faults, sound.faults]
  case answered =>
    rw [one]
    refine map_concat_eq_range sound.answered ?_
    rw [treats.answer, Trial.answer, offers, sound.answers]
  case recorded =>
    rw [one]
    refine map_concat_eq_range sound.recorded ?_
    rw [treats.recorded, sound.marks, sound.faults]

/-- The treatment of a whole queue keeps them in agreement, by induction on the queue; what is left
of it stays current. -/
theorem Sound.treatAll {config : Config} {world : World Trial}
    (sound : Sound config.maxRetries given world.state journal)
    (current : Current config.maxRetries queue world.state.memory.outbox)
    (few : config.maxRetries ≤ greatestRetryCount) :
    let treated := (Trial.processor config).treatAll queue world
    Sound config.maxRetries given treated.2.state (journal ++ treated.1.map .attempted) := by
  induction queue generalizing world journal with
  | nil =>
    rw [Processor.treatAll]
    simpa using sound
  | cons message queue inductionHypothesis =>
    have treats := Trial.treats_treat config sound.ids current.known
    have rest := inductionHypothesis (sound.treat current few treats) (current.tail treats)
    rw [Processor.treatAll]
    dsimp only at rest ⊢
    rwa [List.append_assoc] at rest

end

/-! ### Moves -/

section

variable {ceiling : Int} {given trial : Trial} {journal : List Note} {memory : Memory}

/-- An attempt among notes without any was made before them. -/
theorem prefix_of_quiet {front notes : List Note} {attempt : Attempt} (quiet : attempts notes = [])
    (part : front ++ [.attempted attempt] <+: journal ++ notes) :
    front ++ [.attempted attempt] <+: journal := by
  induction notes using List.reverseRecOn with
  | nil => simpa using part
  | append_singleton notes note inductionHypothesis =>
    rw [attempts_append, List.append_eq_nil_iff] at quiet
    rw [← List.append_assoc] at part
    rcases List.prefix_concat_iff.mp part with whole | earlier
    · obtain ⟨_, last⟩ := List.append_inj' whole rfl
      rw [← last] at quiet
      cases quiet.2
    · exact inductionHypothesis quiet.1 earlier

/-- A move without attempts keeps them in agreement if it keeps all rows accounted for, and loses
nothing that was added. -/
theorem Sound.move {notes : List Note} (sound : Sound ceiling given trial journal)
    (ids : memory.ids.Nodup)
    (accounted : ∀ row ∈ memory.outbox, Accounted ceiling (journal ++ notes) row)
    (grows : trial.memory.added <+: memory.added) (quiet : attempts notes = []) :
    Sound ceiling given (trial.setMemory memory) (journal ++ notes) := by
  have same : attempts (journal ++ notes) = attempts journal := by
    rw [attempts_append, quiet, List.append_nil]
  refine ⟨ids, accounted, ?_, ?_, ?_, ?_, sound.answers, sound.faults, ?_, ?_⟩
  · rw [same]
    exact fun attempt among => (sound.known attempt among).mono grows
  · exact fun front attempt part => sound.due front attempt (prefix_of_quiet quiet part)
  all_goals rw [same]
  · exact sound.offered
  · exact sound.marks
  · exact sound.answered
  · exact sound.recorded

/-- A change of the memory that leaves the outbox alone. -/
theorem Sound.rests (sound : Sound ceiling given trial journal)
    (same : memory.outbox = trial.memory.outbox) :
    Sound ceiling given (trial.setMemory memory) journal := by
  have accounted : ∀ row ∈ memory.outbox, Accounted ceiling (journal ++ []) row := by
    rw [same, List.append_nil]
    exact sound.accounted
  have ids : memory.ids.Nodup := by
    rw [Memory.ids, same]
    exact sound.ids
  have grows : trial.memory.added <+: memory.added := by rw [Memory.added, Memory.added, same]
  have moved := sound.move ids accounted grows rfl
  rwa [List.append_nil] at moved

theorem outbox_staged (rows : List StagedRow) (messages : List Message) :
    (staged rows messages).outbox = messages.map (·.asAdded) := by
  have rowsOnly (session : Session) : (rows.foldl (fun session row =>
      session.putRow row.table row.key row.value) session).outbox = session.outbox := by
    induction rows generalizing session with
    | nil => rfl
    | cons row rows inductionHypothesis => exact inductionHypothesis _
  have behind (session : Session) : (messages.foldl (fun session message =>
      session.add message) session).outbox = session.outbox ++ messages.map (·.asAdded) := by
    induction messages generalizing session with
    | nil => exact (List.append_nil _).symm
    | cons message messages inductionHypothesis =>
      rw [List.foldl_cons, inductionHypothesis, List.map_cons]
      exact List.append_assoc _ [_] _
  rw [staged, behind, rowsOnly]
  rfl

/-- A commit of distinct messages. What it adds was never attempted, because only messages of the
outbox are. If identifiers are taken, it adds nothing. -/
theorem Sound.commit {rows : List StagedRow} {messages : List Message}
    (sound : Sound ceiling given trial journal) (distinct : (messages.map (·.id)).Nodup) :
    Sound ceiling given
      (trial.setMemory (trial.memory.commit (staged rows messages)).2) journal := by
  have staging := outbox_staged rows messages
  rcases outcome : trial.memory.commit (staged rows messages) with ⟨error | accepted, after⟩
  · have failed : (trial.memory.commit (staged rows messages)).1 = .error error := by rw [outcome]
    have same := (Memory.commit_error failed).2.1
    rw [outcome] at same
    exact sound.rests same
  · have fresh := Memory.fresh_of_commit outcome
    obtain rfl := Memory.eq_apply_of_commit outcome
    have ids : (trial.memory.apply (staged rows messages)).ids.Nodup := by
      rw [Memory.ids_apply, List.nodup_append']
      refine ⟨sound.ids, ?_, fun id there added => fresh id added there⟩
      rw [Session.ids, staging, List.map_map]
      exact distinct
    have accounted : ∀ row ∈ (trial.memory.apply (staged rows messages)).outbox,
        Accounted ceiling (journal ++ []) row := by
      rw [List.append_nil]
      intro row among
      rcases List.mem_append.mp among with there | added
      · exact sound.accounted row there
      · have new := fresh row.id (List.mem_map.mpr ⟨row, added, rfl⟩)
        rw [staging] at added
        obtain ⟨message, _, rfl⟩ := List.mem_map.mp added
        have untried : attemptsFor message.id journal = [] := by
          refine List.filter_eq_nil_iff.mpr fun attempt made same => new ?_
          obtain ⟨old, there, id, _⟩ := sound.known attempt made
          exact List.mem_map.mpr ⟨old, there, id.trans (eq_of_beq same)⟩
        exact accounted_asAdded message untried
    have grows : trial.memory.added <+: (trial.memory.apply (staged rows messages)).added := by
      rw [Memory.added_apply]
      exact List.prefix_append _ _
    have moved := sound.move ids accounted grows rfl
    rwa [List.append_nil] at moved

/-- A reset, of which a note is made if it succeeds. If it fails, it has changed nothing. -/
theorem Sound.reset (sound : Sound ceiling given trial journal) (id : Identifier) :
    let resetting := trial.memory.resetRetries id
    Sound ceiling given (trial.setMemory resetting.2)
      (journal ++ if resetting.1.isOk then [.reset id] else []) := by
  intro resetting
  rcases Memory.resetRetries_cases sound.ids id with ⟨refused, same⟩ | ⟨accepted, _, outbox⟩
  · have noted : (if resetting.1.isOk then [Note.reset id] else []) = [] := by
      rw [show resetting.1 = _ from refused]
      rfl
    rw [noted, List.append_nil]
    exact sound.rests same
  · have noted : (if resetting.1.isOk then [Note.reset id] else []) = [.reset id] := by
      rw [show resetting.1 = _ from accepted]
      rfl
    have added : resetting.2.added = trial.memory.added :=
      (Memory.marks_resetRetries id trial.memory : Memory.Marks (fun _ => False) _ _).added
    rw [noted]
    refine sound.move ?_ ?_ (by rw [added]) rfl
    · rw [Memory.ids, Memory.map_key_of_added (fun _ => rfl) added]
      exact sound.ids
    · rw [show resetting.2.outbox = _ from outbox]
      intro changed among
      obtain ⟨row, here, rfl⟩ := List.mem_map.mp among
      have accounted := sound.accounted row here
      by_cases same : row.id = id
      · rw [if_pos same, ← same]
        exact accounted.reset
      · rw [if_neg same]
        exact accounted.other (Ne.symm same)

/-- A whole cycle. A poll that fails leaves the outbox alone, and one that succeeds gives a queue
that is current, which is then treated message by message. -/
theorem Sound.cycle {config : Config} {world : World Trial}
    (sound : Sound config.maxRetries given world.state journal)
    (few : config.maxRetries ≤ greatestRetryCount) :
    let cycled := (Trial.processor config).cycle world
    Sound config.maxRetries given cycled.2.state (journal ++ cycled.1.map .attempted) := by
  have same : (world.state.memory.getRetryable config.batchSize config.maxRetries).2.outbox =
      world.state.memory.outbox := by
    unfold Memory.getRetryable Memory.poll
    split <;> rfl
  have polled := sound.rests same
  rw [Processor.cycle, Trial.perform_poll]
  refine Sound.treatAll polled ?_ few
  cases answer : (world.state.memory.getRetryable config.batchSize config.maxRetries).1 with
  | error error => exact ⟨List.nodup_nil, fun _ among => absurd among List.not_mem_nil⟩
  | ok queue =>
    have current := current_getRetryable sound.ids answer
    rwa [← same] at current

namespace Chronicle

/-- Every move keeps trial and journal in agreement. The cases are the moves, each of which has its
own lemma. -/
theorem sound_step {config : Config} {chronicle : Chronicle} {move : Move}
    (sound : Sound config.maxRetries given chronicle.world.state chronicle.journal)
    (few : config.maxRetries ≤ greatestRetryCount)
    (distinct : ∀ rows messages, move = .commit rows messages → (messages.map (·.id)).Nodup) :
    Sound config.maxRetries given (step config chronicle move).world.state
      (step config chronicle move).journal := by
  cases move with
  | commit rows messages =>
    rw [step, Trial.perform_commit]
    exact sound.commit (distinct rows messages rfl)
  | cycle =>
    rw [step, Processor.perform_processBatch]
    exact sound.cycle few
  | reset id =>
    rw [step, Trial.perform_resetRetries]
    exact sound.reset id
  | disturb failNextCommit failNextFetch => exact sound.rests rfl

/-- Every run keeps trial and journal in agreement, by induction on the moves. -/
theorem sound_run {config : Config} {chronicle : Chronicle} {moves : List Move}
    (sound : Sound config.maxRetries given chronicle.world.state chronicle.journal)
    (few : config.maxRetries ≤ greatestRetryCount)
    (distinct : ∀ rows messages, .commit rows messages ∈ moves → (messages.map (·.id)).Nodup) :
    Sound config.maxRetries given (run config chronicle moves).world.state
      (run config chronicle moves).journal := by
  induction moves generalizing chronicle with
  | nil => exact sound
  | cons move moves inductionHypothesis =>
    refine inductionHypothesis (sound_step sound few ?_) ?_
    · rintro rows messages rfl
      exact distinct rows messages List.mem_cons_self
    · exact fun rows messages later => distinct rows messages (List.mem_cons_of_mem _ later)

end Chronicle

end

end OutboxRelay.Delivery

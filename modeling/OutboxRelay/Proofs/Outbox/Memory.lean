import OutboxRelay.Outbox.Memory
import Mathlib.Data.List.Nodup

/-!
# Steps of the store in memory

What the single steps of the store in memory do to rows and messages. An accepted session is applied
as a whole. Recording an outcome changes one message, and of that message nothing that was added:
what was added stays, in the same order, for good. Only a mark as processed makes a message
processed. Where identifiers are distinct, a change of the first message under an identifier is a
change of every message under it.
-/

namespace OutboxRelay.Outbox

/-- Messages that were added alike differ only in the attempts behind them: identifier, type,
content and instant are the same. -/
theorem Message.eq_of_asAdded {first second : Message} (same : first.asAdded = second.asAdded) :
    first.id = second.id ∧ first.eventType = second.eventType ∧ first.content = second.content ∧
      first.occurredOn = second.occurredOn := by
  simpa [Message.asAdded, Message.fresh] using same

/-- The identifiers that a session staged, in the order in which they were staged and with
repetitions. -/
def Session.ids (session : Session) : List Identifier :=
  session.outbox.map (·.id)

namespace Memory

/-- The identifiers in the outbox, in the order of the outbox. -/
def ids (memory : Memory) : List Identifier :=
  memory.outbox.map (·.id)

/-- A session that the store accepts is applied as a whole. There is no other way for a commit to
succeed. -/
theorem eq_apply_of_commit {session : Session} {before after : Memory}
    (accepted : before.commit session = (.ok (), after)) : after = before.apply session := by
  unfold commit at accepted
  split at accepted
  · cases accepted
  · split at accepted
    · cases accepted
    · cases accepted
      rfl

/-- The messages of the outbox as they were added, without the attempts behind them. -/
def added (memory : Memory) : List Message :=
  memory.outbox.map (·.asAdded)

theorem added_apply (session : Session) (memory : Memory) :
    (memory.apply session).added = memory.added ++ session.outbox.map (·.asAdded) :=
  List.map_append

/-- A key of what was added is the same for messages that were added alike. So whatever a poll sorts
by or a client looks up by stays when outcomes are recorded. -/
theorem map_key_of_added {κ : Type} {key : Message → κ}
    (keyed : ∀ message : Message, key message.asAdded = key message) {before after : Memory}
    (same : after.added = before.added) :
    after.outbox.map key = before.outbox.map key := by
  have map_added (memory : Memory) : memory.added.map key = memory.outbox.map key := by
    rw [added, List.map_map]
    exact List.map_congr_left fun message _ => keyed message
  rw [← map_added, ← map_added, same]

theorem ids_apply (session : Session) (memory : Memory) :
    (memory.apply session).ids = memory.ids ++ session.ids :=
  List.map_append

/-- A session that is accepted staged no identifier that was in the outbox. This is all that a
commit looks for: whether the session itself staged an identifier twice is not asked. -/
theorem fresh_of_commit {session : Session} {before after : Memory}
    (accepted : before.commit session = (.ok (), after)) :
    ∀ id ∈ session.ids, id ∉ before.ids := by
  unfold commit at accepted
  split at accepted
  · cases accepted
  · cases clash : before.clash? session with
    | some message => simp [clash] at accepted
    | none =>
      intro id staged there
      obtain ⟨message, among, rfl⟩ := List.mem_map.mp staged
      have free := List.find?_eq_none.mp clash message among
      obtain ⟨old, known, same⟩ := List.mem_map.mp there
      exact free (List.any_eq_true.mpr ⟨old, known, beq_iff_eq.mpr same⟩)

/-- A change of the first message that satisfies a condition takes place where that message is, and
the messages in front of it and behind it stay. -/
theorem changeFirst?_eq_some {condition : Message → Bool} {change : Message → Message}
    {messages changed : List Message}
    (found : changeFirst? condition change messages = some changed) :
    ∃ front message back, messages = front ++ message :: back ∧ condition message = true ∧
      changed = front ++ change message :: back := by
  induction messages generalizing changed with
  | nil => cases found
  | cons message rest inductionHypothesis =>
    unfold changeFirst? at found
    split at found
    · next holds =>
      cases found
      exact ⟨[], message, rest, rfl, holds, rfl⟩
    · obtain ⟨tail, foundInTail, rfl⟩ := Option.map_eq_some_iff.mp found
      obtain ⟨front, changing, back, rfl, holds, rfl⟩ := inductionHypothesis foundInTail
      exact ⟨message :: front, changing, back, rfl, holds, rfl⟩

/-- After an update that changes a message, the other messages stand as they did. A message found
there is an old one, or the changed form of an old one that satisfied the condition. -/
theorem mem_update {id : Identifier} {condition : Message → Bool} {change : Message → Message}
    {memory : Memory} {message : Message}
    (member : message ∈ (memory.update id condition change).2.outbox) :
    message ∈ memory.outbox ∨
      (memory.update id condition change).1 = .ok () ∧
        ∃ old ∈ memory.outbox, condition old = true ∧ message = change old := by
  unfold update at member ⊢
  split at member
  · next outbox found =>
    obtain ⟨front, old, back, whole, holds, rfl⟩ := changeFirst?_eq_some found
    rw [whole]
    rcases List.mem_append.mp member with before | behind
    · exact Or.inl (List.mem_append_left _ before)
    · rcases List.mem_cons.mp behind with rfl | later
      · exact Or.inr ⟨rfl, old, by simp, holds, rfl⟩
      · exact Or.inl (List.mem_append_right _ (List.mem_cons_of_mem _ later))
  · exact Or.inl member

/-! ### Distinct identifiers -/

variable {messages : List Message}

/-- A change of the message under an identifier concerns no other one. Where identifiers are
distinct, to change the first message is to change all of them, and that form is the one of an
`UPDATE`. -/
theorem changeFirst?_eq {condition : Message → Bool} {change : Message → Message}
    {id : Identifier} (ids : (messages.map (·.id)).Nodup)
    (only : ∀ message, condition message = true → message.id = id) :
    changeFirst? condition change messages =
      if messages.any condition then
        some (messages.map fun message => if condition message then change message else message)
      else none := by
  induction messages with
  | nil => rfl
  | cons message rest inductionHypothesis =>
    obtain ⟨fresh, ids⟩ := List.nodup_cons.mp ids
    rw [changeFirst?, inductionHypothesis ids]
    cases holds : condition message with
    | true =>
      have others : ∀ other ∈ rest, condition other = false := by
        intro other among
        rw [Bool.eq_false_iff]
        intro otherHolds
        exact fresh (List.mem_map.mpr
          ⟨other, among, (only other otherHolds).trans (only message holds).symm⟩)
      have kept :
          (rest.map fun other => if condition other then change other else other) = rest := by
        refine (List.map_congr_left fun other among => ?_).trans (List.map_id rest)
        simp [others other among]
      simp [holds, kept]
    | false =>
      cases among : rest.any condition <;> simp [holds, among]

/-- An update of the message under an identifier: the outbox after it, and whether it was found. -/
theorem update_eq {memory : Memory} {condition : Message → Bool} (change : Message → Message)
    {id : Identifier} (ids : memory.ids.Nodup)
    (only : ∀ message, condition message = true → message.id = id) :
    memory.update id condition change =
      (if memory.outbox.countP condition = 0 then .error (.notFound id) else .ok (),
        { memory with
          outbox := memory.outbox.map fun message =>
            if condition message then change message else message }) := by
  rw [update, changeFirst?_eq ids only]
  cases found : memory.outbox.any condition with
  | true =>
    have some : memory.outbox.countP condition ≠ 0 := by
      rw [Ne, List.countP_eq_zero]
      intro none
      obtain ⟨message, among, holds⟩ := List.any_eq_true.mp found
      exact none message among holds
    simp [some]
  | false =>
    have none : ∀ message ∈ memory.outbox, ¬condition message = true := by
      simpa using found
    have kept : (memory.outbox.map fun message =>
        if condition message then change message else message) = memory.outbox :=
      (List.map_congr_left fun message among => if_neg (none message among)).trans (List.map_id _)
    simp [List.countP_eq_zero.mpr none, kept]

/-- An update of a message that is there. -/
theorem update_known {memory : Memory} {id : Identifier} (change : Message → Message)
    (ids : memory.ids.Nodup) (known : id ∈ memory.ids) :
    memory.update id (·.id == id) change =
      (.ok (), { memory with
        outbox := memory.outbox.map fun message =>
          if message.id == id then change message else message }) := by
  have found : memory.outbox.countP (·.id == id) ≠ 0 := by
    obtain ⟨message, among, same⟩ := List.mem_map.mp known
    rw [Ne, List.countP_eq_zero]
    intro none
    exact none message among (beq_iff_eq.mpr same)
  have only (message : Message) (same : (message.id == id) = true) : message.id = id :=
    eq_of_beq same
  rw [update_eq change ids only, if_neg found]

/-- A reset is refused and changes no message, or resets the one message under the identifier, which
is not processed. A processed message is answered like one that is not there. -/
theorem resetRetries_cases {memory : Memory} (ids : memory.ids.Nodup) (id : Identifier) :
    (memory.resetRetries id).1 = .error (.notFound id) ∧
        (memory.resetRetries id).2.outbox = memory.outbox ∨
      (memory.resetRetries id).1 = .ok () ∧
        (∃ message ∈ memory.outbox, message.id = id ∧ message.isProcessed = false) ∧
        (memory.resetRetries id).2.outbox =
          memory.outbox.map fun message => if message.id = id then message.reset else message := by
  let waiting (message : Message) : Bool := message.id == id && !message.isProcessed
  have only (message : Message) (holds : waiting message = true) : message.id = id :=
    eq_of_beq (Bool.and_eq_true_iff.mp holds).1
  have updated : memory.resetRetries id = _ := update_eq (·.reset) ids only
  rw [updated]
  by_cases found : memory.outbox.countP waiting = 0
  · have none := List.countP_eq_zero.mp found
    rw [if_pos found]
    exact Or.inl ⟨rfl,
      (List.map_congr_left fun message among => if_neg (none message among)).trans (List.map_id _)⟩
  · obtain ⟨message, here, holds⟩ : ∃ message ∈ memory.outbox, waiting message = true := by
      simpa [List.countP_eq_zero] using found
    rw [if_neg found]
    have unprocessed : message.isProcessed = false := by
      simpa using (Bool.and_eq_true_iff.mp holds).2
    refine Or.inr ⟨rfl, ⟨message, here, only message holds, unprocessed⟩, ?_⟩
    refine List.map_congr_left fun other among => ?_
    by_cases same : other.id = id
    · have one : other = message :=
        List.inj_on_of_nodup_map ids among here (same.trans (only message holds).symm)
      rw [one, if_pos holds, if_pos (only message holds)]
    · rw [if_neg same, if_neg fun contrary => same (only other contrary)]

/-- A poll selects no message twice. -/
theorem nodup_oldestFirst {memory : Memory} (eligible : Message → Bool) (limit : Int)
    (ids : memory.ids.Nodup) :
    ((oldestFirst eligible limit memory.outbox).map (·.id)).Nodup := by
  have among : ((memory.outbox.filter eligible).map (·.id)).Nodup :=
    ids.sublist (List.filter_sublist.map _)
  have sorted := (((List.mergeSort_perm _ happenedFirst).map (·.id)).nodup_iff).mpr among
  exact sorted.sublist ((List.take_sublist _ _).map _)

/-! ### Records of outcomes -/

/-- What recording outcomes leaves of a memory: everything but attempts behind messages, and no
message is processed that was not, save those that may be marked. Which ones may be is a parameter,
so that one relation serves calls, cycles and whole runs. -/
structure Marks (mayMark : Identifier → Prop) (before after : Memory) : Prop where
  rows : after.rows = before.rows
  commits : after.commits = before.commits
  added : after.added = before.added
  processed : ∀ message ∈ after.outbox, message.isProcessed = true →
    (∃ old ∈ before.outbox, old.asAdded = message.asAdded ∧ old.isProcessed = true) ∨
      mayMark message.id

variable {mayMark : Identifier → Prop}

theorem marks_refl (memory : Memory) : Marks mayMark memory memory :=
  ⟨rfl, rfl, rfl, fun message member done => Or.inl ⟨message, member, rfl, done⟩⟩

/-- More messages may be marked than have to be. This brings calls with different permissions under
one of them. -/
theorem Marks.imp {mayMarkToo : Identifier → Prop} {before after : Memory}
    (marks : Marks mayMark before after) (allow : ∀ id, mayMark id → mayMarkToo id) :
    Marks mayMarkToo before after :=
  ⟨marks.rows, marks.commits, marks.added, fun message member done =>
    (marks.processed message member done).imp_right (allow message.id)⟩

theorem Marks.trans {before middle after : Memory} (first : Marks mayMark before middle)
    (second : Marks mayMark middle after) : Marks mayMark before after where
  rows := second.rows.trans first.rows
  commits := second.commits.trans first.commits
  added := second.added.trans first.added
  processed := by
    intro message member done
    rcases second.processed message member done with ⟨old, among, same, earlier⟩ | allowed
    · have id : old.id = message.id := (Message.eq_of_asAdded same).1
      rcases first.processed old among earlier with ⟨oldest, first, sameOld, earliest⟩ | allowed
      · exact Or.inl ⟨oldest, first, sameOld.trans same, earliest⟩
      · exact Or.inr (id ▸ allowed)
    · exact Or.inr allowed

/-- A change that keeps what was added and processes no message that may not be marked. The two
conditions are about the change of a single message, whichever one is found. -/
theorem marks_update {id : Identifier} {condition : Message → Bool} {change : Message → Message}
    (keeps : ∀ message, (change message).asAdded = message.asAdded)
    (processes : ∀ message, condition message = true → (change message).isProcessed = true →
      message.isProcessed = true ∨ mayMark message.id) (memory : Memory) :
    Marks mayMark memory (memory.update id condition change).2 := by
  unfold update
  split
  · next outbox found =>
    obtain ⟨front, message, back, whole, holds, rfl⟩ := changeFirst?_eq_some found
    refine ⟨rfl, rfl, ?_, ?_⟩
    · rw [added, added, whole]
      simp only [List.map_append, List.map_cons, keeps]
    · intro other member done
      rw [whole]
      rcases List.mem_append.mp member with before | behind
      · exact Or.inl ⟨other, List.mem_append_left _ before, rfl, done⟩
      · rcases List.mem_cons.mp behind with rfl | later
        · have id : (change message).id = message.id :=
            (Message.eq_of_asAdded (keeps message)).1
          rcases processes message holds done with earlier | allowed
          · exact Or.inl ⟨message, List.mem_append_right _ List.mem_cons_self,
              (keeps message).symm, earlier⟩
          · exact Or.inr (id.symm ▸ allowed)
        · exact Or.inl ⟨other, List.mem_append_right _ (List.mem_cons_of_mem _ later), rfl, done⟩
  · exact marks_refl memory

theorem marks_markAsProcessed (id : Identifier) (now : Instant) (memory : Memory) :
    Marks (· = id) memory (memory.markAsProcessed id now).2 := by
  unfold markAsProcessed
  refine marks_update (fun message => ?_) (fun message same _ => ?_) memory
  · rfl
  · exact Or.inr (eq_of_beq same)

theorem marks_markAsFailed (id : Identifier) (error : String) (retryCount : Int)
    (memory : Memory) : Marks mayMark memory (memory.markAsFailed id error retryCount).2 := by
  unfold markAsFailed
  refine marks_update (fun message => ?_) (fun message _ done => ?_) memory
  · rfl
  · exact Or.inl done

theorem marks_resetRetries (id : Identifier) (memory : Memory) :
    Marks mayMark memory (memory.resetRetries id).2 := by
  unfold resetRetries
  refine marks_update (fun message => ?_) (fun message _ done => ?_) memory
  · rfl
  · exact Or.inl done

/-- A poll that is not to fail gives the oldest messages, as far as a publish needs them, and
changes nothing. -/
theorem poll_ok {memory : Memory} (ready : memory.failNextFetch = false) (limit : Int)
    (eligible : Message → Bool) :
    memory.poll limit eligible =
      (.ok ((oldestFirst eligible limit memory.outbox).map (·.toPending)), memory) := by
  rw [poll, ready]
  rfl

/-- A poll changes no more than the switch that makes it fail. -/
theorem marks_poll (limit : Int) (eligible : Message → Bool) (memory : Memory) :
    Marks mayMark memory (memory.poll limit eligible).2 := by
  unfold poll
  split <;> exact ⟨rfl, rfl, rfl, fun message member done => Or.inl ⟨message, member, rfl, done⟩⟩

/-- A poll gives parts of messages of the outbox; it makes nothing up. -/
theorem mem_of_poll {limit : Int} {eligible : Message → Bool} {memory : Memory}
    {messages : List Pending} (polled : (memory.poll limit eligible).1 = .ok messages) :
    ∀ pending ∈ messages, ∃ message ∈ memory.outbox, message.toPending = pending := by
  unfold poll at polled
  split at polled
  · cases polled
  · injection polled with same
    intro pending member
    rw [← same] at member
    obtain ⟨message, selected, rfl⟩ := List.mem_map.mp member
    exact ⟨message, (eligible_of_mem_oldestFirst selected).1, rfl⟩

end Memory

end OutboxRelay.Outbox

import OutboxRelay.Order.Record
import OutboxRelay.Proofs.Effect
import OutboxRelay.Proofs.Text.Blank

/-!
# The life of an order

An order is placed and then cancelled, relieved of its events, or turned into its row and back, any
number of times and in any order. Each of these acts changes the order in place, one field after the
other, and may fail on the way.

What an act can do is said once, by `Does`. From it follow what is true of an order at all times,
and its story: that it was placed, and that it was cancelled if it was. All events that were ever
raised are that story, each once, and what is pending is a part of it.
-/

namespace OutboxRelay.Order

open Text (IsTrimmed)

/-! ### Acts -/

/-- What is done to an order once it is placed. An act may come at any time and any number of
times. -/
inductive Act where
  /-- Cancel it for a reason at a time. -/
  | cancel (reason : String) (now : Instant)
  /-- Take its events off. -/
  | clear
  /-- Turn it into its row and back. -/
  | restore

/-- Cancel the order that is the state: the checks, then one field after the other. A check that
fails ends it before any field is changed. -/
def cancelInPlace (reason : String) (now : Instant) : Effect Order Error Unit := do
  let order ← get
  if order.status = .cancelled then throw (.alreadyCancelled order.id)
  let kept := Text.trim reason
  if kept.isEmpty then throw (.validation "cancel reason cannot be empty")
  modify fun order => { order with status := .cancelled }
  modify fun order => { order with cancelReason := some kept }
  modify fun order =>
    { order with pending := order.pending ++ [cancelledEvent ⟨order.id, kept, now⟩] }

/-- Turn the order that is the state into its row and back. A row that is no order would leave the
state as it is. -/
def restoreInPlace : Effect Order Error Unit := do
  let order ← get
  match order.toRecord.toOrder with
  | .ok restored => set restored
  | .error error => throw error

/-- Do it to the order that is the state. -/
def Act.effect : Act → Effect Order Error Unit
  | cancel reason now => cancelInPlace reason now
  | clear => modify clearPending
  | restore => restoreInPlace

/-- What an act can do. Acts other than cancelling leave the order without its events. A
cancellation is refused to an order that is cancelled already, then to a reason that is blank, in
this order. -/
inductive Does (order : Order) : Act → Except Error Unit × Order → Prop where
  | clears : Does order .clear (.ok (), order.clearPending)
  | restores : Does order .restore (.ok (), order.clearPending)
  | late {reason : String} {now : Instant} (cancelled : order.status = .cancelled) :
    Does order (.cancel reason now) (.error (.alreadyCancelled order.id), order)
  | unfounded {reason : String} {now : Instant} (standing : order.status = .placed)
    (blank : Text.trim reason = "") : Does order (.cancel reason now)
      (.error (.validation "cancel reason cannot be empty"), order)
  | cancels {reason : String} {now : Instant} (standing : order.status = .placed)
    (founded : Text.trim reason ≠ "") : Does order (.cancel reason now)
      (.ok (), order.cancelledFor (Text.trim reason) now)

/-- Cancelling in place answers as cancelling does, and a refusal changes nothing: the fields are
only touched behind both checks. -/
theorem perform_cancelInPlace (reason : String) (now : Instant) (order : Order) :
    (cancelInPlace reason now).perform order =
      match order.cancel reason now with
      | .ok cancelled => (.ok (), cancelled)
      | .error error => (.error error, order) := by
  by_cases late : order.status = .cancelled
  · simp [cancelInPlace, cancel, acceptReason, Effect.perform_bind, Except.map, late]
  · by_cases blank : Text.trim reason = ""
    · simp [cancelInPlace, cancel, acceptReason, Effect.perform_bind, Except.map, late, blank]
    · simp [cancelInPlace, cancel, acceptReason, cancelledFor, Effect.perform_bind, Except.map,
        late, blank]

/-- Every act does one of these things, so that what is kept by all of them is kept by every act. -/
theorem does_effect (act : Act) (order : Order) : Does order act (act.effect.perform order) := by
  cases act with
  | cancel reason now =>
    rw [Act.effect, perform_cancelInPlace]
    cases status : order.status with
    | cancelled =>
      rw [cancel_of_cancelled status]
      exact .late status
    | placed =>
      by_cases blank : Text.trim reason = ""
      · simpa [cancel, acceptReason, Except.map, status, blank] using Does.unfounded status blank
      · simpa [cancel, acceptReason, Except.map, status, blank] using Does.cancels status blank
  | clear => exact .clears
  | restore =>
    have restored : restoreInPlace.perform order = (.ok (), order.clearPending) := by
      simp [restoreInPlace, Effect.perform_bind, toOrder_toRecord]
    rw [Act.effect, restored]
    exact .restores

section

variable {order : Order} {act : Act} {reason : String} {now : Instant}
  {done : Except Error Unit × Order}

/-- Turning an order into its row and back never fails, and costs it no more than its events. Its
status is written by a name that is known. -/
theorem Does.restored (does : Does order .restore done) : done = (.ok (), order.clearPending) := by
  cases does
  rfl

/-- A cancellation that is refused changes nothing. -/
theorem Does.refused (does : Does order (.cancel reason now) done) {error : Error}
    (failed : done.1 = .error error) : done.2 = order := by
  cases does with
  | late | unfounded => rfl
  | cancels => cases failed

/-- One that is not leaves the order cancelled. -/
theorem Does.accepted (does : Does order (.cancel reason now) done) (succeeded : done.1 = .ok ()) :
    done.2.status = .cancelled := by
  cases does with
  | late | unfounded => cases succeeded
  | cancels => rfl

/-- An order that is cancelled cannot be cancelled again, whatever the reason. -/
theorem Does.late_of_cancelled (does : Does order (.cancel reason now) done)
    (cancelled : order.status = .cancelled) : done.1 = .error (.alreadyCancelled order.id) := by
  cases does with
  | late => rfl
  | unfounded standing | cancels standing => simp [standing] at cancelled

/-- Once cancelled, an order stays so. -/
theorem Does.cancelled (does : Does order act done) (cancelled : order.status = .cancelled) :
    done.2.status = .cancelled := by
  cases does with
  | cancels => rfl
  | _ => exact cancelled

end

/-! ### Lives -/

/-- The order after acts, each done to what the acts before it have left. A refused act leaves it as
it is, and the next act is done all the same. -/
def lived (order : Order) : List Act → Order
  | [] => order
  | act :: rest => lived (act.effect.perform order).2 rest

/-- The events that an act raises: what is pending behind what was pending before. An act that takes
events off raises none. -/
def Act.raises (act : Act) (order : Order) : List Event :=
  (act.effect.perform order).2.pending.drop order.pending.length

/-- The events that acts raise, one act after the other. They are all the events that there ever
were, whether or not they are still pending at the end. -/
def raised (order : Order) : List Act → List Event
  | [] => []
  | act :: rest => act.raises order ++ raised (act.effect.perform order).2 rest

section

variable {first order : Order} {act : Act} {done : Except Error Unit × Order}

theorem lived_append (order : Order) (front back : List Act) :
    order.lived (front ++ back) = (order.lived front).lived back := by
  induction front generalizing order with
  | nil => rfl
  | cons act rest inductionHypothesis => exact inductionHypothesis _

/-- What every act keeps true is true after any acts. So it is enough to look at each thing that an
act can do, once. -/
theorem lived_induction {holds : Order → Prop}
    (kept : ∀ {order act done}, Does order act done → holds order → holds done.2)
    (begun : holds order) (acts : List Act) : holds (order.lived acts) := by
  induction acts generalizing order with
  | nil => exact begun
  | cons act rest inductionHypothesis =>
    exact inductionHypothesis (kept (does_effect act order) begun)

/-! ### What is true at all times -/

/-- What is true of an order at all times since it was placed. It is compared with the order as it
was placed first, whose identifier, customer and total it keeps. -/
structure Sound (first order : Order) : Prop where
  id : order.id = first.id
  customerId : order.customerId = first.customerId
  totalCents : order.totalCents = first.totalCents
  customer : order.customerId ≠ "" ∧ IsTrimmed order.customerId
  total : 0 < order.totalCents
  status : order.status = .cancelled ↔ order.cancelReason.isSome
  reason : ∀ reason ∈ order.cancelReason, reason ≠ "" ∧ IsTrimmed reason

theorem Sound.clearPending (sound : Sound first order) : Sound first order.clearPending :=
  ⟨sound.id, sound.customerId, sound.totalCents, sound.customer, sound.total, sound.status,
    sound.reason⟩

/-- An act keeps it true: only a cancellation changes more than the pending events, and it sets
status and reason together. -/
theorem Sound.through (sound : Sound first order) (does : Does order act done) :
    Sound first done.2 := by
  cases does with
  | clears | restores => exact sound.clearPending
  | late | unfounded => exact sound
  | cancels _ founded =>
    refine ⟨sound.id, sound.customerId, sound.totalCents, sound.customer, sound.total, ?_, ?_⟩
    · simp [cancelledFor]
    · rintro reason ⟨⟩
      exact ⟨founded, Text.isTrimmed_trim _⟩

/-- So it is true after any acts. -/
theorem Sound.lived (sound : Sound first order) (acts : List Act) :
    Sound first (order.lived acts) :=
  lived_induction (fun does sound => sound.through does) sound acts

/-- A cancelled order is cancelled after any acts. -/
theorem cancelled_lived (cancelled : order.status = .cancelled) (acts : List Act) :
    (order.lived acts).status = .cancelled :=
  lived_induction Does.cancelled cancelled acts

/-! ### The story of an order -/

/-- What there is to tell of an order: that it was placed, and that it was cancelled if it was. The
story is read off the order itself, and knows nothing of the acts. -/
def story (placedOn cancelledOn : Instant) (order : Order) : List Event :=
  placedEvent ⟨order.id, order.customerId, order.totalCents, placedOn⟩ ::
    order.cancelReason.toList.map fun reason => cancelledEvent ⟨order.id, reason, cancelledOn⟩

/-- A story tells once that the order was placed, and at most once that it was cancelled, as an
order has one reason or none. -/
theorem countP_story (placedOn cancelledOn : Instant) (order : Order) :
    (order.story placedOn cancelledOn).countP (·.kind = .placed) = 1 ∧
      (order.story placedOn cancelledOn).countP (·.kind = .cancelled) ≤ 1 := by
  cases reason : order.cancelReason <;>
    simp [story, reason, placedEvent, cancelledEvent]

/-- The events raised so far tell the story of an order that went through acts. This is carried
along a life, together with what is true of the order at all times. -/
structure Tells (placedOn cancelledOn : Instant) (acts : List Act) (events : List Event)
    (order : Order) : Prop where
  events : events = order.story placedOn cancelledOn
  pending : order.pending.Sublist (order.story placedOn cancelledOn)
  /-- The order was cancelled by one of the acts, at the time of the story. -/
  reason : ∀ reason ∈ order.cancelReason, ∃ given,
    .cancel given cancelledOn ∈ acts ∧ reason = Text.trim given

variable {placedOn cancelledOn : Instant} {acts : List Act} {events : List Event}

/-- What leaves an order as it is, but for its events, tells nothing new. -/
theorem Tells.kept (tells : Tells placedOn cancelledOn acts events order) (act : Act) :
    Tells placedOn cancelledOn (acts ++ [act]) (events ++ []) order := by
  refine ⟨(List.append_nil events).trans tells.events, tells.pending, ?_⟩
  intro reason given
  obtain ⟨text, among, same⟩ := tells.reason reason given
  exact ⟨text, List.mem_append_left _ among, same⟩

theorem Tells.clearPending (tells : Tells placedOn cancelledOn acts events order) :
    Tells placedOn cancelledOn acts events order.clearPending :=
  ⟨tells.events, List.nil_sublist _, tells.reason⟩

/-- With an act, the story goes on by what the act raises. A cancellation that is accepted gives the
order its reason and raises the one event that the story lacks; any other act raises nothing. -/
theorem Tells.through (tells : Tells placedOn cancelledOn acts events order)
    (sound : Sound first order) (does : Does order act done) :
    ∃ cancelledOn, Tells placedOn cancelledOn (acts ++ [act])
      (events ++ done.2.pending.drop order.pending.length) done.2 := by
  cases does with
  | clears | restores =>
    refine ⟨cancelledOn, ?_⟩
    rw [Order.clearPending, List.drop_nil]
    exact (tells.kept _).clearPending
  | late | unfounded =>
    refine ⟨cancelledOn, ?_⟩
    rw [List.drop_length]
    exact tells.kept _
  | @cancels reason now standing founded =>
    -- The order stands, so that its story was only that it was placed.
    have unreasoned : order.cancelReason = none := by
      have uncancelled := mt sound.status.mpr (by simp [standing])
      simpa using uncancelled
    have before : order.story placedOn cancelledOn =
        [placedEvent ⟨order.id, order.customerId, order.totalCents, placedOn⟩] := by
      simp [story, unreasoned]
    have after : (order.cancelledFor (Text.trim reason) now).story placedOn now =
        order.story placedOn cancelledOn ++ [cancelledEvent ⟨order.id, Text.trim reason, now⟩] := by
      rw [before]
      rfl
    refine ⟨now, ?_, ?_, ?_⟩
    · rw [after, ← tells.events, cancelledFor, List.drop_left]
    · rw [after]
      exact tells.pending.append (List.Sublist.refl _)
    · rintro kept ⟨⟩
      exact ⟨reason, List.mem_append_right _ (List.mem_singleton.mpr rfl), rfl⟩

/-- So the story goes on with any acts, by induction on them. The time of the cancellation is that
of the act that cancelled, whichever it was. -/
theorem Tells.lived (tells : Tells placedOn cancelledOn acts events order)
    (sound : Sound first order) (more : List Act) :
    ∃ cancelledOn, Tells placedOn cancelledOn (acts ++ more) (events ++ order.raised more)
      (order.lived more) := by
  induction more generalizing order acts events cancelledOn with
  | nil =>
    refine ⟨cancelledOn, ?_⟩
    rwa [raised, List.append_nil, List.append_nil]
  | cons act rest inductionHypothesis =>
    have does := does_effect act order
    obtain ⟨_, next⟩ := tells.through sound does
    have onward := inductionHypothesis next (sound.through does)
    rwa [List.append_assoc, List.append_assoc] at onward

end

/-! ### Orders that were placed -/

/-- An order is placed for a customer without the blanks around it, at a total above zero, and only
then. -/
theorem place_eq_ok {id : Identifier} {now : Instant} {customerId : String} {totalCents : Int}
    {order : Order} (done : place id now customerId totalCents = .ok order) :
    Text.trim customerId ≠ "" ∧ 0 < totalCents ∧
      order = placed id (Text.trim customerId) totalCents now := by
  unfold place acceptCustomer at done
  dsimp only at done
  split at done
  · cases done
  · next something =>
    split at done
    · cases done
    · next positive =>
      cases done
      exact ⟨by simpa using something, by omega, rfl⟩

section

variable {id : Identifier} {now : Instant} {customerId : String} {totalCents : Int} {first : Order}

/-- An order that was just placed is sound, and its one event tells its story. -/
theorem sound_of_place (done : place id now customerId totalCents = .ok first) :
    Sound first first := by
  obtain ⟨named, positive, rfl⟩ := place_eq_ok done
  refine ⟨rfl, rfl, rfl, ⟨named, Text.isTrimmed_trim customerId⟩, positive, ?_, ?_⟩
  · simp [placed]
  · rintro reason ⟨⟩

/-- Its one event tells its story. -/
theorem tells_of_place (done : place id now customerId totalCents = .ok first) :
    Tells now now [] first.pending first := by
  obtain ⟨_, _, rfl⟩ := place_eq_ok done
  refine ⟨rfl, List.Sublist.refl _, ?_⟩
  rintro reason ⟨⟩

end

/-- What is true of an order that was placed at a time, once it went through acts. -/
structure Life (placedOn : Instant) (first : Order) (acts : List Act) : Prop where
  sound : Sound first (first.lived acts)
  story : ∃ cancelledOn,
    Tells placedOn cancelledOn acts (first.pending ++ first.raised acts) (first.lived acts)
  placedOnce : (first.pending ++ first.raised acts).countP (·.kind = .placed) = 1
  cancelledOnce : (first.pending ++ first.raised acts).countP (·.kind = .cancelled) ≤ 1
  restored : restoreInPlace.perform (first.lived acts) = (.ok (), (first.lived acts).clearPending)
  /-- A cancellation that is refused changes nothing. -/
  refused : ∀ reason time error,
    ((cancelInPlace reason time).perform (first.lived acts)).1 = .error error →
      ((cancelInPlace reason time).perform (first.lived acts)).2 = first.lived acts
  /-- Behind one that is not, every other is refused, whatever comes between. -/
  final : ∀ reason time, ((cancelInPlace reason time).perform (first.lived acts)).1 = .ok () →
    ∀ between again moment,
      ((cancelInPlace again moment).perform
        (first.lived (acts ++ .cancel reason time :: between))).1 =
          .error (.alreadyCancelled first.id)

/-- Whatever is done to an order that was placed, it keeps its identifier, its customer and its
total, and has a reason exactly if it is cancelled. All events that were ever raised are its story,
each once, and those pending are a part of it. It can be cancelled once and for all.

Proof: placing an order establishes `Sound` and `Tells`, and every act keeps both, by the cases of
`Does`. The counts are those of the story; that a cancellation is final rests on a cancelled order
being cancelled after any further acts (`cancelled_lived`). -/
theorem life_of_placed {id : Identifier} {now : Instant} {customerId : String} {totalCents : Int}
    {first : Order} (done : place id now customerId totalCents = .ok first) (acts : List Act) :
    first = placed id (Text.trim customerId) totalCents now ∧ Life now first acts := by
  have sound := (sound_of_place done).lived acts
  obtain ⟨cancelledOn, tells⟩ := (tells_of_place done).lived (sound_of_place done) acts
  obtain ⟨placedOnce, cancelledOnce⟩ := countP_story now cancelledOn (first.lived acts)
  rw [← tells.events] at placedOnce cancelledOnce
  refine ⟨(place_eq_ok done).2.2, sound, ⟨cancelledOn, tells⟩, placedOnce, cancelledOnce,
    ?_, ?_, ?_⟩
  · exact (does_effect .restore (first.lived acts)).restored
  · intro reason time error failed
    exact (does_effect (.cancel reason time) (first.lived acts)).refused failed
  · intro reason time succeeded between again moment
    have cancelled := (does_effect (.cancel reason time) (first.lived acts)).accepted succeeded
    have still : (first.lived (acts ++ .cancel reason time :: between)).status = .cancelled := by
      rw [lived_append]
      exact cancelled_lived cancelled between
    have refused := (does_effect (.cancel again moment) _).late_of_cancelled still
    rwa [((sound_of_place done).lived _).id] at refused

/-- It is cancelled for no reason, for a reason, and once more behind its row. -/
def eventfulLife : List Act :=
  [.cancel " \t" ⟨5, 0⟩, .restore, .cancel " late\u2003" ⟨6, 0⟩, .cancel "again" ⟨7, 0⟩, .clear]

/-- The events are the whole story although none of them is pending any more. -/
theorem life_of_placed_eventfulLife :
    ∃ first, place ⟨7⟩ ⟨0, 0⟩ " c-1 " 500 = .ok first ∧ Life ⟨0, 0⟩ first eventfulLife ∧
      (first.lived eventfulLife).cancelReason = some "late" ∧
      (first.lived eventfulLife).pending = [] ∧
      ((cancelInPlace "once more" ⟨8, 0⟩).perform (first.lived eventfulLife)).1 =
        .error (.alreadyCancelled first.id) := by
  have done : place ⟨7⟩ ⟨0, 0⟩ " c-1 " 500 = .ok (placed ⟨7⟩ "c-1" 500 ⟨0, 0⟩) := by rfl
  have early := (life_of_placed done [.cancel " \t" ⟨5, 0⟩, .restore]).2
  exact ⟨_, done, (life_of_placed done eventfulLife).2, by rfl, by rfl,
    early.final " late\u2003" ⟨6, 0⟩ (by rfl) [.cancel "again" ⟨7, 0⟩, .clear] "once more" ⟨8, 0⟩⟩

end OutboxRelay.Order

import Mathlib.Data.List.Nodup
import OutboxRelay.Outbox.Selection

/-!
# The order of messages

In which order messages come out of a poll: by the instants at which they happened, and among those
of one instant in the order in which they were added. Of distinct messages exactly one arrangement
is so ordered. The arrangement of some of them is therefore found within the arrangement of all, and
it makes no difference whether messages are left out before they are sorted or afterwards.
-/

namespace OutboxRelay

/-! ### The order of instants -/

namespace Instant

/-- An instant comes before another one: in an earlier second, or at an earlier nanosecond of the
same second. Nothing of the comparison of polls enters here. -/
def Before (first second : Instant) : Prop :=
  first.seconds < second.seconds ∨ first.seconds = second.seconds ∧ first.nanos < second.nanos

instance (first second : Instant) : Decidable (Before first second) :=
  inferInstanceAs (Decidable (_ ∨ _))

/-- What comes before is what does not come after, as the comparison that polls sort by has it. The
order of the statements and that of the sort are the same by this. -/
theorem notAfter_eq_false_iff {first second : Instant} :
    notAfter second first = false ↔ Before first second := by
  grind [notAfter, Before]

theorem Before.irrefl (instant : Instant) : ¬Before instant instant := by
  simp [Before]

theorem Before.asymm {first second : Instant} (before : Before first second) :
    ¬Before second first := by
  grind [Before]

end Instant

namespace Outbox

theorem happenedFirst_trans (a b c : Message) (before : happenedFirst a b = true)
    (after : happenedFirst b c = true) : happenedFirst a c = true :=
  Instant.notAfter_trans before after

theorem happenedFirst_total (a b : Message) : (happenedFirst a b || happenedFirst b a) = true :=
  Instant.notAfter_total a.occurredOn b.occurredOn

/-! ### Positions in a list -/

section

variable {α : Type} {a b : α} {entries : List α}

/-- Of two members of a list one stands before the other, as a sublist of two. -/
theorem pair_sublist_or (first : a ∈ entries) (second : b ∈ entries) (different : a ≠ b) :
    [a, b].Sublist entries ∨ [b, a].Sublist entries := by
  induction entries with
  | nil => cases first
  | cons entry rest inductionHypothesis =>
    rcases List.mem_cons.mp first with rfl | amongFirst
    · rcases List.mem_cons.mp second with rfl | amongSecond
      · exact absurd rfl different
      · exact Or.inl (.cons_cons a (List.singleton_sublist.mpr amongSecond))
    · rcases List.mem_cons.mp second with rfl | amongSecond
      · exact Or.inr (.cons_cons b (List.singleton_sublist.mpr amongFirst))
      · exact (inductionHypothesis amongFirst amongSecond).imp (.cons entry) (.cons entry)

/-- Without repetitions no two members stand before each other, because each has one place. -/
theorem not_sublist_swap (distinct : entries.Nodup) (before : [a, b].Sublist entries) :
    ¬[b, a].Sublist entries := by
  intro after
  induction entries with
  | nil => cases before
  | cons entry rest inductionHypothesis =>
    obtain ⟨fresh, distinct⟩ := List.nodup_cons.mp distinct
    cases before with
    | cons _ before =>
      cases after with
      | cons _ after => exact inductionHypothesis distinct before after
      | cons_cons _ _ => exact fresh (before.subset (by simp))
    | cons_cons _ _ =>
      cases after with
      | cons _ after => exact fresh (after.subset (by simp))
      | cons_cons _ after => exact fresh (List.singleton_sublist.mp after)

/-- Sorting keeps members of a list without repetitions as they were, unless it has to swap them.
Any two members of the result are in the order of the comparison, and if that puts them level, in
the order of the list. -/
theorem pairwise_mergeSort_stable {le : α → α → Bool}
    (transitive : ∀ a b c, le a b = true → le b c = true → le a c = true)
    (total : ∀ a b, (le a b || le b a) = true) (distinct : entries.Nodup) :
    (entries.mergeSort le).Pairwise fun a b =>
      le a b = true ∧ (le b a = false ∨ [a, b].Sublist entries) := by
  have ordered := List.pairwise_mergeSort transitive total entries
  have sorted : (entries.mergeSort le).Nodup := (List.mergeSort_perm _ _).nodup_iff.mpr distinct
  refine List.pairwise_of_forall_sublist fun {a b} pair => ⟨ordered.forall_sublist pair, ?_⟩
  cases back : le b a with
  | false => exact Or.inl rfl
  | true =>
    -- Either may stand first. Had they stood the other way round before, they would stand so now.
    have inFirst : a ∈ entries := List.mem_mergeSort.mp (pair.subset (by simp))
    have inSecond : b ∈ entries := List.mem_mergeSort.mp (pair.subset (by simp))
    have different : a ≠ b := by
      rintro rfl
      exact absurd (sorted.sublist pair) (by simp)
    rcases pair_sublist_or inFirst inSecond different with kept | swapped
    · exact Or.inr kept
    · exact absurd (List.pair_sublist_mergeSort transitive total back swapped)
        (not_sublist_swap sorted pair)

end

/-! ### The order of delivery -/

/-- A message comes before another one: it happened at an earlier instant, or at the same one and
was added earlier. The order of insertion is that of the outbox, where one stands before the
other. -/
def Precedes (outbox : List Message) (a b : Message) : Prop :=
  a.occurredOn.Before b.occurredOn ∨ a.occurredOn = b.occurredOn ∧ [a, b].Sublist outbox

instance (outbox : List Message) (a b : Message) : Decidable (Precedes outbox a b) :=
  inferInstanceAs (Decidable (_ ∨ _))

section

variable {outbox messages : List Message} {a b : Message}

/-- The order among some messages is that among all, if they were taken without changing their
order. -/
theorem Precedes.mono (precedes : Precedes messages a b) (among : messages.Sublist outbox) :
    Precedes outbox a b :=
  precedes.imp_right fun ⟨same, before⟩ => ⟨same, before.trans among⟩

/-- No two messages come before each other. With distinct messages, this makes an arrangement in
order the only one. -/
theorem Precedes.asymm (distinct : outbox.Nodup) (before : Precedes outbox a b) :
    ¬Precedes outbox b a := by
  rintro (later | ⟨same, second⟩)
  · rcases before with earlier | ⟨same, -⟩
    · exact earlier.asymm later
    · exact Instant.Before.irrefl _ (same ▸ later)
  · rcases before with earlier | ⟨-, first⟩
    · exact Instant.Before.irrefl _ (same ▸ earlier)
    · exact not_sublist_swap distinct first second

/-- Sorted messages stand in the order of delivery, since the sort is stable. -/
theorem pairwise_sorted (distinct : messages.Nodup) :
    (messages.mergeSort happenedFirst).Pairwise (Precedes messages) := by
  refine (pairwise_mergeSort_stable happenedFirst_trans happenedFirst_total distinct).imp ?_
  rintro a b ⟨first, earlier | kept⟩
  · exact Or.inl (Instant.notAfter_eq_false_iff.mp earlier)
  · cases back : happenedFirst b a with
    | false => exact Or.inl (Instant.notAfter_eq_false_iff.mp back)
    | true => exact Or.inr ⟨Instant.notAfter_antisymm first back, kept⟩

/-- Messages can be left out before or after sorting. Both results are arrangements of the same
messages in one asymmetric order, and there is just one of these. -/
theorem mergeSort_filter (distinct : messages.Nodup) (eligible : Message → Bool) :
    (messages.filter eligible).mergeSort happenedFirst =
      (messages.mergeSort happenedFirst).filter eligible := by
  have before : ((messages.filter eligible).mergeSort happenedFirst).Pairwise (Precedes messages) :=
    (pairwise_sorted (distinct.filter _)).imp fun precedes => precedes.mono List.filter_sublist
  have after : ((messages.mergeSort happenedFirst).filter eligible).Pairwise (Precedes messages) :=
    (pairwise_sorted distinct).filter _
  have perm := (List.mergeSort_perm (messages.filter eligible) happenedFirst).trans
    ((List.mergeSort_perm messages happenedFirst).filter eligible).symm
  exact perm.eq_of_pairwise
    (fun _ _ _ _ one other => absurd other (one.asymm distinct)) before after

end

end Outbox

end OutboxRelay

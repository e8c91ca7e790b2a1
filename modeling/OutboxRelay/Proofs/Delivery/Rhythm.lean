import OutboxRelay.Delivery.Loop
import OutboxRelay.Proofs.Delivery.Calm

/-!
# The rhythm of the delivery loop

When a loop runs its cycles. The cycles come at the end of the warm-up and then once in every
interval, whatever becomes of them; a shutdown ends the wait in which it comes, and no cycle
follows. Nothing but a shutdown ends a loop.

A loop that has run some cycles and was not told to stop waits for the moment of the next one, and
its world is the one after as many batches. This is kept by every cycle, because a cycle that fails
is noted and followed by the same wait as any other. Only a shutdown at the very moment at which a
wait is over would leave it open which of the two ends that wait.
-/

namespace OutboxRelay.Delivery

namespace Loop

variable {σ S : Type} (processor : Processor σ S)

/-- The moment of a cycle, by its number: the end of the warm-up, and one interval for every cycle
before it. -/
def momentOf (config : Config) (number : Nat) : Nat :=
  config.warmup + number * config.pollInterval

/-- What comes of a cycle, by its number, in a world where all cycles before it were run. It may be
a failure like any other result. -/
def resultOf (world : World σ) (number : Nat) : Except Outbox.Error Report :=
  (processor.processBatch.perform (processor.afterBatches number world)).1

/-- A loop that has run a number of cycles and waits for the next one. Everything about it is
determined by that number. -/
def underway (world : World σ) (count : Nat) : Loop where
  stage := .waiting (momentOf processor.config count)
  cycles := (List.range count).map fun number =>
    ⟨momentOf processor.config number, resultOf processor world number⟩

theorem momentOf_succ (config : Config) (number : Nat) :
    momentOf config (number + 1) = momentOf config number + config.pollInterval := by
  simp only [momentOf, Nat.succ_mul, Nat.add_assoc]

/-- Later cycles come at later moments, as an interval takes some time. -/
theorem momentOf_lt_iff {config : Config} (positive : 0 < config.pollInterval)
    (first second : Nat) :
    momentOf config first < momentOf config second ↔ first < second := by
  simp [momentOf, Nat.mul_lt_mul_right positive]

/-- Numbers of cycles grow no faster than time. -/
theorem le_momentOf {config : Config} (positive : 0 < config.pollInterval) (number : Nat) :
    number ≤ momentOf config number :=
  (Nat.le_mul_of_pos_right number positive).trans (Nat.le_add_left _ _)

/-- Whatever comes of a cycle, the loop is underway to the next one. This is the step lemma of the
loop: a cycle that fails is noted, and followed by the same wait. -/
theorem run_resume_woken (world : World σ) (count : Nat) :
    (resume processor (momentOf processor.config count) (underway processor world count)
        .woken).run (processor.afterBatches count world) =
      (underway processor world (count + 1), processor.afterBatches (count + 1) world) := by
  have noted : underway processor world (count + 1) =
      { stage := .waiting (momentOf processor.config count + processor.config.pollInterval)
        cycles := (underway processor world count).cycles ++
          [⟨momentOf processor.config count, resultOf processor world count⟩] } := by
    simp [underway, momentOf_succ, List.range_succ]
  rw [noted, processor.afterBatches_succ, resume, StateT.run_bind, Effect.run_outcome]
  rfl

/-- How a loop stands once all is done that happens before a deadline: it has run some cycles, all
of them before the deadline and before a shutdown, and either it waits beyond the deadline or the
shutdown came while it waited. -/
structure Stands (shutdown? : Option Shutdown) (deadline : Nat) (world : World σ) (count : Nat)
    (stood : Loop × World σ) : Prop where
  cycles : stood.1.cycles = (underway processor world count).cycles
  world : stood.2 = processor.afterBatches count world
  passed : ∀ number < count, momentOf processor.config number < deadline ∧
    ∀ shutdown ∈ shutdown?, momentOf processor.config number < shutdown.moment
  stage : stood.1.stage = .waiting (momentOf processor.config count) ∧
      deadline ≤ momentOf processor.config count ∧
        (∀ shutdown ∈ shutdown?, deadline ≤ shutdown.moment) ∨
    ∃ shutdown ∈ shutdown?, stood.1.stage = .ended shutdown.moment ∧
      shutdown.moment < deadline ∧ shutdown.moment < momentOf processor.config count

section

variable {processor} {shutdown? : Option Shutdown} {deadline : Nat} {world : World σ}

/-- A wait ends with its cycle before every shutdown, or with a shutdown before its cycle. A
shutdown at the very moment of a cycle is left out. -/
theorem upcoming?_underway (world : World σ) (count : Nat)
    (apart : ∀ shutdown ∈ shutdown?, shutdown.moment ≠ momentOf processor.config count) :
    (underway processor world count).upcoming? shutdown? =
        some (momentOf processor.config count, .woken) ∧
      (∀ shutdown ∈ shutdown?, momentOf processor.config count < shutdown.moment) ∨
    ∃ shutdown ∈ shutdown?, (underway processor world count).upcoming? shutdown? =
        some (shutdown.moment, .told) ∧
      shutdown.moment < momentOf processor.config count := by
  cases shutdown? with
  | none =>
    left
    constructor
    · rfl
    · simp
  | some shutdown =>
    have different := apart shutdown rfl
    rcases Nat.lt_or_gt_of_ne different with earlier | later
    · right
      refine ⟨shutdown, rfl, ?_, earlier⟩
      simp [upcoming?, underway, Shutdown.cutsShort, earlier]
    · left
      constructor
      · simp [upcoming?, underway, Shutdown.cutsShort, different, Nat.not_lt_of_gt later]
      · simpa using later

/-- Enough fuel takes a loop that is underway to the deadline. The induction is on the fuel: every
cycle uses up one unit and comes one interval later, so that the fuel cannot run out before the time
does. -/
theorem stands_advance (positive : 0 < processor.config.pollInterval)
    (apart : ∀ shutdown ∈ shutdown?, ∀ number, shutdown.moment ≠ momentOf processor.config number)
    {fuel count : Nat} (enough : deadline < fuel + count)
    (passed : ∀ number < count, momentOf processor.config number < deadline ∧
      ∀ shutdown ∈ shutdown?, momentOf processor.config number < shutdown.moment) :
    ∃ final, Stands processor shutdown? deadline world final
      ((advance processor shutdown? deadline fuel (underway processor world count)).run
        (processor.afterBatches count world)) := by
  induction fuel generalizing count with
  | zero =>
    obtain ⟨last, rfl⟩ : ∃ last, count = last + 1 := Nat.exists_eq_succ_of_ne_zero (by omega)
    have late := le_momentOf positive last
    have early := (passed last (Nat.lt_succ_self last)).1
    omega
  | succ fuel inductionHypothesis =>
    rw [advance]
    rcases upcoming?_underway world count fun shutdown given => apart shutdown given count
      with ⟨next, before⟩ | ⟨shutdown, given, next, before⟩
    · rw [next]
      dsimp only
      by_cases due : momentOf processor.config count < deadline
      · rw [if_pos due, StateT.run_bind, run_resume_woken]
        refine inductionHypothesis (by omega) fun number earlier => ?_
        rcases Nat.lt_succ_iff_lt_or_eq.mp earlier with earlier | rfl
        · exact passed number earlier
        · exact ⟨due, before⟩
      · rw [if_neg due]
        have reached : deadline ≤ momentOf processor.config count := Nat.le_of_not_lt due
        exact ⟨count, rfl, rfl, passed, .inl ⟨rfl, reached, fun shutdown given =>
          reached.trans (Nat.le_of_lt (before shutdown given))⟩⟩
    · rw [next]
      dsimp only
      by_cases due : shutdown.moment < deadline
      · have returned : ∀ later fuel, advance processor shutdown? deadline fuel
            { underway processor world count with stage := .ended later } =
              pure { underway processor world count with stage := .ended later } := by
          intro later fuel
          cases fuel <;> rfl
        rw [if_pos due, resume, pure_bind, returned]
        exact ⟨count, rfl, rfl, passed, .inr ⟨shutdown, given, rfl, due, before⟩⟩
      · rw [if_neg due]
        have reached : deadline ≤ shutdown.moment := Nat.le_of_not_lt due
        refine ⟨count, rfl, rfl, passed, .inl ⟨rfl, by omega, ?_⟩⟩
        rintro other same
        obtain rfl := Option.mem_unique given same
        exact reached

/-- Just the cycles that are due before the deadline and before every shutdown were run. So the
number of cycles is determined by deadline and shutdown alone. -/
theorem Stands.lt_count_iff (positive : 0 < processor.config.pollInterval) {count number : Nat}
    {stood : Loop × World σ} (stands : Stands processor shutdown? deadline world count stood) :
    number < count ↔ momentOf processor.config number < deadline ∧
      ∀ shutdown ∈ shutdown?, momentOf processor.config number < shutdown.moment := by
  constructor
  · exact stands.passed number
  · rintro ⟨due, before⟩
    by_contra missing
    have later : momentOf processor.config count ≤ momentOf processor.config number := by
      have past := momentOf_lt_iff positive number count
      omega
    rcases stands.stage with ⟨-, reached, -⟩ | ⟨shutdown, given, -, -, earlier⟩
    · omega
    · have unended := before shutdown given
      omega

end

/-- What is noted of a loop, and what became of its world, once all is done that happens before a
deadline. -/
structure KeepsRhythm (shutdown? : Option Shutdown) (deadline : Nat) (world : World σ)
    (stood : Loop × World σ) : Prop where
  /-- The cycles come one after the other. -/
  ordered : (stood.1.cycles.map (·.moment)).Pairwise (· < ·)
  /-- They come at the end of the warm-up and then once in every interval, and at no other time. -/
  moments : ∀ moment, moment ∈ stood.1.cycles.map (·.moment) ↔
    (∃ number, moment = processor.config.warmup + number * processor.config.pollInterval) ∧
      moment < deadline ∧ ∀ shutdown ∈ shutdown?, moment < shutdown.moment
  /-- Each is a batch in the world that those before it left, and may fail. -/
  results : stood.1.cycles.map (·.result) = (List.range stood.1.cycles.length).map fun number =>
    (processor.processBatch.perform (processor.afterBatches number world)).1
  /-- Nothing but the cycles changes the world. -/
  world : stood.2 = processor.afterBatches stood.1.cycles.length world
  /-- The loop returns at a shutdown and at no other time. -/
  returned : ∀ moment, stood.1.stage = .ended moment ↔
    ∃ shutdown ∈ shutdown?, shutdown.moment = moment ∧ moment < deadline

section

variable {processor} {shutdown? : Option Shutdown} {deadline : Nat} {world : World σ}

/-- Where a loop stands determines what is noted of it, from its number of cycles alone. -/
theorem Stands.keepsRhythm (positive : 0 < processor.config.pollInterval) {count : Nat}
    {stood : Loop × World σ} (stands : Stands processor shutdown? deadline world count stood) :
    KeepsRhythm processor shutdown? deadline world stood := by
  have moments : stood.1.cycles.map (·.moment) =
      (List.range count).map (momentOf processor.config) := by
    simp [stands.cycles, underway]
  have length : stood.1.cycles.length = count := by
    simp [stands.cycles, underway]
  constructor
  case ordered =>
    rw [moments, List.pairwise_map]
    exact List.pairwise_lt_range.imp (momentOf_lt_iff positive _ _).mpr
  case moments =>
    intro moment
    rw [moments, List.mem_map]
    constructor
    · rintro ⟨number, among, rfl⟩
      exact ⟨⟨number, rfl⟩, stands.passed number (List.mem_range.mp among)⟩
    · rintro ⟨⟨number, rfl⟩, due⟩
      exact ⟨number, List.mem_range.mpr ((stands.lt_count_iff positive).mpr due), rfl⟩
  case results =>
    rw [length, stands.cycles]
    simp [underway, resultOf]
  case world =>
    rw [length]
    exact stands.world
  case returned =>
    intro moment
    rcases stands.stage with ⟨waits, -, later⟩ | ⟨shutdown, given, ended, due, -⟩
    · rw [waits]
      constructor
      · simp
      · rintro ⟨shutdown, given, rfl, due⟩
        exact absurd due (Nat.not_lt_of_le (later shutdown given))
    · rw [ended]
      constructor
      · rintro same
        obtain rfl := Stage.ended.inj same
        exact ⟨shutdown, given, rfl, due⟩
      · rintro ⟨other, alsoGiven, rfl, -⟩
        obtain rfl := Option.mem_unique given alsoGiven
        rfl

variable (processor) in
/-- A whole life of a loop, from its beginning to the deadline. It begins underway to its first
cycle. -/
theorem stands_run (positive : 0 < processor.config.pollInterval)
    (apart : ∀ shutdown ∈ shutdown?, ∀ number, shutdown.moment ≠
      processor.config.warmup + number * processor.config.pollInterval) (deadline : Nat)
    (world : World σ) :
    ∃ count, Stands processor shutdown? deadline world count
      ((run processor shutdown? deadline).run world) := by
  have begun : start processor.config 0 = underway processor world 0 := by
    simp [start, underway, momentOf]
  rw [run, begun]
  exact stands_advance positive apart (Nat.lt_succ_self deadline) (by simp)

end

/-- A loop runs its cycles at the end of the warm-up and once in every interval from then on, as
long as it is not told to stop, and returns as soon as it is. No failure of a poll, of a publish or
of a record has any influence on that. From the shutdown on nothing is published or changed, and a
shutdown during the warm-up comes before the first cycle.

Proof: a loop is underway after each of its cycles, whatever came of that (`run_resume_woken`), and
so it stands at any deadline with the cycles that were due (`stands_run`). Their number depends on
warm-up, interval, deadline and shutdown only (`Stands.lt_count_iff`), so that two loops with the
same times run their cycles at the same moments. -/
theorem cycles_in_rhythm {shutdown? : Option Shutdown}
    (positive : 0 < processor.config.pollInterval)
    (apart : ∀ shutdown ∈ shutdown?, ∀ number, shutdown.moment ≠
      processor.config.warmup + number * processor.config.pollInterval) (world : World σ) :
    (∀ deadline, KeepsRhythm processor shutdown? deadline world
        ((run processor shutdown? deadline).run world)) ∧
      (∀ shutdown ∈ shutdown?, ∀ deadline, shutdown.moment ≤ deadline →
        ((run processor shutdown? deadline).run world).2 =
          ((run processor shutdown? shutdown.moment).run world).2) ∧
      (∀ shutdown ∈ shutdown?, shutdown.moment < processor.config.warmup → ∀ deadline,
        ((run processor shutdown? deadline).run world).1.cycles = [] ∧
          ((run processor shutdown? deadline).run world).2 = world) ∧
      ∀ {τ T : Type} (other : Processor τ T) (elsewhere : World τ) (deadline : Nat),
        other.config.warmup = processor.config.warmup →
        other.config.pollInterval = processor.config.pollInterval →
          ((run other shutdown? deadline).run elsewhere).1.cycles.map (·.moment) =
            ((run processor shutdown? deadline).run world).1.cycles.map (·.moment) := by
  have stands (deadline : Nat) := stands_run processor positive apart deadline world
  have rhythm (deadline : Nat) := (stands deadline).elim fun _ => Stands.keepsRhythm positive
  refine ⟨rhythm, ?_, ?_, ?_⟩
  · intro shutdown given deadline late
    obtain ⟨later, standsLater⟩ := stands deadline
    obtain ⟨sooner, standsSooner⟩ := stands shutdown.moment
    have same : later = sooner := by
      refine eq_of_forall_lt_iff fun number => ?_
      rw [standsLater.lt_count_iff positive, standsSooner.lt_count_iff positive]
      constructor
      · rintro ⟨-, before⟩
        exact ⟨before shutdown given, before⟩
      · rintro ⟨due, before⟩
        exact ⟨Nat.lt_of_lt_of_le due late, before⟩
    rw [standsLater.world, standsSooner.world, same]
  · intro shutdown given early deadline
    have none : ((run processor shutdown? deadline).run world).1.cycles = [] := by
      refine List.eq_nil_iff_forall_not_mem.mpr fun cycle among => ?_
      obtain ⟨⟨number, same⟩, -, before⟩ :=
        ((rhythm deadline).moments cycle.moment).mp (List.mem_map_of_mem among)
      have past := before shutdown given
      omega
    have reached := (rhythm deadline).world
    rw [none] at reached
    exact ⟨none, reached⟩
  · intro τ T other elsewhere deadline warmup interval
    have othersPositive : 0 < other.config.pollInterval := interval ▸ positive
    have othersApart : ∀ shutdown ∈ shutdown?, ∀ number, shutdown.moment ≠
        other.config.warmup + number * other.config.pollInterval := by
      rw [warmup, interval]
      exact apart
    obtain ⟨_, standsElsewhere⟩ := stands_run other othersPositive othersApart deadline elsewhere
    have elsewhere := standsElsewhere.keepsRhythm othersPositive
    refine List.Perm.eq_of_pairwise
      (fun _ _ _ _ less more => absurd more (Nat.lt_asymm less))
      elsewhere.ordered (rhythm deadline).ordered ?_
    rw [List.perm_ext_iff_of_nodup (elsewhere.ordered.imp Nat.ne_of_lt)
      ((rhythm deadline).ordered.imp Nat.ne_of_lt)]
    intro moment
    rw [elsewhere.moments, (rhythm deadline).moments, warmup, interval]

/-- One message, a store that fails the first poll and loses the first record, and a bus that
refuses its first attempt. -/
def contraryWorld : World Trial where
  ids n := ⟨BitVec.ofNat 128 n⟩
  clock _ := ⟨0, 0⟩
  state := {
    memory := { outbox := [.fresh ⟨1⟩ "placed" "first" ⟨0, 0⟩], failNextFetch := true }
    answers := fun n => if n = 0 then .error (.publish "refused") else .ok ()
    faults := fun n => if n = 0 then some (.store "lost") else none }

theorem cycles_in_rhythm_contraryWorld :
    let processor := Trial.processor { pollInterval := 5, warmup := 3 }
    let shutdown : Shutdown := ⟨14, false⟩
    let life := fun deadline => (run processor (some shutdown) deadline).run contraryWorld
    0 < processor.config.pollInterval ∧
      (∀ number, shutdown.moment ≠
        processor.config.warmup + number * processor.config.pollInterval) ∧
      (∀ deadline, KeepsRhythm processor (some shutdown) deadline contraryWorld (life deadline)) ∧
      (life 20).1.cycles.map (·.moment) = [3, 8, 13] ∧
      (life 20).1.cycles.map (·.result.isOk) = [false, true, true] ∧
      (life 20).2.state.offered.length = 2 ∧ (life 20).1.stage = .ended 14 := by
  intro processor shutdown life
  have positive : 0 < processor.config.pollInterval := by decide
  have apart : ∀ number, shutdown.moment ≠
      processor.config.warmup + number * processor.config.pollInterval := by
    intro number
    change 14 ≠ 3 + number * 5
    omega
  have apartIfGiven : ∀ given ∈ some shutdown, ∀ number, given.moment ≠
      processor.config.warmup + number * processor.config.pollInterval := by
    rintro given same
    obtain rfl := Option.mem_some.mp same
    exact apart
  refine ⟨positive, apart, (cycles_in_rhythm processor positive apartIfGiven contraryWorld).1, ?_⟩
  decide +kernel

end Loop

end OutboxRelay.Delivery

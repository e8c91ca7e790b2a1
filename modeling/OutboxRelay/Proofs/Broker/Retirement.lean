import OutboxRelay.Proofs.Broker.SingleFlight
import OutboxRelay.Proofs.Broker.Traffic

/-!
# Retired channels

A channel is established by one caller, from its declaration until it is cached. Until then nobody
else knows it, and afterwards nobody establishes it again, so that an established channel that is
not cached is retired: the cache never holds it again, and nobody who does not work with it already
ever will. A channel is retired when it leaves the cache, and it is retired once a caller whose
publish call on it failed has returned, for that caller has dropped it.
-/

namespace OutboxRelay.Broker

variable {ρ : Type}

/-- The channel that a caller at this stage is about to cache. -/
def Stage.establishes? : Stage → Option ChannelId
  | .declaring channel | .storing channel => some channel
  | _ => none

theorem Stage.holds_of_establishes? {stage : Stage} {channel : ChannelId}
    (establishes : stage.establishes? = some channel) :
    stage.holds = true := by
  revert establishes
  cases stage <;> simp [Stage.establishes?, Stage.holds]

namespace Connection

variable {before after : Connection ρ} {move : Move ρ} {done : List (Step ρ)} {channel : ChannelId}

/-- A channel is established and not cached. It is never cached again, as only who establishes a
channel caches it. -/
structure Retired (connection : Connection ρ) (channel : ChannelId) : Prop where
  has : connection.Has channel
  gone : connection.cached ≠ some channel
  established : ∀ maker, (connection.stages maker).establishes? ≠ some channel

/-- A channel that somebody establishes is not cached, and nobody else works with it. So there is no
second caller that could bring it back after it was dropped. -/
def Secretive (connection : Connection ρ) : Prop :=
  ∀ maker channel, (connection.stages maker).establishes? = some channel →
    connection.cached ≠ some channel ∧
      ∀ other, (connection.stages other).offered? = some channel → other = maker

/-- A channel is established by the caller whose connect call gave it. -/
theorem Transition.establishing (transition : Transition before move after) {maker : CallerId}
    (establishes : (after.stages maker).establishes? = some channel) :
    (before.stages maker).establishes? = some channel ∨ ¬before.Has channel := by
  cases transition <;> grind [Stage.establishes?, Has]

/-- A channel that is established and not cached any more is retired. -/
theorem Transition.retires (transition : Transition before move after) (has : before.Has channel)
    (established : ∀ maker, (before.stages maker).establishes? ≠ some channel)
    (gone : after.cached ≠ some channel) : after.Retired channel := by
  refine ⟨transition.has has, gone, fun maker establishes => ?_⟩
  rcases transition.establishing establishes with already | new
  · exact established maker already
  · exact new has

/-- A retired channel stays retired. It could enter the cache only from a caller that establishes
it, and there is none for a channel that is known. -/
theorem Transition.retired (transition : Transition before move after)
    (retired : before.Retired channel) : after.Retired channel := by
  refine transition.retires retired.has retired.established fun cached => ?_
  rcases transition.caches cached with already | ⟨maker, storing, _⟩
  · exact retired.gone already
  · exact retired.established maker (by rw [storing]; rfl)

/-- Nobody comes to work with a retired channel: it is not in the cache to be found, and not
declared. -/
theorem Transition.spares (transition : Transition before move after)
    (retired : before.Retired channel) {caller : CallerId}
    (free : (before.stages caller).offered? ≠ some channel) :
    (after.stages caller).offered? ≠ some channel := by
  intro offered
  rcases transition.offered offered with already | cached | ⟨declaring, _⟩
  · exact free already
  · exact retired.gone cached
  · exact retired.established caller (by rw [declaring]; rfl)

/-- Every transition keeps the secret: a channel that comes to be established is new, and while it
is established its maker alone holds the lock. -/
theorem Secretive.step (secretive : Secretive before) (account : Account done before)
    (transition : Transition before move after) : Secretive after := by
  intro maker channel establishes
  rcases transition.establishing establishes with already | new
  · have ⟨gone, only⟩ := secretive maker channel already
    have holds := Stage.holds_of_establishes? already
    constructor
    · intro cached
      rcases transition.caches cached with cached | ⟨other, storing, ready⟩
      · exact gone cached
      · have same : other = maker := account.orderly.alone (by rw [storing]; rfl) holds
        rw [← same, ready] at establishes
        cases establishes
    · intro other offered
      rcases transition.offered offered with offered | cached | ⟨declaring, _⟩
      · exact only other offered
      · exact absurd cached gone
      · exact account.orderly.alone (by rw [declaring]; rfl) holds
  · have unknown : ¬before.Offers channel := fun offers => new (account.offered offers)
    constructor
    · intro cached
      rcases transition.caches cached with cached | ⟨other, storing, _⟩
      · exact unknown (Or.inl cached)
      · exact unknown (Or.inr ⟨other, by rw [storing]; rfl⟩)
    · intro other offered
      rcases transition.offered offered with offered | cached | ⟨declaring, _⟩
      · exact absurd (Or.inr ⟨other, offered⟩) unknown
      · exact absurd (Or.inl cached) unknown
      · exact absurd (account.declaring other channel declaring) new

/-! ### What the past tells -/

/-- What the steps done so far tell of the channels that were used, those that were cached and those
that refused a message. -/
structure Past (done : List (Step ρ)) (connection : Connection ρ) : Prop where
  account : Account done connection
  secretive : Secretive connection
  /-- A channel that was cached once is cached or retired. -/
  left : ∀ channel, (∃ step ∈ done, step.after.cached = some channel) →
    connection.cached = some channel ∨ connection.Retired channel
  /-- A caller whose publish call on a channel failed is about to drop it or has returned. -/
  refused : ∀ caller channel,
    (∃ step ∈ done, step.Fails caller ∧ step.before.stages caller = .publishing channel) →
      (∃ error, connection.stages caller = .discarding channel error) ∨
        (∃ error, connection.stages caller = .finished (.error error)) ∧
          connection.Retired channel

theorem past_fresh : Past [] ({} : Connection ρ) :=
  ⟨account_fresh, nofun, nofun, nofun⟩

/-- Whoever has returned stays so. -/
theorem Transition.finished (transition : Transition before move after) (orderly : Orderly before)
    {caller : CallerId} {result : Except Error ChannelId}
    (finished : before.stages caller = .finished result) :
    after.stages caller = .finished result := by
  have := @orderly.first_queued
  cases transition <;> grind

/-- Whoever is about to drop a channel has dropped it when it returns. -/
theorem Transition.of_discarding (transition : Transition before move after)
    (orderly : Orderly before) {caller : CallerId} {error : Error}
    (discarding : before.stages caller = .discarding channel error) :
    after.stages caller = .discarding channel error ∨
      after.stages caller = .finished (.error error) ∧ after.cached ≠ some channel := by
  have := @orderly.first_queued
  cases transition <;> grind

/-- A publish call that fails makes its caller drop the channel. -/
theorem Transition.refuses (transition : Transition before move after) {caller : CallerId}
    (fails : Step.Fails caller ⟨before, move, after⟩)
    (publishing : before.stages caller = .publishing channel) :
    ∃ error, after.stages caller = .discarding channel error := by
  obtain ⟨error, bornOpen, moves⟩ := fails
  refine ⟨error, ?_⟩
  cases transition <;> grind

/-- Every transition keeps what the past tells. A channel that leaves the cache retires in that
step, and a caller that drops a channel returns in the same step. -/
theorem Past.step (past : Past done before) (transition : Transition before move after) :
    Past (done ++ [⟨before, move, after⟩]) after where
  account := past.account.step transition
  secretive := past.secretive.step past.account transition
  left := by
    rintro channel ⟨step, among, cached⟩
    rcases List.mem_append.mp among with earlier | last
    · rcases past.left channel ⟨step, earlier, cached⟩ with cached | retired
      · by_cases still : after.cached = some channel
        · exact Or.inl still
        · refine Or.inr (transition.retires (past.account.offered (Or.inl cached)) ?_ still)
          exact fun maker establishes => (past.secretive maker channel establishes).1 cached
      · exact Or.inr (transition.retired retired)
    · cases List.mem_singleton.mp last
      exact Or.inl cached
  refused := by
    rintro caller channel ⟨step, among, fails, publishing⟩
    rcases List.mem_append.mp among with earlier | last
    · have orderly := past.account.orderly
      rcases past.refused caller channel ⟨step, earlier, fails, publishing⟩ with
        ⟨error, discarding⟩ | ⟨⟨error, finished⟩, retired⟩
      · rcases transition.of_discarding orderly discarding with still | ⟨finished, gone⟩
        · exact Or.inl ⟨error, still⟩
        · have offered : (before.stages caller).offered? = some channel := by
            rw [discarding]
            rfl
          refine Or.inr ⟨⟨error, finished⟩, transition.retires ?_ ?_ gone⟩
          · exact past.account.offered (Or.inr ⟨caller, offered⟩)
          · intro maker establishes
            have same := (past.secretive maker channel establishes).2 caller offered
            rw [← same, discarding] at establishes
            cases establishes
      · exact Or.inr ⟨⟨error, transition.finished orderly finished⟩, transition.retired retired⟩
    · cases List.mem_singleton.mp last
      exact Or.inl (transition.refuses fails publishing)

/-- What the past of a run tells of its end. -/
theorem Leads.past {steps : List (Step ρ)} {final : Connection ρ} (leads : Leads {} steps final) :
    Past steps final :=
  leads.accumulate (fun transition past => past.step transition) past_fresh

/-- A publish call is made on the channel that its caller works with. -/
theorem Transition.publishes_own (transition : Transition before move after) {caller : CallerId}
    {properties : Properties} {payload : ρ}
    (made : .made caller (.publish channel properties payload) ∈
      (⟨before, move, after⟩ : Step ρ).signals) :
    (before.stages caller).offered? = some channel := by
  cases transition <;> simp_all [Step.signals, Step.begun, Stage.offered?]

/-- Once a channel is retired, the cache does not hold it, and nobody who does not work with it
returns with it or publishes on it. The induction is on the steps. -/
theorem Leads.spared {steps : List (Step ρ)} {start final : Connection ρ}
    (leads : Leads start steps final) (retired : start.Retired channel) :
    final.Retired channel ∧ ∀ caller, (start.stages caller).offered? ≠ some channel →
      (final.stages caller).offered? ≠ some channel ∧
        ∀ properties payload,
          .made caller (.publish channel properties payload) ∉ traffic steps := by
  induction leads with
  | nowhere connection => exact ⟨retired, fun caller free => ⟨free, fun _ _ => by simp [traffic]⟩⟩
  | @step before after final move rest transition onward inductionHypothesis =>
    have ⟨still, spared⟩ := inductionHypothesis (transition.retired retired)
    refine ⟨still, fun caller free => ?_⟩
    have ⟨freeStill, silent⟩ := spared caller (transition.spares retired free)
    refine ⟨freeStill, fun properties payload made => ?_⟩
    rcases List.mem_append.mp made with here | later
    · exact free (transition.publishes_own here)
    · exact silent properties payload later

end Connection

end OutboxRelay.Broker

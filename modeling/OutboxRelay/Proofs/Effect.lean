import OutboxRelay.World

/-!
# Laws of effects

What a computation gives and does, read off its parts. Sequencing stops at the first failure and
keeps the state that the failing part left; an effect on a part of a state leaves the rest alone.
The laws are oriented from a composite computation to its parts, so that `simp` performs a
computation step by step.

A relation between states that is reflexive and transitive holds across a whole computation as soon
as it holds across its parts. In this way what store and bus leave alone becomes what cycles and
operations leave alone.

A change that no part of a computation looks at makes no difference to the whole.
-/

namespace OutboxRelay

/-! ### Outcomes -/

/-- A sequence gives what its second part gives for what the first part gave. Where a computation
with failures is known to succeed, this takes it apart. -/
theorem bind_eq_ok_iff {ε α β : Type} {first : Except ε α} {next : α → Except ε β} {result : β} :
    first >>= next = .ok result ↔ ∃ value, first = .ok value ∧ next value = .ok result := by
  cases first <;> simp [bind, Except.bind]

/-- Renaming failures leaves what is given alone, and a success comes of a success only. -/
theorem mapError_eq_ok_iff {ε ε' α : Type} {outcome : Except ε α} {rename : ε → ε'} {value : α} :
    outcome.mapError rename = .ok value ↔ outcome = .ok value := by
  cases outcome with
  | error _ => exact ⟨nofun, nofun⟩
  | ok _ =>
    exact ⟨fun same => congrArg Except.ok (Except.ok.inj same),
      fun same => congrArg Except.ok (Except.ok.inj same)⟩

/-! ### Computations -/

namespace Effect

variable {σ τ ε ε' α β : Type}

@[simp] theorem perform_pure (value : α) (state : σ) :
    (pure value : Effect σ ε α).perform state = (.ok value, state) := rfl

@[simp] theorem perform_throw (error : ε) (state : σ) :
    (throw error : Effect σ ε α).perform state = (.error error, state) := rfl

/-- A sequence performs its second part only if the first one succeeds. The second part begins in
the state that the first one reached, and so does the failure. -/
theorem perform_bind (first : Effect σ ε α) (next : α → Effect σ ε β) (state : σ) :
    (first >>= next).perform state =
      match first.perform state with
      | (.ok value, reached) => (next value).perform reached
      | (.error error, reached) => (.error error, reached) := by
  rcases performed : first.perform state with ⟨error | value, reached⟩
  all_goals
    unfold perform at performed ⊢
    rw [ExceptT.run_bind, StateT.run_bind, performed]
    rfl

/-- A sequence goes on where its first part succeeded. This is the step of every symbolic run. -/
theorem perform_bind_ok {first : Effect σ ε α} {state reached : σ} {value : α}
    (succeeded : first.perform state = (.ok value, reached)) (next : α → Effect σ ε β) :
    (first >>= next).perform state = (next value).perform reached := by
  rw [perform_bind, succeeded]

/-- A sequence ends where its first part failed. -/
theorem perform_bind_error {first : Effect σ ε α} {state reached : σ} {error : ε}
    (failed : first.perform state = (.error error, reached)) (next : α → Effect σ ε β) :
    (first >>= next).perform state = (.error error, reached) := by
  rw [perform_bind, failed]

/-- Giving something else back changes no state. -/
theorem perform_bind_pure (first : Effect σ ε α) (give : α → β) (state : σ) :
    (first >>= fun value => pure (give value)).perform state =
      ((first.perform state).1.map give, (first.perform state).2) := by
  rw [perform_bind]
  rcases first.perform state with ⟨error | value, reached⟩ <;> rfl

@[simp] theorem perform_get (state : σ) :
    (get : Effect σ ε σ).perform state = (.ok state, state) := rfl

@[simp] theorem perform_set (next state : σ) :
    (set next : Effect σ ε PUnit).perform state = (.ok ⟨⟩, next) := rfl

@[simp] theorem perform_modify (change : σ → σ) (state : σ) :
    (modify change : Effect σ ε PUnit).perform state = (.ok ⟨⟩, change state) := rfl

@[simp] theorem perform_ofPair (step : σ → Except ε α × σ) (state : σ) :
    (ofPair step).perform state = step state := rfl

@[simp] theorem perform_ofState (step : StateM σ α) (state : σ) :
    (ofState step : Effect σ ε α).perform state =
      (.ok (step.run state).1, (step.run state).2) := rfl

@[simp] theorem perform_mapError (rename : ε → ε') (effect : Effect σ ε α) (state : σ) :
    (effect.mapError rename).perform state =
      ((effect.perform state).1.mapError rename, (effect.perform state).2) := rfl

@[simp] theorem perform_onPart (part : τ → σ) (replace : σ → τ → τ) (effect : Effect σ ε α)
    (whole : τ) :
    (effect.onPart part replace).perform whole =
      ((effect.perform (part whole)).1, replace (effect.perform (part whole)).2 whole) := rfl

@[simp] theorem run_outcome (effect : Effect σ ε α) (state : σ) :
    effect.outcome.run state = effect.perform state := rfl

/-! ### Relations that computations respect -/

/-- Whatever the outcome, the state reached is related to the one begun with. A failure has to
respect the relation as well. -/
def Respects (relation : σ → σ → Prop) (effect : Effect σ ε α) : Prop :=
  ∀ state, relation state (effect.perform state).2

variable {relation : σ → σ → Prop}

/-- A value alone respects every reflexive relation. -/
theorem respects_pure (reflexive : ∀ state, relation state state) (value : α) :
    Respects relation (pure value : Effect σ ε α) :=
  reflexive

/-- A failure alone respects every reflexive relation. -/
theorem respects_throw (reflexive : ∀ state, relation state state) (error : ε) :
    Respects relation (throw error : Effect σ ε α) :=
  reflexive

/-- A sequence respects a transitive relation that its parts respect. If the first part fails, the
sequence has gone no further than that part, and the relation holds by the first part alone. -/
theorem Respects.bind (transitive : ∀ a b c, relation a b → relation b c → relation a c)
    {first : Effect σ ε α} {next : α → Effect σ ε β} (begun : Respects relation first)
    (continued : ∀ value, Respects relation (next value)) :
    Respects relation (first >>= next) := by
  intro state
  have reachedFirst : relation state (first.perform state).2 := begun state
  rw [perform_bind]
  rcases performed : first.perform state with ⟨error | value, reached⟩
  · simpa only [performed] using reachedFirst
  · rw [performed] at reachedFirst
    exact transitive _ _ _ reachedFirst (continued value reached)

/-! ### Changes that computations ignore -/

/-- A change made beforehand has no influence on the outcome, and is what it was afterwards. Two
runs that differ by such a change can then be compared without looking at what they do. -/
def Ignores (change : σ → σ) (effect : Effect σ ε α) : Prop :=
  ∀ state, effect.perform (change state) =
    ((effect.perform state).1, change (effect.perform state).2)

variable {change : σ → σ}

/-- A value alone ignores every change. -/
theorem ignores_pure (value : α) : Ignores change (pure value : Effect σ ε α) :=
  fun _ => rfl

/-- A sequence ignores what its parts ignore. -/
theorem Ignores.bind {first : Effect σ ε α} {next : α → Effect σ ε β}
    (begun : Ignores change first) (continued : ∀ value, Ignores change (next value)) :
    Ignores change (first >>= next) := by
  intro state
  rw [perform_bind, perform_bind, begun state]
  rcases first.perform state with ⟨error | value, reached⟩
  · rfl
  · exact continued value reached

end Effect

namespace World

variable {σ ε α : Type}

@[simp] theorem perform_drawId (world : World σ) :
    (drawId : Effect (World σ) ε Identifier).perform world =
      (.ok (world.ids world.drawn), { world with drawn := world.drawn + 1 }) := rfl

@[simp] theorem perform_readClock (world : World σ) :
    (readClock : Effect (World σ) ε Instant).perform world =
      (.ok (world.clock world.readings), { world with readings := world.readings + 1 }) := rfl

@[simp] theorem perform_onState (effect : Effect σ ε α) (world : World σ) :
    (onState effect).perform world =
      ((effect.perform world.state).1, { world with state := (effect.perform world.state).2 }) :=
  rfl

@[simp] theorem perform_outside {S : Type} (effect : Effect (World σ) ε α) (world : World σ)
    (session : S) :
    (outside effect).perform (world, session) =
      ((effect.perform world).1, (effect.perform world).2, session) := rfl

end World

end OutboxRelay

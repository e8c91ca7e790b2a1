import Mathlib.Data.List.Basic
import OutboxRelay.Broker.Config

/-!
# Legal subjects

A message is published to a literal subject: each of its tokens says something, and none has a
wildcard or a blank in it. The subject of a broker configuration is put together from three free
texts, of which validation looks at two. Its tokens are those of the namespace, of the exchange and
of the routing key, one behind the other, because the dots between the three belong to none of them.

So the subject of an accepted configuration is legal exactly if the tokens of its namespace are, and
these are what validation does not look at.
-/

namespace OutboxRelay.Broker

/-! ### Splitting -/

/-- There is a piece before the first separator, whatever comes behind it. -/
theorem splitAt_ne_nil (separator : Char) (text : List Char) : splitAt separator text ≠ [] := by
  cases text with
  | nil => simp [splitAt]
  | cons c rest =>
    rw [splitAt]
    split
    · simp
    · split <;> simp

/-- A separator between two texts parts their pieces. No piece reaches across it. -/
theorem splitAt_append_cons (separator : Char) (front back : List Char) :
    splitAt separator (front ++ separator :: back) =
      splitAt separator front ++ splitAt separator back := by
  induction front with
  | nil => simp [splitAt]
  | cons c rest inductionHypothesis =>
    by_cases same : c = separator
    · simp [splitAt, same, inductionHypothesis]
    · obtain ⟨piece, pieces, split⟩ := List.exists_cons_of_ne_nil (splitAt_ne_nil separator rest)
      simp [splitAt, same, inductionHypothesis, split]

/-- A text without separators is one piece. -/
theorem splitAt_eq_singleton {separator : Char} {text : List Char}
    (absent : ∀ c ∈ text, c ≠ separator) : splitAt separator text = [text] := by
  induction text with
  | nil => rfl
  | cons c rest inductionHypothesis =>
    have other : c ≠ separator := absent c List.mem_cons_self
    have single := inductionHypothesis fun later member =>
      absent later (List.mem_cons_of_mem c member)
    simp [splitAt, other, single]

/-- The dot between two parts of a subject parts their tokens, whatever the parts are. -/
theorem tokens_dot (front back : String) :
    tokens (front ++ "." ++ back) = tokens front ++ tokens back := by
  have dotted : (front ++ "." ++ back).toList = front.toList ++ '.' :: back.toList := by
    simp
  rw [tokens, dotted, splitAt_append_cons]
  rfl

/-! ### Legal subjects -/

/-- A token that can be published to literally: it says something, and has no wildcard and no blank
in it. -/
structure LegalToken (token : List Char) : Prop where
  nonempty : token ≠ []
  literal : ∀ c ∈ token, c ≠ '*' ∧ c ≠ '>' ∧ Text.isBlank c = false

/-- A subject that can be published to literally, because each of its tokens can. -/
def LegalSubject (subject : String) : Prop :=
  ∀ token ∈ tokens subject, LegalToken token

/-- The check of a single token finds out whether it is legal. -/
theorem isUsableToken_iff (token : List Char) : isUsableToken token = true ↔ LegalToken token := by
  constructor
  · intro usable
    simp only [isUsableToken, isLiteral, Bool.and_eq_true, Bool.not_eq_true',
      List.isEmpty_eq_false_iff, List.all_eq_true, bne_iff_ne, and_assoc] at usable
    exact ⟨usable.1, usable.2⟩
  · intro legal
    simp only [isUsableToken, isLiteral, Bool.and_eq_true, Bool.not_eq_true',
      List.isEmpty_eq_false_iff, List.all_eq_true, bne_iff_ne, and_assoc]
    exact ⟨legal.nonempty, legal.literal⟩

namespace Config

variable {config : Config}

/-- The tokens in front of the exchange: none without a namespace, otherwise the pieces of its path
between slashes and dots. Two separators in a row leave an empty token between them. -/
def namespaceTokens (config : Config) : List (List Char) :=
  match config.namespacePath with
  | [] => []
  | path => splitAt '.' (path.map fun c => if c = '/' then '.' else c)

/-- The tokens of a subject that a configuration puts together: those of the namespace stand in
front of the others. -/
theorem tokens_subjectNamespace (config : Config) (subject : String) :
    tokens (config.subjectNamespace ++ subject) = config.namespaceTokens ++ tokens subject := by
  unfold subjectNamespace namespaceTokens
  cases config.namespacePath with
  | nil => simp
  | cons c rest =>
    dsimp only
    rw [tokens_dot, tokens, String.toList_ofList]

/-- The tokens of the subject that every message is published to. -/
theorem tokens_publishSubject (config : Config) :
    tokens config.publishSubject =
      config.namespaceTokens ++ tokens config.exchange ++ tokens config.routingKey := by
  have parts : config.publishSubject =
      config.subjectNamespace ++ (config.exchange ++ "." ++ config.routingKey) := by
    simp [publishSubject, String.append_assoc]
  rw [parts, tokens_subjectNamespace, tokens_dot, List.append_assoc]

/-- What validation accepts. The virtual host does not occur here. -/
theorem validate_eq_ok_iff :
    config.validate = .ok () ↔
      Text.isBlankText config.host = false ∧
        config.username.isSome = config.password.isSome ∧
        config.hasUsableExchange = true ∧ config.hasUsableRoutingKey = true := by
  unfold validate
  cases Text.isBlankText config.host <;> cases config.username.isSome <;>
    cases config.password.isSome <;> cases config.hasUsableExchange <;>
    cases config.hasUsableRoutingKey <;>
    simp [bind, Except.bind, throw, throwThe, MonadExceptOf.throw, pure, Except.pure]

/-- An accepted exchange is a single legal token, as it must not have dots. -/
theorem tokens_exchange (accepted : config.hasUsableExchange = true) :
    tokens config.exchange = [config.exchange.toList] ∧ LegalToken config.exchange.toList := by
  obtain ⟨usable, undotted⟩ := Bool.and_eq_true_iff.mp accepted
  refine ⟨splitAt_eq_singleton fun c member => ?_, (isUsableToken_iff _).mp usable⟩
  simpa using List.all_eq_true.mp undotted c member

/-- An accepted routing key is legal as it is. -/
theorem legalSubject_routingKey (accepted : config.hasUsableRoutingKey = true) :
    LegalSubject config.routingKey := by
  intro token member
  exact (isUsableToken_iff token).mp (List.all_eq_true.mp accepted token member)

/-- An accepted configuration publishes to a legal subject exactly if the tokens of its namespace
are legal. The virtual host is the one part of the subject that validation does not look at, and the
other two are legal by it.

Proof: the tokens of the subject are those of the namespace, of the exchange and of the routing key,
by `tokens_publishSubject`. Validation makes the second part a single legal token and the third part
legal, so only the first part is left open. -/
theorem legalSubject_publishSubject_iff (accepted : config.validate = .ok ()) :
    LegalSubject config.publishSubject ↔ ∀ token ∈ config.namespaceTokens, LegalToken token := by
  obtain ⟨-, -, exchange, routingKey⟩ := validate_eq_ok_iff.mp accepted
  obtain ⟨single, legal⟩ := tokens_exchange exchange
  have behind := legalSubject_routingKey routingKey
  rw [LegalSubject, tokens_publishSubject, single]
  constructor
  · intro all token member
    exact all token (List.mem_append_left _ (List.mem_append_left _ member))
  · intro namespaced token member
    rcases List.mem_append.mp member with front | key
    · rcases List.mem_append.mp front with namespaceToken | same
      · exact namespaced token namespaceToken
      · rw [List.mem_singleton.mp same]
        exact legal
    · exact behind token key

/-- A configuration for one part of an organisation. -/
def nested : Config := { virtualHost := "/team/eu.west/", routingKey := "orders.integration" }

theorem legalSubject_publishSubject_nested :
    nested.validate = .ok () ∧
      (LegalSubject nested.publishSubject ↔
        ∀ token ∈ nested.namespaceTokens, LegalToken token) := by
  have accepted : nested.validate = .ok () := by decide
  exact ⟨accepted, legalSubject_publishSubject_iff accepted⟩

/-- A configuration whose virtual host has a slash too many and a wildcard. -/
def careless : Config := { virtualHost := "team//*" }

/-- Validation accepts a virtual host that makes the subject of every message illegal: one of its
tokens is empty, and one is a wildcard. -/
theorem careless_accepted :
    careless.validate = .ok () ∧
      careless.publishSubject = "team..*.integration_events.integration" ∧
      ¬LegalSubject careless.publishSubject := by
  have subject : careless.publishSubject = "team..*.integration_events.integration" := by decide
  refine ⟨by decide, subject, fun legal => ?_⟩
  have empty : [] ∈ tokens careless.publishSubject := by
    rw [subject]
    decide
  exact (legal [] empty).nonempty rfl

end Config

end OutboxRelay.Broker

import Mathlib.Data.List.TakeWhile
import OutboxRelay.Proofs.Broker.Subjects

/-!
# What an exchange captures

A configuration puts two texts together: the subject that every message is published to, and the
filter of the subjects that the exchange captures. Both begin with the tokens of the namespace and
with the exchange. Behind these the subject goes on with the tokens of the routing key, and the
filter ends with the wildcard that stands for one token or more.

So the two stay aligned token by token, whatever the virtual host holds. Its wildcards and empty
tokens stand in both at the same place, where a token is captured by itself.
-/

namespace OutboxRelay.Broker

/-! ### Filters -/

/-- The filter token that stands for any one token. -/
def anyToken : List Char := ['*']

/-- The last token of a filter that stands for one token or more. -/
def anyRest : List Char := ['>']

/-- Whether a filter captures a subject, both given as tokens. Away from the end of the filter a
token that is no asterisk stands for itself. The recursion is on both lists of tokens, which are
compared from the front. -/
def captures : List (List Char) → List (List Char) → Bool
  | [], subject => subject.isEmpty
  | _ :: _, [] => false
  | expected :: filter, token :: subject =>
    expected = anyRest && filter.isEmpty ||
      (expected = anyToken || expected = token) && captures filter subject

example : captures (tokens "a.*.>") (tokens "a.b.c.d") = true := by decide

example : captures (tokens "a.*.>") (tokens "a.b") = false := by decide

/-- Whatever is not empty is captured by the wildcard for the rest. -/
theorem captures_anyRest {subject : List (List Char)} (nonempty : subject ≠ []) :
    captures [anyRest] subject = true := by
  obtain ⟨token, rest, rfl⟩ := List.exists_cons_of_ne_nil nonempty
  simp [captures]

/-- Tokens that a filter and a subject begin with alike do not matter. This holds of wildcards among
them too, since a wildcard captures itself. -/
theorem captures_append {filter subject : List (List Char)}
    (captured : captures filter subject = true) (front : List (List Char)) :
    captures (front ++ filter) (front ++ subject) = true := by
  induction front with
  | nil => exact captured
  | cons token rest inductionHypothesis => simp [captures, inductionHypothesis]

namespace Config

variable {config : Config}

/-! ### Tokens in front of the last one -/

/-- The tokens of the filter of an exchange. -/
theorem tokens_exchangeSubjects (config : Config) :
    tokens config.exchangeSubjects =
      config.namespaceTokens ++ tokens config.exchange ++ [anyRest] := by
  have parts : config.exchangeSubjects =
      config.subjectNamespace ++ (config.exchange ++ "." ++ ">") := by
    have wildcard : ".>" = "." ++ ">" := by decide
    rw [exchangeSubjects, wildcard]
    simp only [String.append_assoc]
  have last : tokens ">" = [anyRest] := by decide
  rw [parts, tokens_subjectNamespace, tokens_dot, last, List.append_assoc]

/-- A virtual host of slashes alone, or of nothing, gives no token: such a path is empty once its
outer slashes are taken away. -/
theorem namespaceTokens_of_slashes (slashes : ∀ c ∈ config.virtualHost.toList, c = '/') :
    config.namespaceTokens = [] := by
  have nothing : config.virtualHost.toList.dropWhile (· == '/') = [] :=
    List.dropWhile_eq_nil_iff.mpr fun c member => beq_iff_eq.mpr (slashes c member)
  have path : config.namespacePath = [] := by
    rw [namespacePath, nothing]
    rfl
  rw [namespaceTokens, path]

/-- There is a first token in every text. -/
theorem tokens_ne_nil (subject : String) : tokens subject ≠ [] :=
  splitAt_ne_nil '.' subject.toList

/-- The filter of an accepted configuration and the subject that it publishes to have the same
tokens in front, the last of which is the exchange and the only one if the virtual host names
nothing. Behind them the filter has one wildcard and the subject the tokens of the routing key, none
of them empty. So every message is captured.

Proof: both texts are put together from the same namespace and exchange, and the dots between the
parts part the tokens (`tokens_exchangeSubjects`, `tokens_publishSubject`). What is common in front
can be left out by `captures_append`, and there is always a token for the wildcard at the end. -/
theorem exchange_captures_published (accepted : config.validate = .ok ()) :
    let front := (tokens config.exchangeSubjects).dropLast
    tokens config.exchangeSubjects = front ++ [anyRest] ∧
      tokens config.publishSubject = front ++ tokens config.routingKey ∧
      tokens config.routingKey ≠ [] ∧ (∀ token ∈ tokens config.routingKey, token ≠ []) ∧
      front.getLast? = some config.exchange.toList ∧
      ((∀ c ∈ config.virtualHost.toList, c = '/') → front = [config.exchange.toList]) ∧
      captures (tokens config.exchangeSubjects) (tokens config.publishSubject) = true := by
  obtain ⟨-, -, exchange, routingKey⟩ := validate_eq_ok_iff.mp accepted
  obtain ⟨single, -⟩ := tokens_exchange exchange
  have filter := tokens_exchangeSubjects config
  have subject := tokens_publishSubject config
  rw [single] at filter subject
  have front : (tokens config.exchangeSubjects).dropLast =
      config.namespaceTokens ++ [config.exchange.toList] := by
    rw [filter, List.dropLast_concat]
  have key := tokens_ne_nil config.routingKey
  dsimp only
  rw [front, filter, subject]
  refine ⟨rfl, rfl, key, ?_, ?_, ?_, ?_⟩
  · intro token member
    exact (legalSubject_routingKey routingKey token member).nonempty
  · exact List.getLast?_concat
  · intro slashes
    rw [namespaceTokens_of_slashes slashes, List.nil_append]
  · exact captures_append (captures_anyRest key) _

/-- A configuration whose virtual host has wildcards, dots and empty pieces. -/
def tangled : Config :=
  { virtualHost := "//>/a..*//b./", exchange := "events", routingKey := "orders.integration" }

/-- A configuration whose virtual host has nothing but slashes. -/
def rooted : Config := { virtualHost := "///" }

theorem exchange_captures_published_tangled :
    (tangled.validate = .ok () ∧ tangled.exchangeSubjects = ">.a..*..b..events.>" ∧
      tangled.publishSubject = ">.a..*..b..events.orders.integration" ∧
      captures (tokens tangled.exchangeSubjects) (tokens tangled.publishSubject) = true) ∧
    rooted.validate = .ok () ∧ (∀ c ∈ rooted.virtualHost.toList, c = '/') ∧
      (tokens rooted.exchangeSubjects).dropLast = [rooted.exchange.toList] := by
  have accepted : tangled.validate = .ok () := by decide
  have acceptedToo : rooted.validate = .ok () := by decide
  have three : rooted.virtualHost.toList = List.replicate 3 '/' := by decide
  have slashes : ∀ c ∈ rooted.virtualHost.toList, c = '/' :=
    fun c member => List.eq_of_mem_replicate (three ▸ member)
  obtain ⟨_, _, _, _, _, _, captured⟩ := exchange_captures_published accepted
  obtain ⟨_, _, _, _, _, alone, _⟩ := exchange_captures_published acceptedToo
  exact ⟨⟨accepted, by decide, by decide, captured⟩, acceptedToo, slashes, alone slashes⟩

end Config

end OutboxRelay.Broker

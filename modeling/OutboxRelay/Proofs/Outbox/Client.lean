import OutboxRelay.Outbox.Store

/-!
# Clients of a store

A client makes calls of a store, one after the other, and may have any number of sessions open
between them. Sessions are numbered in the order in which they were begun. A session is gone with
its commit, whether that succeeds or not, and a call within a session that is gone does nothing.
Besides messages a session stages the business writes of its backend.

The steps of a client are what each of its calls did.
-/

namespace OutboxRelay.Outbox

/-- One call of a client, with the business writes `ω` of the backend. -/
inductive Call (ω : Type) where
  | begin
  | add (session : Nat) (message : Message)
  | write (session : Nat) (write : ω)
  | commit (session : Nat)
  | abandon (session : Nat)
  | getUnprocessed (limit : Int)
  | getRetryable (limit ceiling : Int)
  | getExhausted (limit ceiling : Int)
  | markAsProcessed (id : Identifier)
  | markAsFailed (id : Identifier) (error : String) (retryCount : Int)
  | resetRetries (id : Identifier)

/-- Whether a call is made on a connection of its own; the others are made on that of a session. -/
def Call.connects {ω : Type} : Call ω → Bool
  | .add .. | .write .. | .commit .. | .abandon .. => false
  | _ => true

/-- What a call gives back. Polls give messages, all other calls no more than whether they
succeeded. -/
inductive Answer where
  | done (result : Except Error Unit)
  | pending (result : Except Error (List Pending))
  | messages (result : Except Error (List Message))
  /-- There is no such session. -/
  | noSession

/-- A client's surroundings and its sessions; those that are gone keep their numbers. -/
structure Client (σ S : Type) where
  world : World σ
  sessions : List (Option S) := []

namespace Client

variable {σ S ω : Type}

/-- The open session with a number. There is none if the number was not given or the session has
ended. -/
def session? (client : Client σ S) (number : Nat) : Option S :=
  client.sessions[number]?.join

/-- How many sessions are open. On a pool this is the number of connections that sessions hold. -/
def openCount (client : Client σ S) : Nat :=
  client.sessions.countP (·.isSome)

/-- A call outside all sessions. -/
def ask {α : Type} (client : Client σ S) (effect : Effect (World σ) Error α)
    (answer : Except Error α → Answer) : Answer × Client σ S :=
  (answer (effect.perform client.world).1,
    { client with world := (effect.perform client.world).2 })

/-- A call within a session, which may change it. -/
def within (client : Client σ S) (number : Nat) (body : InSession σ S Unit) :
    Answer × Client σ S :=
  match client.session? number with
  | none => (.noSession, client)
  | some session =>
    let (result, world, changed) := body.perform (client.world, session)
    (.done result, { world, sessions := client.sessions.set number (some changed) })

/-- A call that ends a session. The session is gone afterwards, also if the call fails. -/
def finish (client : Client σ S) (number : Nat) (ending : S → Effect (World σ) Error Unit) :
    Answer × Client σ S :=
  match client.session? number with
  | none => (.noSession, client)
  | some session =>
    let (result, world) := (ending session).perform client.world
    (.done result, { world, sessions := client.sessions.set number none })

/-- What a call does, in terms of the operations of the store and nothing else. -/
def perform (store : Store σ S) (write : ω → S → S) (client : Client σ S) :
    Call ω → Answer × Client σ S
  | .begin =>
    match store.begin.perform client.world with
    | (.ok session, world) =>
      (.done (.ok ()), { world, sessions := client.sessions ++ [some session] })
    | (.error error, world) => (.done (.error error), { client with world })
  | .add number message => client.within number (store.add message)
  | .write number written =>
    client.within number (.ofState fun (world, session) => ((), world, write written session))
  | .commit number => client.finish number store.commit
  | .abandon number => client.finish number store.abandon
  | .getUnprocessed limit => client.ask (store.getUnprocessed limit) .pending
  | .getRetryable limit ceiling => client.ask (store.getRetryable limit ceiling) .pending
  | .getExhausted limit ceiling => client.ask (store.getExhausted limit ceiling) .messages
  | .markAsProcessed id => client.ask (store.markAsProcessed id) .done
  | .markAsFailed id error retryCount =>
    client.ask (store.markAsFailed id error retryCount) .done
  | .resetRetries id => client.ask (store.resetRetries id) .done

/-- What one call of a client did, with the client before and after it. -/
structure Step (ω σ S : Type) where
  before : Client σ S
  call : Call ω
  answer : Answer
  after : Client σ S

/-- The step of a client that makes a call. -/
def step (store : Store σ S) (write : ω → S → S) (client : Client σ S) (call : Call ω) :
    Step ω σ S :=
  let (answer, after) := client.perform store write call
  ⟨client, call, answer, after⟩

/-- The steps of a client that makes calls one after the other. -/
def steps (store : Store σ S) (write : ω → S → S) : Client σ S → List (Call ω) → List (Step ω σ S)
  | _, [] => []
  | client, call :: calls =>
    let first := client.step store write call
    first :: first.after.steps store write calls

/-- Every step does what its call does, in the client that the calls before it left. -/
theorem perform_of_mem_steps {store : Store σ S} {write : ω → S → S} {calls : List (Call ω)}
    {client : Client σ S} {step : Step ω σ S} (among : step ∈ client.steps store write calls) :
    step.before.perform store write step.call = (step.answer, step.after) := by
  induction calls generalizing client with
  | nil => cases among
  | cons call calls inductionHypothesis =>
    rcases List.mem_cons.mp among with rfl | later
    · rfl
    · exact inductionHypothesis later

end Client

end OutboxRelay.Outbox

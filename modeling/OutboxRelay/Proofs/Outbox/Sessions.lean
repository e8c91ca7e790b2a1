import OutboxRelay.Proofs.Effect
import OutboxRelay.Proofs.Outbox.Client
import OutboxRelay.Proofs.Outbox.Memory
import Mathlib.Data.List.Perm.Subperm

/-!
# Sessions of the store in memory

What the calls of a client do to a store in memory and to its open sessions. A message is in the
outbox or staged by a session. A call of the client brings in the message that it adds, and no
other; a commit that is accepted moves messages from a session to the outbox, and a session that
ends otherwise takes them with it. So what tells the added messages apart tells apart all there are.
-/

namespace OutboxRelay.Outbox

/-- A message for small runs. Its number serves as its identifier and as the second at which it
happened. -/
def Message.numbered (number : Nat) : Message :=
  .fresh ⟨number⟩ "orders.order_placed.v1" "" ⟨number, 0⟩

/-- The messages that a call adds. Only one kind of call adds any, and it adds one. -/
def Call.added {ω : Type} : Call ω → List Message
  | .add _ message => [message]
  | _ => []

namespace Client

section

variable {σ S : Type} {client : Client σ S} {number other : Nat} {session : S}

/-- An open session stands among the sessions, those before and behind it being others. To change it
is to change that one entry. -/
theorem sessions_of_session? (here : client.session? number = some session) :
    ∃ front back, client.sessions = front ++ some session :: back ∧
      ∀ changed, client.sessions.set number changed = front ++ changed :: back := by
  have found : client.sessions[number]? = some (some session) := Option.join_eq_some_iff.mp here
  obtain ⟨inside, entry⟩ := List.getElem?_eq_some_iff.mp found
  refine ⟨client.sessions.take number, client.sessions.drop (number + 1), ?_, ?_⟩
  · rw [← entry, List.getElem_cons_drop, List.take_append_drop]
  · intro changed
    exact List.set_eq_take_append_cons_drop.trans (if_pos inside)

/-- A session that is open has a number that was given. -/
theorem lt_of_session? (here : client.session? number = some session) :
    number < client.sessions.length := by
  have found : client.sessions[number]? = some (some session) := Option.join_eq_some_iff.mp here
  exact (List.getElem?_eq_some_iff.mp found).1

theorem session?_set {world : World σ} {changed : Option S}
    (inside : number < client.sessions.length) :
    ({ world, sessions := client.sessions.set number changed } : Client σ S).session? other =
      if other = number then changed else client.session? other := by
  unfold session?
  by_cases same : other = number
  · subst same
    simp [inside]
  · simp [same, List.getElem?_set_ne (Ne.symm same)]

theorem session?_append {world : World σ} :
    ({ world, sessions := client.sessions ++ [some session] } : Client σ S).session? other =
      if other = client.sessions.length then some session else client.session? other := by
  unfold session?
  rw [List.getElem?_append]
  split
  · next inside => simp [Nat.ne_of_lt inside]
  · next outside =>
    by_cases last : other = client.sessions.length
    · simp [last]
    · have beyond : client.sessions.length ≤ other := Nat.le_of_not_lt outside
      have past : [some session].length ≤ other - client.sessions.length :=
        Nat.sub_pos_of_lt (Nat.lt_of_le_of_ne beyond (Ne.symm last))
      simp [last, List.getElem?_eq_none beyond, List.getElem?_eq_none past]

/-- To change an open session leaves as many open as there were, or one less if the change ends
it. -/
theorem openCount_set (here : client.session? number = some session) (world : World σ)
    (changed : Option S) :
    ({ world, sessions := client.sessions.set number changed } : Client σ S).openCount + 1 =
      client.openCount + if changed.isSome then 1 else 0 := by
  obtain ⟨front, back, whole, set⟩ := sessions_of_session? here
  rw [openCount, openCount, set, whole, List.countP_append, List.countP_append, List.countP_cons,
    List.countP_cons, Option.isSome_some, if_pos rfl]
  omega

/-- A session that is begun is one more. -/
theorem openCount_append (world : World σ) (session : S) :
    ({ world, sessions := client.sessions ++ [some session] } : Client σ S).openCount =
      client.openCount + 1 := by
  rw [openCount, List.countP_append]
  rfl

end

section

variable {σ S ω : Type} {store : Store σ S} {write : ω → S → S} {client : Client σ S}
  {number : Nat}

/-- A call within a session that is gone does nothing, and says that there is no such session. -/
theorem within_missing (gone : client.session? number = none) (body : InSession σ S Unit) :
    client.within number body = (.noSession, client) := by
  rw [within, gone]

theorem finish_missing (gone : client.session? number = none)
    (ending : S → Effect (World σ) Error Unit) :
    client.finish number ending = (.noSession, client) := by
  rw [finish, gone]

/-- A call within an open session does what it does to that session. -/
theorem within_open {session changed : S} {body : InSession σ S Unit} {result : Except Error Unit}
    {world : World σ} (here : client.session? number = some session)
    (performed : body.perform (client.world, session) = (result, world, changed)) :
    client.within number body =
      (.done result, { world, sessions := client.sessions.set number (some changed) }) := by
  rw [within, here]
  dsimp only
  rw [performed]

theorem finish_open {session : S} {ending : S → Effect (World σ) Error Unit}
    {result : Except Error Unit} {world : World σ} (here : client.session? number = some session)
    (performed : (ending session).perform client.world = (result, world)) :
    client.finish number ending =
      (.done result, { world, sessions := client.sessions.set number none }) := by
  rw [finish, here]
  dsimp only
  rw [performed]

end

end Client

namespace Memory

variable {ω : Type} {write : ω → Session → Session} {client : Client Memory Session} {number : Nat}
  {session : Session}

/-! ### Calls within sessions -/

theorem perform_add (here : client.session? number = some session) (message : Message) :
    client.perform store write (.add number message) =
      (.done (.ok ()),
        { client with sessions := client.sessions.set number (some (session.add message)) }) :=
  Client.within_open here rfl

theorem perform_write (here : client.session? number = some session) (written : ω) :
    client.perform store write (.write number written) =
      (.done (.ok ()),
        { client with sessions := client.sessions.set number (some (write written session)) }) := by
  rw [Client.perform]
  exact Client.within_open here rfl

theorem perform_abandon (here : client.session? number = some session) :
    client.perform store write (.abandon number) =
      (.done (.ok ()), { client with sessions := client.sessions.set number none }) :=
  Client.finish_open here rfl

theorem perform_commit (here : client.session? number = some session) :
    client.perform store write (.commit number) =
      (.done (client.world.state.commit session).1,
        { world := { client.world with state := (client.world.state.commit session).2 }
          sessions := client.sessions.set number none }) :=
  Client.finish_open here rfl

/-- Only a commit changes what was added to the outbox. -/
theorem added_perform (client : Client Memory Session) {call : Call ω}
    (other : ∀ number, call ≠ .commit number) :
    (client.perform store write call).2.world.state.added = client.world.state.added := by
  have staged (number : Nat) (stage : Session → Session) :
      (client.within number
        (.ofState fun pair => ((), pair.1, stage pair.2))).2.world.state.added =
        client.world.state.added := by
    unfold Client.within
    split <;> rfl
  cases call with
  | begin => rfl
  | add number message => exact staged number (·.add message)
  | write number written => exact staged number (write written)
  | commit number => exact absurd rfl (other number)
  | abandon number =>
    rw [Client.perform, Client.finish]
    split <;> rfl
  | getUnprocessed limit => exact (marks_poll limit _ _ : Marks (fun _ => False) _ _).added
  | getRetryable limit ceiling =>
    exact (marks_poll limit _ _ : Marks (fun _ => False) _ _).added
  | getExhausted limit ceiling => rfl
  | markAsProcessed id => exact (marks_markAsProcessed id _ _).added
  | markAsFailed id error retryCount =>
    exact (marks_markAsFailed id error retryCount _ : Marks (fun _ => False) _ _).added
  | resetRetries id => exact (marks_resetRetries id _ : Marks (fun _ => False) _ _).added

/-! ### All messages -/

/-- The messages of an open session. -/
def stagedBy (session : Option Session) : List Message :=
  (session.map (·.outbox)).getD []

/-- The messages that are in the outbox or staged by an open session: all that a store holds. -/
def messages (client : Client Memory Session) : List Message :=
  client.world.state.outbox ++ client.sessions.flatMap stagedBy

variable {κ : Type} {key : Message → κ}

/-- The messages of a session stand among those of the others. -/
theorem messages_set (here : client.session? number = some session) :
    ∃ front back : List Message,
      messages client = client.world.state.outbox ++ (front ++ session.outbox ++ back) ∧
        ∀ (world : World Memory) (changed : Option Session),
          messages { world, sessions := client.sessions.set number changed } =
            world.state.outbox ++ (front ++ stagedBy changed ++ back) := by
  obtain ⟨front, back, sessions, set⟩ := Client.sessions_of_session? here
  refine ⟨front.flatMap stagedBy, back.flatMap stagedBy, ?_, fun world changed => ?_⟩
  · rw [messages, sessions]
    simp [stagedBy]
  · rw [messages, set]
    simp

/-- The outbox and the messages of one session are among all messages. -/
theorem sublist_messages (here : client.session? number = some session) :
    (client.world.state.outbox ++ session.outbox).Sublist (messages client) := by
  obtain ⟨front, back, whole, _⟩ := messages_set here
  rw [whole, List.append_assoc front]
  exact ((List.sublist_append_left _ back).trans (List.sublist_append_right front _)).append_left _

/-- A message that is added is one more, up to the order of all messages. -/
theorem messages_add (here : client.session? number = some session) (message : Message) :
    (messages { world := client.world
                sessions := client.sessions.set number (some (session.add message)) }).Perm
      (messages client ++ [message.asAdded]) := by
  obtain ⟨front, back, whole, set⟩ := messages_set here
  rw [whole, set]
  simp only [stagedBy, Session.add, Option.map_some, Option.getD_some, List.append_assoc]
  refine List.Perm.append_left _ (List.Perm.append_left _ (List.Perm.append_left _ ?_))
  exact List.perm_append_comm

/-- A session that is accepted leaves its messages to the outbox. None is lost and none is
copied. -/
theorem messages_accept (here : client.session? number = some session) :
    (messages { world := { client.world with state := client.world.state.apply session }
                sessions := client.sessions.set number none }).Perm (messages client) := by
  obtain ⟨front, back, whole, set⟩ := messages_set here
  rw [whole, set]
  simp only [apply, stagedBy, Option.map_none, Option.getD_none, List.append_nil,
    List.append_assoc]
  refine List.Perm.append_left _ ?_
  rw [← List.append_assoc, ← List.append_assoc]
  exact List.Perm.append_right _ List.perm_append_comm

/-- A session that ends otherwise takes its messages with it. -/
theorem messages_drop (here : client.session? number = some session) {world : World Memory}
    (outbox : world.state.outbox = client.world.state.outbox) :
    (messages { world, sessions := client.sessions.set number none }).Sublist
      (messages client) := by
  obtain ⟨front, back, whole, set⟩ := messages_set here
  rw [whole, set, outbox]
  have fewer : (front ++ stagedBy none ++ back).Sublist (front ++ session.outbox ++ back) :=
    ((List.Sublist.refl front).append (List.nil_sublist _)).append (List.Sublist.refl back)
  exact fewer.append_left _

/-- A call leaves the keys that there were and brings in those that it adds, or fewer, since a
session may end and take its messages with it. -/
theorem messages_perform (keyed : ∀ message : Message, key message.asAdded = key message)
    (plain : ∀ written session, (write written session).outbox = session.outbox)
    (client : Client Memory Session) (call : Call ω) :
    ((messages (client.perform store write call).2).map key).Subperm
      ((messages client).map key ++ call.added.map key) := by
  have fewer {after : Client Memory Session} (part : (messages after).Subperm (messages client)) :
      ((messages after).map key).Subperm ((messages client).map key ++ call.added.map key) := by
    obtain ⟨kept, same, within⟩ := part
    exact ⟨kept.map key, same.map key, (within.map key).trans (List.sublist_append_left _ _)⟩
  have marked {after : Client Memory Session} (sessions : after.sessions = client.sessions)
      (added : after.world.state.added = client.world.state.added) :
      ((messages after).map key).Subperm ((messages client).map key ++ call.added.map key) := by
    rw [messages, messages, List.map_append, sessions, map_key_of_added keyed added,
      ← List.map_append]
    exact (List.sublist_append_left _ _).subperm
  have unchanged := fewer (List.Subperm.refl _)
  cases call with
  | begin =>
    refine fewer (List.Perm.subperm ?_)
    simp [Client.perform, store, messages, stagedBy]
  | add number message =>
    cases here : client.session? number with
    | none => rwa [Client.perform, Client.within_missing here]
    | some session =>
      rw [perform_add here]
      have added := ((messages_add here message).map key).subperm
      rwa [List.map_append, List.map_singleton, keyed] at added
  | write number written =>
    cases here : client.session? number with
    | none => rwa [Client.perform, Client.within_missing here]
    | some session =>
      obtain ⟨front, back, whole, set⟩ := messages_set here
      rw [perform_write here]
      refine fewer (List.Perm.subperm (List.Perm.of_eq ?_))
      rw [whole, set client.world]
      simp [stagedBy, plain]
  | commit number =>
    cases here : client.session? number with
    | none => rwa [Client.perform, Client.finish_missing here]
    | some session =>
      rw [perform_commit here]
      rcases outcome : client.world.state.commit session with ⟨error | _, after⟩
      · have kept := (commit_error (congrArg Prod.fst outcome)).2.1
        rw [outcome] at kept
        exact fewer (messages_drop here kept).subperm
      · rw [eq_apply_of_commit outcome]
        exact fewer (messages_accept here).subperm
  | abandon number =>
    cases here : client.session? number with
    | none => rwa [Client.perform, Client.finish_missing here]
    | some session =>
      rw [perform_abandon here]
      exact fewer (messages_drop here rfl).subperm
  | getUnprocessed | getRetryable | getExhausted | markAsProcessed | markAsFailed
  | resetRetries => exact marked rfl (added_perform client nofun)

/-- Keys that tell all messages apart, and those still to be added, do so after a call as well. This
is the step of an induction on the calls, in which the calls still to come are part of the
invariant. -/
theorem nodup_perform (keyed : ∀ message : Message, key message.asAdded = key message)
    (plain : ∀ written session, (write written session).outbox = session.outbox)
    {call : Call ω} {calls : List (Call ω)}
    (nodup : ((messages client).map key ++
      ((call :: calls).flatMap Call.added).map key).Nodup) :
    ((messages (client.perform store write call).2).map key ++
      (calls.flatMap Call.added).map key).Nodup := by
  rw [List.flatMap_cons, List.map_append, ← List.append_assoc] at nodup
  have all := (List.subperm_append_right ((calls.flatMap Call.added).map key)).mpr
    (messages_perform keyed plain client call)
  obtain ⟨part, same, within⟩ := all
  exact same.nodup_iff.mp (nodup.sublist within)

end Memory

end OutboxRelay.Outbox

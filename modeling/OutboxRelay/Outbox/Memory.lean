import OutboxRelay.Outbox.Selection
import OutboxRelay.Outbox.Store

/-!
# The outbox in memory

The store in memory. It holds business rows by table and key and the outbox in the order in which
messages were committed; neither ever loses an entry. A session stages writes without touching the
store. A commit either applies all that was staged or changes nothing but the switch that made it
fail.
-/

namespace OutboxRelay.Outbox

/-- The committed state of a store in memory. -/
structure Memory where
  /-- The row of a table under a key. -/
  rows : String → String → Option Json := fun _ _ => none
  /-- Messages, the first committed first. -/
  outbox : List Message := []
  /-- Whether the next commit fails. -/
  failNextCommit : Bool := false
  /-- Whether the next poll fails. -/
  failNextFetch : Bool := false
  /-- Successful commits. -/
  commits : Nat := 0

/-- A row that a session stages. -/
structure StagedRow where
  table : String
  key : String
  value : Json

/-- The staged writes of one unit of work. -/
structure Session where
  rows : List StagedRow := []
  outbox : List Message := []

namespace Session

/-- Stage a row, replacing what stands under its key. -/
def putRow (table key : String) (value : Json) (session : Session) : Session :=
  { session with rows := session.rows ++ [⟨table, key, value⟩] }

/-- Stage a message. -/
def add (message : Message) (session : Session) : Session :=
  { session with outbox := session.outbox ++ [message.asAdded] }

end Session

namespace Memory

/-- Apply one staged row. -/
def putRow (rows : String → String → Option Json) (staged : StagedRow) :
    String → String → Option Json :=
  fun table key =>
    if table = staged.table ∧ key = staged.key then some staged.value else rows table key

/-- The first staged message whose identifier is taken. -/
def clash? (memory : Memory) (session : Session) : Option Message :=
  session.outbox.find? fun message => memory.outbox.any (·.id == message.id)

/-- Apply all that a session staged. -/
def apply (session : Session) (memory : Memory) : Memory :=
  { memory with
    rows := session.rows.foldl putRow memory.rows
    outbox := memory.outbox ++ session.outbox
    commits := memory.commits + 1 }

/-- Commit a session. An injected failure comes before the look at the identifiers. -/
def commit (session : Session) (memory : Memory) : Except Error Unit × Memory :=
  if memory.failNextCommit then
    (.error (.store "injected commit failure"), { memory with failNextCommit := false })
  else
    match memory.clash? session with
    | some message => (.error (.store s!"duplicate outbox message id {message.id}"), memory)
    | none => (.ok (), memory.apply session)

/-- Poll the outbox, unless the poll is to fail. -/
def poll (limit : Int) (eligible : Message → Bool) (memory : Memory) :
    Except Error (List Pending) × Memory :=
  if memory.failNextFetch then
    (.error (.store "injected fetch failure"), { memory with failNextFetch := false })
  else (.ok ((oldestFirst eligible limit memory.outbox).map (·.toPending)), memory)

/-- The messages that are not done. -/
def getUnprocessed (limit : Int) (memory : Memory) : Except Error (List Pending) × Memory :=
  memory.poll limit fun message => !message.isProcessed

/-- The messages below the ceiling. -/
def getRetryable (limit ceiling : Int) (memory : Memory) :
    Except Error (List Pending) × Memory :=
  memory.poll limit (·.isRetryable ceiling)

/-- The messages that ran out of retries. -/
def getExhausted (limit ceiling : Int) (memory : Memory) : List Message :=
  oldestFirst (·.isExhausted ceiling) limit memory.outbox

/-- Change the first message that satisfies a condition. -/
def changeFirst? (condition : Message → Bool) (change : Message → Message) :
    List Message → Option (List Message)
  | [] => none
  | message :: rest =>
    if condition message then some (change message :: rest)
    else (changeFirst? condition change rest).map (message :: ·)

/-- Change a message of the outbox; without one that satisfies the condition it is not found. -/
def update (id : Identifier) (condition : Message → Bool) (change : Message → Message)
    (memory : Memory) : Except Error Unit × Memory :=
  match changeFirst? condition change memory.outbox with
  | some outbox => (.ok (), { memory with outbox })
  | none => (.error (.notFound id), memory)

/-- Record a publish. -/
def markAsProcessed (id : Identifier) (now : Instant) : Memory → Except Error Unit × Memory :=
  update id (·.id == id) (·.processedAt now)

/-- Record a failed attempt. -/
def markAsFailed (id : Identifier) (error : String) (retryCount : Int) :
    Memory → Except Error Unit × Memory :=
  update id (·.id == id) (·.failedWith error retryCount)

/-- Give a message that is not done its retries back. -/
def resetRetries (id : Identifier) : Memory → Except Error Unit × Memory :=
  update id (fun message => message.id == id && !message.isProcessed) (·.reset)

/-- The message under an identifier. -/
def message? (id : Identifier) (memory : Memory) : Option Message :=
  memory.outbox.find? (·.id == id)

/-- The store by itself. -/
def store : Store Memory Session where
  begin := pure {}
  commit session := World.onState (.ofPair (commit session))
  abandon _ := pure ()
  add message := .ofState fun (world, session) => ((), world, session.add message)
  getUnprocessed limit := World.onState (.ofPair (getUnprocessed limit))
  getRetryable limit ceiling := World.onState (.ofPair (getRetryable limit ceiling))
  getExhausted limit ceiling :=
    World.onState (.ofPair fun memory => (.ok (memory.getExhausted limit ceiling), memory))
  markAsProcessed id := do
    let now ← World.readClock
    World.onState (.ofPair (markAsProcessed id now))
  markAsFailed id error retryCount := World.onState (.ofPair (markAsFailed id error retryCount))
  resetRetries id := World.onState (.ofPair (resetRetries id))

/-- A failing commit changes neither rows nor outbox nor the number of commits. -/
theorem commit_error {session : Session} {memory : Memory} {error : Error}
    (failed : (memory.commit session).1 = .error error) :
    (memory.commit session).2.rows = memory.rows ∧
      (memory.commit session).2.outbox = memory.outbox ∧
      (memory.commit session).2.commits = memory.commits := by
  unfold commit at failed ⊢
  by_cases told : memory.failNextCommit
  · simp [told]
  · cases clash : memory.clash? session with
    | none => simp [told, clash] at failed
    | some message => simp [told]

end Memory

end OutboxRelay.Outbox

import OutboxRelay.Outbox.Message

/-!
# Selection of messages

Which messages a poll selects. Eligible messages are taken oldest first, those of the same instant
in the order in which they were added, and no more than the limit. The limit is signed; a negative
one selects nothing.
-/

namespace OutboxRelay.Outbox

/-- Whether a message happened no later than another. -/
def happenedFirst (a b : Message) : Bool :=
  Instant.notAfter a.occurredOn b.occurredOn

/-- The oldest eligible messages, up to the limit. Messages of one instant stay in the order of the
outbox, as the sort is stable. -/
def oldestFirst (eligible : Message → Bool) (limit : Int) (messages : List Message) :
    List Message :=
  ((messages.filter eligible).mergeSort happenedFirst).take limit.toNat

/-- A poll selects only eligible messages. -/
theorem eligible_of_mem_oldestFirst {eligible : Message → Bool} {limit : Int}
    {messages : List Message} {message : Message}
    (selected : message ∈ oldestFirst eligible limit messages) :
    message ∈ messages ∧ eligible message := by
  have sorted := List.mem_of_mem_take selected
  rwa [List.mem_mergeSort, List.mem_filter] at sorted

/-- A poll selects as many messages as it can. -/
theorem length_oldestFirst (eligible : Message → Bool) (limit : Int) (messages : List Message) :
    (oldestFirst eligible limit messages).length =
      min limit.toNat (messages.filter eligible).length := by
  simp [oldestFirst]

end OutboxRelay.Outbox

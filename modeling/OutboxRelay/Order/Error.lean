import OutboxRelay.Outbox.Error

/-!
# Order failures

Failures of order operations and their wording.
-/

namespace OutboxRelay.Order

/-- Why an operation on orders failed. The first three are answers to the caller, the others are
troubles of the storage. -/
inductive Error where
  /-- The caller asked for something that no order allows. -/
  | validation (reason : String)
  /-- There is no such order. -/
  | notFound (id : Identifier)
  /-- The order was cancelled before. -/
  | alreadyCancelled (id : Identifier)
  /-- What is stored is no order. -/
  | corruptRecord (id reason : String)
  /-- Reading the database failed. -/
  | database (cause : Sql.Failure)
  /-- Committing the order failed. -/
  | outbox (cause : Outbox.Error)
deriving DecidableEq

/-- The wording of a failure. -/
def Error.message : Error → String
  | validation reason => "validation error: " ++ reason
  | notFound id => s!"order {id} not found"
  | alreadyCancelled id => s!"order {id} is already cancelled"
  | corruptRecord id reason => "corrupt order record " ++ id ++ ": " ++ reason
  | database cause => "database error: " ++ cause.message
  | outbox cause => cause.message

end OutboxRelay.Order

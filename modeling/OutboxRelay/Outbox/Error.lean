import OutboxRelay.Broker.Error
import OutboxRelay.Identifier
import OutboxRelay.Sql.Failure

/-!
# Outbox failures

Failures on the way from a business write to the broker, and their wording.
-/

namespace OutboxRelay.Outbox

/-- Why an operation of the outbox failed. -/
inductive Error where
  /-- The database failed. -/
  | storage (cause : Sql.Failure)
  /-- The tables could not be brought up to date. -/
  | migration (cause : Sql.MigrationFailure)
  /-- The bus failed. -/
  | bus (cause : Broker.Error)
  /-- A handler of a domain event failed. -/
  | handler (eventType reason : String)
  /-- A domain event has no form in which it can be published. -/
  | conversion (eventType reason : String)
  /-- A store without a database failed. -/
  | store (reason : String)
  /-- There is no such message. -/
  | notFound (id : Identifier)
deriving DecidableEq

/-- The wording of a failure. -/
def Error.message : Error → String
  | storage cause => "storage error: " ++ cause.message
  | migration cause => "migration error: " ++ cause.message
  | bus cause => "event bus error: " ++ cause.message
  | handler eventType reason => "handler for " ++ eventType ++ " failed: " ++ reason
  | conversion eventType reason =>
    "failed to convert " ++ eventType ++ " into an integration event: " ++ reason
  | store reason => "store error: " ++ reason
  | notFound id => s!"outbox message {id} not found"

end OutboxRelay.Outbox

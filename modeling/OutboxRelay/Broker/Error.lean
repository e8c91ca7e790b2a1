/-!
# Broker failures

Failures of the message broker and their wording.
-/

namespace OutboxRelay.Broker

/-- Why a call to the broker failed. -/
inductive Error where
  /-- The broker did not accept a message. -/
  | publish (reason : String)
  /-- No connection, or the connection was lost. -/
  | connection (reason : String)
  /-- The exchange could not be declared. -/
  | declare (exchange reason : String)
  /-- The settings do not describe a broker. -/
  | config (reason : String)
deriving DecidableEq, Repr

/-- The wording of a failure. -/
def Error.message : Error → String
  | publish reason => "failed to publish message: " ++ reason
  | connection reason => "connection error: " ++ reason
  | declare exchange reason => "failed to declare exchange " ++ exchange ++ ": " ++ reason
  | config reason => "invalid broker configuration: " ++ reason

end OutboxRelay.Broker

import OutboxRelay.Broker.Config
import OutboxRelay.Delivery.Config
import OutboxRelay.Text.Letters

/-!
# Application settings

Settings of the whole application: the database, the kind of bus, and the settings of broker and
delivery. They are read in that order, and the first fault counts.
-/

namespace OutboxRelay.Settings

/-- The bus that messages are delivered to. -/
inductive BusType where
  | inMemory
  | nats
deriving DecidableEq, Repr, Inhabited

/-- Why application settings are refused. -/
inductive ApplicationError where
  | databaseUrlMissing
  /-- No bus has this name, given in lower case. -/
  | unknownBusType (name : String)
  | broker (fault : Broker.ConfigError)
  | delivery (fault : Delivery.ConfigError)
deriving DecidableEq

/-- The wording of a refusal. -/
def ApplicationError.message : ApplicationError → String
  | databaseUrlMissing => "DATABASE_URL must be set"
  | unknownBusType name => "Invalid BUS_TYPE: " ++ name ++ ". Must be 'inmemory' or 'nats'"
  | broker fault => fault.message
  | delivery fault => fault.message

namespace BusType

/-- The name of a bus. -/
def name : BusType → String
  | inMemory => "inmemory"
  | nats => "nats"

/-- The bus of a name in any case. -/
def ofName (name : String) : Except ApplicationError BusType :=
  let lowered := Text.lowercase name
  if lowered = "inmemory" then .ok inMemory
  else if lowered = "nats" then .ok nats
  else .error (.unknownBusType lowered)

end BusType

/-- Settings of the application. -/
structure Application where
  databaseUrl : String
  busType : BusType
  broker : Broker.Config
  delivery : Delivery.Config
deriving DecidableEq, Inhabited

/-- The settings that the environment describes. -/
def Application.ofEnvironment (environment : Environment) :
    Except ApplicationError Application := do
  let databaseUrl ← match environment.get? "DATABASE_URL" with
    | some url => pure url
    | none => throw .databaseUrlMissing
  let busType ← BusType.ofName (environment.getD "BUS_TYPE" BusType.inMemory.name)
  let broker ← (Broker.Config.ofEnvironment environment).mapError .broker
  let delivery ← (Delivery.Config.ofEnvironment environment).mapError .delivery
  return { databaseUrl, busType, broker, delivery }

end OutboxRelay.Settings

import OutboxRelay.Settings.Environment
import OutboxRelay.Text.Blank
import OutboxRelay.Text.Digits
import OutboxRelay.Text.Quoted

/-!
# Broker settings and subjects

Settings of the broker connection and the subjects that follow from them. A subject is a sequence
of tokens parted by dots. Every message of an exchange goes to one literal subject, the virtual
host in front, then the exchange, then the routing key; the exchange captures all subjects that
begin with its own. Validation looks at the exchange and at the routing key, never at the virtual
host.
-/

namespace OutboxRelay.Broker

open Settings (Environment)

/-- Where the broker is and where messages go. The defaults are those of a local broker. -/
structure Config where
  host : String := "localhost"
  port : Nat := 4222
  username : Option String := none
  password : Option String := none
  /-- Slashes alone mean no namespace; anything else stands in front of every subject. -/
  virtualHost : String := "/"
  exchange : String := "integration_events"
  routingKey : String := "integration"
deriving DecidableEq, Inhabited

/-- Why broker settings are refused. -/
inductive ConfigError where
  | portUnreadable
  | hostMissing
  | credentialsIncomplete
  | exchangeUnusable (exchange : String)
  | routingKeyUnusable (routingKey : String)
deriving DecidableEq

/-- The wording of a refusal. -/
def ConfigError.message : ConfigError → String
  | portUnreadable => "BROKER_PORT must be a valid u16"
  | hostMissing => "BROKER_HOST cannot be empty"
  | credentialsIncomplete => "BROKER_USERNAME and BROKER_PASSWORD must be set together"
  | exchangeUnusable exchange => "invalid exchange name: " ++ Text.quoted exchange
  | routingKeyUnusable routingKey => "invalid routing key: " ++ Text.quoted routingKey

/-- Split at every separator; the pieces are one more than the separators, and some of them may be
empty. -/
def splitAt (separator : Char) : List Char → List (List Char)
  | [] => [[]]
  | c :: rest =>
    if c = separator then [] :: splitAt separator rest
    else
      match splitAt separator rest with
      | [] => [[c]]
      | piece :: pieces => (c :: piece) :: pieces

/-- The tokens of a subject, which are its pieces between dots. -/
def tokens (subject : String) : List (List Char) :=
  splitAt '.' subject.toList

/-- Whether a character can stand in a token that is published to literally. -/
def isLiteral (c : Char) : Bool :=
  c != '*' && c != '>' && !Text.isBlank c

/-- A token is usable when it is not empty and has no wildcard and no blank. -/
def isUsableToken (token : List Char) : Bool :=
  !token.isEmpty && token.all isLiteral

namespace Config

/-- An exchange name is a single usable token: it has no dot either. -/
def hasUsableExchange (config : Config) : Bool :=
  isUsableToken config.exchange.toList && config.exchange.toList.all (· != '.')

/-- A routing key is a sequence of usable tokens. -/
def hasUsableRoutingKey (config : Config) : Bool :=
  (tokens config.routingKey).all isUsableToken

/-- Check the settings in a fixed order; the first fault counts. The virtual host is not looked at,
and the port was checked when it was read. -/
def validate (config : Config) : Except ConfigError Unit := do
  if Text.isBlankText config.host then throw .hostMissing
  if config.username.isSome != config.password.isSome then throw .credentialsIncomplete
  if !config.hasUsableExchange then throw (.exchangeUnusable config.exchange)
  if !config.hasUsableRoutingKey then throw (.routingKeyUnusable config.routingKey)

/-- The settings that the environment describes, defaults standing in for unset variables. -/
def ofEnvironment (environment : Environment) : Except ConfigError Config := do
  let defaults : Config := {}
  let port ← match environment.get? "BROKER_PORT" with
    | none => pure defaults.port
    | some text =>
      match Text.integer? (.unsigned 16) text with
      | some port => pure port.toNat
      | none => throw .portUnreadable
  let config : Config := {
    host := environment.getD "BROKER_HOST" defaults.host
    port := port
    username := environment.get? "BROKER_USERNAME"
    password := environment.get? "BROKER_PASSWORD"
    virtualHost := environment.getD "BROKER_VHOST" defaults.virtualHost
    exchange := environment.getD "BROKER_EXCHANGE" defaults.exchange
    routingKey := environment.getD "BROKER_ROUTING_KEY" defaults.routingKey }
  config.validate
  return config

/-- The address of the server. -/
def serverUrl (config : Config) : String :=
  s!"nats://{config.host}:{config.port}"

/-- The virtual host without the slashes at its two ends. Slashes inside stay, also several in a
row. -/
def namespacePath (config : Config) : List Char :=
  let front := config.virtualHost.toList.dropWhile (· == '/')
  (front.reverse.dropWhile (· == '/')).reverse

/-- What stands in front of every subject: nothing without a namespace, otherwise its path with
dots for slashes and a dot behind it. -/
def subjectNamespace (config : Config) : String :=
  match config.namespacePath with
  | [] => ""
  | path => String.ofList (path.map fun c => if c = '/' then '.' else c) ++ "."

/-- The subject that every message is published to. It is the same for all types of events; the type
goes into a header. -/
def publishSubject (config : Config) : String :=
  config.subjectNamespace ++ config.exchange ++ "." ++ config.routingKey

/-- The filter of the subjects that the exchange captures: all that begin with its own and go on. -/
def exchangeSubjects (config : Config) : String :=
  config.subjectNamespace ++ config.exchange ++ ".>"

end Config

end OutboxRelay.Broker

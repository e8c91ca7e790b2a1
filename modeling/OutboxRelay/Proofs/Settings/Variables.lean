import Mathlib.Data.List.Nodup
import OutboxRelay.Proofs.Effect
import OutboxRelay.Proofs.Text.Digits
import OutboxRelay.Settings.Application

/-!
# Variables of the application settings

The thirteen variables that settings are read from, each of which gives one setting. Settings are
read successfully exactly if every variable gives its setting and both parts pass their checks. So a
variable that holds something unreadable is never passed over in favour of a default, and a reading
depends on each variable by what it gives alone.
-/

namespace OutboxRelay

open Settings (Environment)

namespace Broker.Config

/-- What a text gives for a port, or its absence. No blanks are dropped around the digits. -/
def GivesPort : Option String → Nat → Prop
  | none, port => port = ({} : Config).port
  | some text, port => Text.integer? (.unsigned 16) text = some (port : Int)

/-- The settings of a port and of all variables that are taken as they are. -/
def gathered (environment : Environment) (port : Nat) : Config where
  host := environment.getD "BROKER_HOST" ({} : Config).host
  port
  username := environment.get? "BROKER_USERNAME"
  password := environment.get? "BROKER_PASSWORD"
  virtualHost := environment.getD "BROKER_VHOST" ({} : Config).virtualHost
  exchange := environment.getD "BROKER_EXCHANGE" ({} : Config).exchange
  routingKey := environment.getD "BROKER_ROUTING_KEY" ({} : Config).routingKey

/-- Settings whose fields are what the variables give are the gathered ones. -/
theorem eq_gathered {environment : Environment} {config : Config}
    (host : environment.getD "BROKER_HOST" ({} : Config).host = config.host)
    (username : environment.get? "BROKER_USERNAME" = config.username)
    (password : environment.get? "BROKER_PASSWORD" = config.password)
    (virtualHost : environment.getD "BROKER_VHOST" ({} : Config).virtualHost = config.virtualHost)
    (exchange : environment.getD "BROKER_EXCHANGE" ({} : Config).exchange = config.exchange)
    (routingKey :
      environment.getD "BROKER_ROUTING_KEY" ({} : Config).routingKey = config.routingKey) :
    config = gathered environment config.port := by
  rw [gathered, host, username, password, virtualHost, exchange, routingKey]

theorem ofEnvironment_eq_ok_iff {environment : Environment} {config : Config} :
    ofEnvironment environment = .ok config ↔
      GivesPort (environment.get? "BROKER_PORT") config.port ∧
        config = gathered environment config.port ∧ config.validate = .ok () := by
  have checked (port : Nat) :
      ((gathered environment port).validate >>= fun _ => pure (gathered environment port)) =
          .ok config ↔
        port = config.port ∧ config = gathered environment config.port ∧
          config.validate = .ok () := by
    rw [bind_eq_ok_iff]
    constructor
    · rintro ⟨_, valid, same⟩
      cases same
      exact ⟨rfl, rfl, valid⟩
    · rintro ⟨rfl, same, valid⟩
      exact ⟨(), same ▸ valid, congrArg Except.ok same.symm⟩
  unfold ofEnvironment
  cases environment.get? "BROKER_PORT" with
  | none =>
    exact (checked _).trans (and_congr_left' eq_comm)
  | some text =>
    dsimp only
    cases read : Text.integer? (.unsigned 16) text with
    | none => simp [GivesPort, read, throw, throwThe, MonadExceptOf.throw, bind, Except.bind]
    | some port =>
      have nonneg : 0 ≤ port := Text.nonneg_of_admits (Text.admits_of_integer?_eq_some read)
      have same : port.toNat = config.port ↔ GivesPort (some text) config.port := by
        rw [GivesPort, read, Option.some_inj]
        omega
      exact (checked _).trans (and_congr_left' same)

end Broker.Config

namespace Delivery.Config

/-- What a text gives for a number, or its absence. A text that is not a number gives nothing, and
the default does not take its place. -/
def GivesNumber (bounds : Text.IntegerBounds) (fallback : Int) : Option String → Int → Prop
  | none, value => value = fallback
  | some text, value => Text.integer? bounds (Text.trim text) = some value

/-- What a text gives for a duration, or its absence: as many milliseconds as whole seconds are. -/
def GivesDuration (fallback : Nat) (text? : Option String) (millis : Nat) : Prop :=
  ∃ seconds, GivesNumber (.unsigned 64) (wholeSeconds fallback) text? seconds ∧
    millis = seconds.toNat * millisPerSecond

theorem numberOf_eq_ok_iff {environment : Environment} {name : String}
    {bounds : Text.IntegerBounds} {fallback value : Int} :
    numberOf environment name bounds fallback = .ok value ↔
      GivesNumber bounds fallback (environment.get? name) value := by
  unfold numberOf GivesNumber
  cases environment.get? name with
  | none => simp [eq_comm]
  | some text =>
    dsimp only
    cases Text.integer? bounds (Text.trim text) <;> simp

theorem ofEnvironment_eq_ok_iff {environment : Environment} {config : Config} :
    ofEnvironment environment = .ok config ↔
      GivesDuration ({} : Config).pollInterval (environment.get? "OUTBOX_POLL_INTERVAL_SECS")
          config.pollInterval ∧
        GivesNumber (.signed 64) ({} : Config).batchSize (environment.get? "OUTBOX_BATCH_SIZE")
          config.batchSize ∧
        GivesNumber (.signed 32) ({} : Config).maxRetries (environment.get? "OUTBOX_MAX_RETRIES")
          config.maxRetries ∧
        GivesDuration ({} : Config).warmup (environment.get? "OUTBOX_WARMUP_DELAY_SECS")
          config.warmup ∧
        config.validate = .ok () := by
  unfold ofEnvironment
  simp only [bind_eq_ok_iff, numberOf_eq_ok_iff]
  constructor
  · rintro ⟨poll, polls, batchSize, batch, maxRetries, retries, warmup, warms, _, valid, same⟩
    cases same
    exact ⟨⟨poll, polls, rfl⟩, batch, retries, ⟨warmup, warms, rfl⟩, valid⟩
  · rintro ⟨⟨poll, polls, interval⟩, batch, retries, ⟨warmup, warms, delay⟩, valid⟩
    obtain ⟨pollInterval, batchSize, maxRetries, warmupDelay⟩ := config
    dsimp only at interval delay
    subst interval delay
    exact ⟨poll, polls, batchSize, batch, maxRetries, retries, warmup, warms, (), valid, rfl⟩

end Delivery.Config

namespace Settings

/-- The variables that application settings are read from. Each of them gives one setting. -/
inductive Variable where
  | databaseUrl
  | busType
  | brokerHost
  | brokerPort
  | username
  | password
  | virtualHost
  | exchange
  | routingKey
  | pollInterval
  | batchSize
  | maxRetries
  | warmup
deriving DecidableEq

namespace Variable

/-- All of them. -/
def all : List Variable :=
  [databaseUrl, busType, brokerHost, brokerPort, username, password, virtualHost, exchange,
    routingKey, pollInterval, batchSize, maxRetries, warmup]

/-- The name of a variable. -/
def name : Variable → String
  | databaseUrl => "DATABASE_URL"
  | busType => "BUS_TYPE"
  | brokerHost => "BROKER_HOST"
  | brokerPort => "BROKER_PORT"
  | username => "BROKER_USERNAME"
  | password => "BROKER_PASSWORD"
  | virtualHost => "BROKER_VHOST"
  | exchange => "BROKER_EXCHANGE"
  | routingKey => "BROKER_ROUTING_KEY"
  | pollInterval => "OUTBOX_POLL_INTERVAL_SECS"
  | batchSize => "OUTBOX_BATCH_SIZE"
  | maxRetries => "OUTBOX_MAX_RETRIES"
  | warmup => "OUTBOX_WARMUP_DELAY_SECS"

theorem mem_all (setting : Variable) : setting ∈ all := by
  cases setting <;> decide

/-- No two variables have one name. -/
theorem name_injective : Function.Injective name := by
  have distinct : (all.map name).Nodup := by decide
  intro first second same
  exact List.inj_on_of_nodup_map distinct (mem_all first) (mem_all second) same

/-- Whether a variable with a text, or an unset one, gives its setting. There is one case for each
variable, and each looks at one setting. -/
def Gives (settings : Application) (text? : Option String) : Variable → Prop
  | databaseUrl => text? = some settings.databaseUrl
  | busType => BusType.ofName (text?.getD BusType.inMemory.name) = .ok settings.busType
  | brokerHost => text?.getD ({} : Broker.Config).host = settings.broker.host
  | brokerPort => Broker.Config.GivesPort text? settings.broker.port
  | username => text? = settings.broker.username
  | password => text? = settings.broker.password
  | virtualHost => text?.getD ({} : Broker.Config).virtualHost = settings.broker.virtualHost
  | exchange => text?.getD ({} : Broker.Config).exchange = settings.broker.exchange
  | routingKey => text?.getD ({} : Broker.Config).routingKey = settings.broker.routingKey
  | pollInterval =>
    Delivery.Config.GivesDuration ({} : Delivery.Config).pollInterval text?
      settings.delivery.pollInterval
  | batchSize =>
    Delivery.Config.GivesNumber (.signed 64) ({} : Delivery.Config).batchSize text?
      settings.delivery.batchSize
  | maxRetries =>
    Delivery.Config.GivesNumber (.signed 32) ({} : Delivery.Config).maxRetries text?
      settings.delivery.maxRetries
  | warmup =>
    Delivery.Config.GivesDuration ({} : Delivery.Config).warmup text? settings.delivery.warmup

end Variable

/-- Settings are read from an environment exactly if every variable gives its setting and both parts
are accepted. The reading of both parts is taken apart here, once for all results on settings. -/
theorem Application.ofEnvironment_eq_ok_iff {environment : Environment} {settings : Application} :
    ofEnvironment environment = .ok settings ↔
      (∀ setting : Variable, setting.Gives settings (environment.get? setting.name)) ∧
        settings.broker.validate = .ok () ∧ settings.delivery.validate = .ok () := by
  unfold ofEnvironment
  cases url : environment.get? "DATABASE_URL" with
  | none =>
    constructor
    · intro read
      cases read
    · rintro ⟨gives, -⟩
      exact absurd (url.symm.trans (gives .databaseUrl)) nofun
  | some text =>
    dsimp only
    simp only [bind_eq_ok_iff, mapError_eq_ok_iff, Broker.Config.ofEnvironment_eq_ok_iff,
      Delivery.Config.ofEnvironment_eq_ok_iff]
    constructor
    · rintro ⟨_, same, busType, bus, broker, ⟨port, gathered, accepted⟩, delivery,
        ⟨poll, batch, retries, warmup, acceptedToo⟩, settled⟩
      cases same
      cases settled
      refine ⟨fun setting => ?_, accepted, acceptedToo⟩
      cases setting with
      | databaseUrl => exact url
      | busType => exact bus
      | brokerHost => exact (congrArg Broker.Config.host gathered).symm
      | brokerPort => exact port
      | username => exact (congrArg Broker.Config.username gathered).symm
      | password => exact (congrArg Broker.Config.password gathered).symm
      | virtualHost => exact (congrArg Broker.Config.virtualHost gathered).symm
      | exchange => exact (congrArg Broker.Config.exchange gathered).symm
      | routingKey => exact (congrArg Broker.Config.routingKey gathered).symm
      | pollInterval => exact poll
      | batchSize => exact batch
      | maxRetries => exact retries
      | warmup => exact warmup
    · rintro ⟨gives, accepted, acceptedToo⟩
      obtain rfl : text = settings.databaseUrl :=
        Option.some.inj (url.symm.trans (gives .databaseUrl))
      have gathered : settings.broker = .gathered environment settings.broker.port :=
        Broker.Config.eq_gathered (gives .brokerHost) (gives .username) (gives .password)
          (gives .virtualHost) (gives .exchange) (gives .routingKey)
      exact ⟨_, rfl, settings.busType, gives .busType, settings.broker,
        ⟨gives .brokerPort, gathered, accepted⟩, settings.delivery,
        ⟨gives .pollInterval, gives .batchSize, gives .maxRetries, gives .warmup, acceptedToo⟩,
        rfl⟩

end Settings

end OutboxRelay

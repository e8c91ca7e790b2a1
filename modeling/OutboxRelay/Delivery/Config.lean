import OutboxRelay.Settings.Environment
import OutboxRelay.Text.Blank
import OutboxRelay.Text.Digits
import OutboxRelay.Text.Quoted

/-!
# Delivery settings

Settings of the delivery of messages: how often the outbox is polled, how many messages a poll
takes, how many failed attempts a message has, and how long the first poll waits. Durations are in
milliseconds; the environment gives them in whole seconds. Numbers in the environment may have
blanks around them.
-/

namespace OutboxRelay.Delivery

open Settings (Environment)

/-- How messages are delivered. -/
structure Config where
  /-- Milliseconds between two polls. -/
  pollInterval : Nat := 10000
  /-- Messages taken in one poll. -/
  batchSize : Int := 20
  /-- Failed attempts after which a message is given up. -/
  maxRetries : Int := 3
  /-- Milliseconds before the first poll, so that the host can finish starting. -/
  warmup : Nat := 10000
deriving DecidableEq, Inhabited

/-- Why delivery settings are refused. -/
inductive ConfigError where
  /-- A variable holds no number of its type. -/
  | notANumber (name text : String)
  | batchSizeNotPositive
  | maxRetriesNotPositive
  | pollIntervalZero
deriving DecidableEq

/-- The wording of a refusal. -/
def ConfigError.message : ConfigError → String
  | notANumber name text => name ++ " must be a valid number, got " ++ Text.quoted text
  | batchSizeNotPositive => "OUTBOX_BATCH_SIZE must be greater than 0"
  | maxRetriesNotPositive => "OUTBOX_MAX_RETRIES must be greater than 0"
  | pollIntervalZero => "OUTBOX_POLL_INTERVAL_SECS must be greater than 0"

namespace Config

/-- Milliseconds in a second. -/
def millisPerSecond : Nat := 1000

/-- Check the settings in a fixed order; the first fault counts. A warm-up of no length is
accepted. -/
def validate (config : Config) : Except ConfigError Unit := do
  if config.batchSize ≤ 0 then throw .batchSizeNotPositive
  if config.maxRetries ≤ 0 then throw .maxRetriesNotPositive
  if config.pollInterval = 0 then throw .pollIntervalZero

/-- The number in a variable, or what stands in for an unset one. A variable that holds something
else is refused, with the text as it was. -/
def numberOf (environment : Environment) (name : String) (bounds : Text.IntegerBounds)
    (fallback : Int) : Except ConfigError Int :=
  match environment.get? name with
  | none => .ok fallback
  | some text =>
    match Text.integer? bounds (Text.trim text) with
    | some value => .ok value
    | none => .error (.notANumber name text)

/-- Whole seconds of a duration. -/
def wholeSeconds (millis : Nat) : Nat :=
  millis / millisPerSecond

/-- The settings that the environment describes. -/
def ofEnvironment (environment : Environment) : Except ConfigError Config := do
  let defaults : Config := {}
  let poll ← numberOf environment "OUTBOX_POLL_INTERVAL_SECS" (.unsigned 64)
    (wholeSeconds defaults.pollInterval)
  let batchSize ← numberOf environment "OUTBOX_BATCH_SIZE" (.signed 64) defaults.batchSize
  let maxRetries ← numberOf environment "OUTBOX_MAX_RETRIES" (.signed 32) defaults.maxRetries
  let warmup ← numberOf environment "OUTBOX_WARMUP_DELAY_SECS" (.unsigned 64)
    (wholeSeconds defaults.warmup)
  let config : Config := {
    pollInterval := poll.toNat * millisPerSecond
    batchSize
    maxRetries
    warmup := warmup.toNat * millisPerSecond }
  config.validate
  return config

end Config

end OutboxRelay.Delivery

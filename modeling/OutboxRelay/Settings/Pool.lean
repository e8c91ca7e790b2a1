import OutboxRelay.Settings.Environment
import OutboxRelay.Text.Digits

/-!
# Pool settings

Settings of the pool of database connections. A variable that holds no number of its type counts as
unset; blanks are not skipped.
-/

namespace OutboxRelay.Settings

/-- How many connections a pool keeps and how long it waits for one. -/
structure Pool where
  maxConnections : Nat := 10
  minConnections : Nat := 0
  /-- Seconds to wait for a free connection. -/
  acquireTimeout : Nat := 3
deriving DecidableEq, Inhabited, Repr

namespace Pool

/-- The number in a variable, or what stands in for one. -/
def numberOf (environment : Environment) (name : String) (width fallback : Nat) : Nat :=
  (((environment.get? name).bind (Text.integer? (.unsigned width))).map Int.toNat).getD fallback

/-- The settings that the environment describes. -/
def ofEnvironment (environment : Environment) : Pool :=
  let defaults : Pool := {}
  { maxConnections := numberOf environment "DB_MAX_CONNECTIONS" 32 defaults.maxConnections
    minConnections := numberOf environment "DB_MIN_CONNECTIONS" 32 defaults.minConnections
    acquireTimeout := numberOf environment "DB_ACQUIRE_TIMEOUT_SECS" 64 defaults.acquireTimeout }

end Pool

end OutboxRelay.Settings

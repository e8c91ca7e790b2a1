import OutboxRelay.Sql.Server

/-!
# Migrations

Bringing tables up to date. The database remembers which migrations were applied and with which
script, each as soon as its script has run. A run needs a free connection of the pool. It first
looks for a migration that began and never ended, of which it reports the lowest version. It then
goes through its own migrations in order: one that was applied with the same script is skipped, one
that was applied with another is an error, and any other is applied in a transaction of its own.
Applied migrations that the run does not know are none of its concern.
-/

namespace OutboxRelay.Sql

/-- A step that changes the tables. -/
structure Migration where
  version : Int
  description : String
  script : String
deriving DecidableEq

/-- A migration that the database remembers. -/
structure Applied where
  version : Int
  description : String
  /-- Whether the migration ended. -/
  succeeded : Bool := true
  /-- The script that was applied, if it is one of ours. -/
  script : Option String
deriving DecidableEq

/-- How a migration is remembered once it ended. -/
def Migration.applied (migration : Migration) : Applied where
  version := migration.version
  description := migration.description
  script := some migration.script

/-- A server with its memory of migrations. The memory is part of the state of the server. -/
structure Catalogue (τ : Type) where
  server : Server τ
  applied : τ → List Applied
  remember : Applied → τ → τ

namespace Catalogue

variable {τ : Type}

/-- The lowest version among migrations that never ended. -/
def unfinished? (applied : List Applied) : Option Int :=
  ((applied.filter fun row => !row.succeeded).map (·.version)).min?

/-- Apply a migration and remember it, in one transaction. A script that fails is rolled back and
not remembered. -/
def apply (catalogue : Catalogue τ) (migration : Migration) :
    Effect (Link τ) MigrationFailure Unit := do
  let transaction ← catalogue.server.openTransaction.mapError .bookkeeping
  let sent ← Effect.ofState
    (catalogue.server.sendOn (.transaction transaction) (.script migration.script)).outcome
  match sent with
  | .error failure =>
    (catalogue.server.rollBack transaction).mapError .bookkeeping
    throw (.script migration.version failure)
  | .ok _ =>
    modify fun link => { link with server := catalogue.remember migration.applied link.server }
    (catalogue.server.commitTransaction transaction).mapError .bookkeeping

/-- Apply a migration unless it was applied before. One that was applied with another script is an
error and not applied again. -/
def ensure (catalogue : Catalogue τ) (migration : Migration) :
    Effect (Link τ) MigrationFailure Unit := do
  let applied := catalogue.applied (← get).server
  match applied.find? (·.version == migration.version) with
  | none => catalogue.apply migration
  | some row =>
    if row.script = some migration.script then return ()
    else throw (.modified migration.version)

/-- Bring the tables up to date with migrations that are given in the order of their versions. The
first failure ends the run, and what was applied before it stays. -/
def run (catalogue : Catalogue τ) (migrations : List Migration) :
    Effect (Link τ) MigrationFailure Unit := do
  Server.acquire.mapError .bookkeeping
  match unfinished? (catalogue.applied (← get).server) with
  | some version => throw (.partiallyApplied version)
  | none => migrations.forM catalogue.ensure

end Catalogue

end OutboxRelay.Sql

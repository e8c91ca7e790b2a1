import OutboxRelay.Audit
import OutboxRelay.Broker.Bus
import OutboxRelay.Broker.Config
import OutboxRelay.Broker.Connection
import OutboxRelay.Broker.Error
import OutboxRelay.Broker.Message
import OutboxRelay.Broker.Schedule
import OutboxRelay.Delivery.Batch
import OutboxRelay.Delivery.Config
import OutboxRelay.Delivery.Loop
import OutboxRelay.Dispatcher
import OutboxRelay.DomainEvent
import OutboxRelay.Effect
import OutboxRelay.Envelope
import OutboxRelay.Fields
import OutboxRelay.Identifier
import OutboxRelay.Instant.Basic
import OutboxRelay.Instant.Calendar
import OutboxRelay.Instant.Printer
import OutboxRelay.Instant.Reader
import OutboxRelay.IntegrationEvent
import OutboxRelay.Json.Basic
import OutboxRelay.Json.Decode
import OutboxRelay.Json.Number
import OutboxRelay.Json.Printer
import OutboxRelay.Json.Reader
import OutboxRelay.Order.Basic
import OutboxRelay.Order.Database
import OutboxRelay.Order.Error
import OutboxRelay.Order.Memory
import OutboxRelay.Order.Publication
import OutboxRelay.Order.Record
import OutboxRelay.Order.Service
import OutboxRelay.Order.Status
import OutboxRelay.Outbox.Database
import OutboxRelay.Outbox.Error
import OutboxRelay.Outbox.Memory
import OutboxRelay.Outbox.Message
import OutboxRelay.Outbox.Selection
import OutboxRelay.Outbox.Store
import OutboxRelay.Proofs.Broker.Reconnection
import OutboxRelay.Proofs.Broker.SingleFlight
import OutboxRelay.Proofs.Broker.Transition
import OutboxRelay.Proofs.Contest.Outcome
import OutboxRelay.Proofs.Contest.Steps
import OutboxRelay.Proofs.Delivery.Accounts
import OutboxRelay.Proofs.Delivery.Chronicle
import OutboxRelay.Proofs.Delivery.Journal
import OutboxRelay.Proofs.Delivery.Steps
import OutboxRelay.Proofs.Delivery.Trace
import OutboxRelay.Proofs.Delivery.Trial
import OutboxRelay.Proofs.Effect
import OutboxRelay.Proofs.Envelope
import OutboxRelay.Proofs.Fields
import OutboxRelay.Proofs.Identifier
import OutboxRelay.Proofs.Instant.Calendar
import OutboxRelay.Proofs.Instant.RoundTrip
import OutboxRelay.Proofs.Json.Decode
import OutboxRelay.Proofs.Json.RoundTrip
import OutboxRelay.Proofs.Order.Consistency
import OutboxRelay.Proofs.Order.Ledger
import OutboxRelay.Proofs.Order.Publication
import OutboxRelay.Proofs.Order.Record
import OutboxRelay.Proofs.Order.Service
import OutboxRelay.Proofs.Outbox.Agreement
import OutboxRelay.Proofs.Outbox.Client
import OutboxRelay.Proofs.Outbox.Memory
import OutboxRelay.Proofs.Outbox.Rows
import OutboxRelay.Proofs.Outbox.Sessions
import OutboxRelay.Proofs.Outbox.Simulation
import OutboxRelay.Proofs.Outbox.Uniqueness
import OutboxRelay.Proofs.Relay.Safety
import OutboxRelay.Proofs.Relay.System
import OutboxRelay.Proofs.Site
import OutboxRelay.Proofs.Sql.Tables
import OutboxRelay.Proofs.Text.Digits
import OutboxRelay.Proofs.UnitOfWork.Atomicity
import OutboxRelay.Proofs.UnitOfWork.Steps
import OutboxRelay.Rehearsal.Basic
import OutboxRelay.Rehearsal.Database
import OutboxRelay.Rehearsal.Entity
import OutboxRelay.Rehearsal.Fault
import OutboxRelay.Rehearsal.Memory
import OutboxRelay.Rehearsal.Reaction
import OutboxRelay.Rehearsal.Sample
import OutboxRelay.Rehearsal.Site
import OutboxRelay.Rehearsal.Steps
import OutboxRelay.Settings.Application
import OutboxRelay.Settings.Environment
import OutboxRelay.Settings.Pool
import OutboxRelay.Sql.Failure
import OutboxRelay.Sql.Migration
import OutboxRelay.Sql.Script
import OutboxRelay.Sql.Server
import OutboxRelay.Sql.Statement
import OutboxRelay.Sql.Value
import OutboxRelay.Text.Blank
import OutboxRelay.Text.Digits
import OutboxRelay.Text.Letters
import OutboxRelay.Text.Printable
import OutboxRelay.Text.Quoted
import OutboxRelay.UnitOfWork
import OutboxRelay.World
import OutboxRelay.Proofs.Outbox.Transcript
import OutboxRelay.Proofs.Order.Transaction
import OutboxRelay.Proofs.Order.Discipline
import OutboxRelay.Proofs.Relay.Resets
import OutboxRelay.Proofs.Delivery.Backlog
import OutboxRelay.Proofs.Delivery.Sequence
import OutboxRelay.Proofs.Outbox.Turns
import OutboxRelay.Proofs.Outbox.History
import OutboxRelay.Proofs.Outbox.Serial
import OutboxRelay.Proofs.Broker.Traffic
import OutboxRelay.Proofs.Broker.Truthfulness
import OutboxRelay.Proofs.Broker.Retirement
import OutboxRelay.Proofs.Broker.CacheLock
import OutboxRelay.Proofs.Broker.Progress
import OutboxRelay.Proofs.Broker.Recovery
import OutboxRelay.Proofs.Broker.Subjects
import OutboxRelay.Proofs.Instant.Reading
import OutboxRelay.Proofs.Envelope.Agreement
import OutboxRelay.Proofs.UnitOfWork.Course
import OutboxRelay.Proofs.Sql.Constraints
import OutboxRelay.Proofs.Order.Rows
import OutboxRelay.Proofs.Order.Saving
import OutboxRelay.Proofs.Order.Agreement
import OutboxRelay.Proofs.Delivery.Rhythm
import OutboxRelay.Proofs.Delivery.Fates
import OutboxRelay.Proofs.Outbox.Selection
import OutboxRelay.Proofs.Dispatch.Registrations
import OutboxRelay.Proofs.Dispatch.Invocations
import OutboxRelay.Proofs.Order.Restoration
import OutboxRelay.Proofs.Order.Calls
import OutboxRelay.Proofs.Order.Conversion
import OutboxRelay.Proofs.Order.Lifetime
import OutboxRelay.Proofs.Broker.Capture
import OutboxRelay.Proofs.Delivery.Independence
import OutboxRelay.Proofs.Order.Naming
import OutboxRelay.Proofs.Text.Letters
import OutboxRelay.Proofs.Settings.Variables
import OutboxRelay.Proofs.Settings.RoundTrip

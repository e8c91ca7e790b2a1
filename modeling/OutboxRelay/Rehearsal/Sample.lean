import OutboxRelay.DomainEvent
import OutboxRelay.Json.Basic

/-!
# Sample events

Sample events. There are three kinds, which differ in their names only; the aggregates of the third
kind have no name. Every fact carries an amount.
-/

namespace OutboxRelay.Rehearsal.Sample

/-- The kinds of sample events. -/
inductive Kind where
  | alpha
  | beta
  | gamma
deriving DecidableEq, Repr

/-- The name of a kind. -/
def Kind.name : Kind → String
  | alpha => "alpha"
  | beta => "beta"
  | gamma => "gamma"

/-- All kinds. -/
def Kind.all : List Kind := [alpha, beta, gamma]

/-- The kind of a name. -/
def Kind.ofName? (name : String) : Option Kind := all.find? (·.name == name)

/-- What happened to an aggregate. -/
structure Fact where
  aggregate : String
  amount : Int
  occurredOn : Instant
deriving DecidableEq, Inhabited

/-- The payload that a fact is published with, also the row that records it. -/
def Fact.payload (fact : Fact) : Json := .ofFields [("amount", .integer fact.amount)]

instance : EventFamily Kind where
  Fact _ := Fact
  eventType kind := kind.name ++ ".happened"
  aggregateType
    | .alpha => "alpha"
    | .beta => "beta"
    | .gamma => ""
  aggregateId _ fact := Fact.aggregate fact
  occurredOn _ fact := Fact.occurredOn fact

/-- A sample event. -/
abbrev Event : Type := DomainEvent Kind

/-- The amount of an event. -/
def amount : Event → Int
  | ⟨_, (fact : Fact)⟩ => fact.amount

end OutboxRelay.Rehearsal.Sample

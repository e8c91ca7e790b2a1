import OutboxRelay.Instant.Printer
import OutboxRelay.Json.Basic

/-!
# Audit fields

Who created an entity and who changed it last, and when. Either pair is stamped as a whole and
leaves the other one alone.
-/

namespace OutboxRelay

/-- The audit fields of an entity. -/
structure Audit where
  createdBy : Option String := none
  createdOn : Option Instant := none
  modifiedBy : Option String := none
  modifiedOn : Option Instant := none
deriving DecidableEq, Inhabited

/-- What a unit of work does with an entity. -/
inductive Change where
  | added
  | modified
deriving DecidableEq, Repr

namespace Audit

/-- The user on whose behalf background work is done. -/
def systemUser : String := "system"

/-- Stamp the fields that belong to a change. -/
def stamp (change : Change) (user : String) (now : Instant) (audit : Audit) : Audit :=
  match change with
  | .added => { audit with createdBy := some user, createdOn := some now }
  | .modified => { audit with modifiedBy := some user, modifiedOn := some now }

/-- The audit fields as a JSON object. -/
def toJson (audit : Audit) : Json :=
  .ofFields [
    ("created_by", .ofOption .text audit.createdBy),
    ("created_on", .ofOption (.text ·.toText) audit.createdOn),
    ("modified_by", .ofOption .text audit.modifiedBy),
    ("modified_on", .ofOption (.text ·.toText) audit.modifiedOn)]

end Audit

end OutboxRelay

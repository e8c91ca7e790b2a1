/-!
# The environment

The environment from which settings are read. Variables hold bytes; a variable whose bytes are not
UTF-8 counts as unset, because no setting could be read from it.
-/

namespace OutboxRelay.Settings

/-- The text of every variable that is set. -/
def Environment : Type := String → Option String

namespace Environment

/-- No variable is set. -/
def empty : Environment := fun _ => none

/-- The text under a name. -/
def get? (environment : Environment) (name : String) : Option String :=
  environment name

/-- The text under a name, or what stands in for an unset variable. -/
def getD (environment : Environment) (name fallback : String) : String :=
  (environment.get? name).getD fallback

/-- The environment in which exactly these variables are set. -/
def ofBytes (bindings : List (String × ByteArray)) : Environment :=
  fun name => (bindings.lookup name).bind String.fromUTF8?

end Environment

end OutboxRelay.Settings

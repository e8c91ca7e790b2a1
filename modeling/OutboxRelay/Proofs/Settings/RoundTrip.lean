import OutboxRelay.Proofs.Settings.Variables
import OutboxRelay.Proofs.Text.Letters

/-!
# Settings written to the environment and read back

An environment that writes every setting to its variable, in whichever way numbers and names can be
written, is read as those settings. Whatever was read can be written, so that it is read again from
any environment that writes it, and a variable whose setting is the default one need not be set.
Both follow variable by variable: what a variable holds is what its setting is given by.
-/

namespace OutboxRelay

theorem Broker.Config.GivesPort.admits {text? : Option String} {port : Nat}
    (gives : GivesPort text? port) : (Text.IntegerBounds.unsigned 16).admits port := by
  cases text? with
  | none =>
    obtain rfl : port = ({} : Broker.Config).port := gives
    decide
  | some text => exact Text.admits_of_integer?_eq_some gives

namespace Delivery.Config

/-- A duration of whole seconds that are counted in a word of sixty-four bits. Every duration that
can be read is one, as the variables hold seconds. -/
def IsWholeSeconds (millis : Nat) : Prop :=
  ∃ seconds : Nat,
    (Text.IntegerBounds.unsigned 64).admits seconds ∧ millis = seconds * millisPerSecond

/-- The seconds of such a duration make it up. -/
theorem IsWholeSeconds.wholeSeconds {millis : Nat} (whole : IsWholeSeconds millis) :
    (Text.IntegerBounds.unsigned 64).admits (wholeSeconds millis) ∧
      millis = wholeSeconds millis * millisPerSecond := by
  obtain ⟨seconds, admitted, rfl⟩ := whole
  have counted : Config.wholeSeconds (seconds * millisPerSecond) = seconds :=
    Nat.mul_div_cancel seconds (by decide)
  rw [counted]
  exact ⟨admitted, rfl⟩

theorem GivesNumber.admits {bounds : Text.IntegerBounds} {fallback value : Int}
    {text? : Option String} (gives : GivesNumber bounds fallback text? value)
    (admitted : bounds.admits fallback) :
    bounds.admits value := by
  cases text? with
  | none => exact gives ▸ admitted
  | some text => exact Text.admits_of_integer?_eq_some gives

theorem GivesDuration.isWholeSeconds {fallback millis : Nat} {text? : Option String}
    (gives : GivesDuration fallback text? millis) (whole : IsWholeSeconds fallback) :
    IsWholeSeconds millis := by
  obtain ⟨seconds, given, rfl⟩ := gives
  have admitted := given.admits whole.wholeSeconds.1
  have counted : (seconds.toNat : Int) = seconds :=
    Int.toNat_of_nonneg (Text.nonneg_of_admits admitted)
  exact ⟨seconds.toNat, counted ▸ admitted, rfl⟩

/-- A positive number within its bounds is given by every way to write it. -/
theorem GivesNumber.of_numeral {bounds : Text.IntegerBounds} {fallback value : Int} {text : String}
    (positive : 0 < value) (admitted : bounds.admits value)
    (numeral : Text.Numeral value.toNat text) : GivesNumber bounds fallback (some text) value := by
  have counted : (value.toNat : Int) = value := Int.toNat_of_nonneg (Int.le_of_lt positive)
  rw [← counted] at admitted ⊢
  exact numeral.integer?_trim admitted

/-- So is a duration by every way to write its seconds. -/
theorem GivesDuration.of_numeral {fallback millis : Nat} {text : String}
    (whole : IsWholeSeconds millis) (numeral : Text.Numeral (wholeSeconds millis) text) :
    GivesDuration fallback (some text) millis :=
  ⟨wholeSeconds millis, numeral.integer?_trim whole.wholeSeconds.1, whole.wholeSeconds.2⟩

/-- A default duration is given without a text. -/
theorem GivesDuration.of_none {millis : Nat} (whole : IsWholeSeconds millis) :
    GivesDuration millis none millis :=
  ⟨wholeSeconds millis, rfl, whole.wholeSeconds.2⟩

/-- What the check accepts. The warmup may be nothing; the other numbers may not. -/
theorem validate_eq_ok_iff {config : Config} :
    config.validate = .ok () ↔
      0 < config.batchSize ∧ 0 < config.maxRetries ∧ 0 < config.pollInterval := by
  rw [← Int.not_le, ← Int.not_le, Nat.pos_iff_ne_zero]
  unfold validate
  by_cases batch : config.batchSize ≤ 0 <;> by_cases retries : config.maxRetries ≤ 0 <;>
    by_cases poll : config.pollInterval = 0 <;>
    simp [batch, retries, poll, bind, Except.bind, throw, throwThe, MonadExceptOf.throw, pure,
      Except.pure]

theorem isWholeSeconds_default :
    IsWholeSeconds ({} : Config).pollInterval ∧ IsWholeSeconds ({} : Config).warmup :=
  ⟨⟨10, by decide, rfl⟩, ⟨10, by decide, rfl⟩⟩

end Delivery.Config

namespace Settings

open Delivery.Config (IsWholeSeconds wholeSeconds)

namespace Environment

/-- The environment in which some variables are no longer set. Others, also those that are no
settings, stay as they are. -/
def without (environment : Environment) (unset : List Variable) : Environment :=
  fun name => if name ∈ unset.map Variable.name then none else environment.get? name

end Environment

/-- Settings whose numbers fit their types and whose durations are whole seconds. The bounds are
those of the words that hold them. -/
structure Application.Representable (settings : Application) : Prop where
  port : (Text.IntegerBounds.unsigned 16).admits settings.broker.port
  pollInterval : IsWholeSeconds settings.delivery.pollInterval
  batchSize : (Text.IntegerBounds.signed 64).admits settings.delivery.batchSize
  maxRetries : (Text.IntegerBounds.signed 32).admits settings.delivery.maxRetries
  warmup : IsWholeSeconds settings.delivery.warmup

/-- A bus is found by its name in any case. -/
theorem BusType.ofName_of_letters {bus : BusType} {text : String}
    (letters : text.toList.map Char.toLower = bus.name.toList) : ofName text = .ok bus := by
  have all : bus.name.toList.all (·.toNat < 128) = true := by cases bus <;> decide
  have ascii : ∀ c ∈ bus.name.toList, c.toNat < 128 := by simpa using all
  have lowered : Text.lowercase text = bus.name := Text.lowercase_eq ascii letters
  unfold ofName
  dsimp only
  rw [lowered]
  cases bus <;> rfl

namespace Variable

/-- Whether what a variable holds writes its setting: a text as it is, the port in digits, any other
number as a numeral, the bus by its name in any case. Credentials that are absent are written by a
variable that is not set. -/
def Writes (settings : Application) (text? : Option String) : Variable → Prop
  | databaseUrl => text? = some settings.databaseUrl
  | busType =>
    ∃ text, text? = some text ∧ text.toList.map Char.toLower = settings.busType.name.toList
  | brokerHost => text? = some settings.broker.host
  | brokerPort => text? = some (toString settings.broker.port)
  | username => text? = settings.broker.username
  | password => text? = settings.broker.password
  | virtualHost => text? = some settings.broker.virtualHost
  | exchange => text? = some settings.broker.exchange
  | routingKey => text? = some settings.broker.routingKey
  | pollInterval =>
    ∃ text, text? = some text ∧ Text.Numeral (wholeSeconds settings.delivery.pollInterval) text
  | batchSize => ∃ text, text? = some text ∧ Text.Numeral settings.delivery.batchSize.toNat text
  | maxRetries => ∃ text, text? = some text ∧ Text.Numeral settings.delivery.maxRetries.toNat text
  | warmup => ∃ text, text? = some text ∧ Text.Numeral (wholeSeconds settings.delivery.warmup) text

/-- The plainest of these texts: digits without a sign, and the name of the bus as it is listed. -/
def written (settings : Application) : Variable → Option String
  | databaseUrl => settings.databaseUrl
  | busType => settings.busType.name
  | brokerHost => settings.broker.host
  | brokerPort => toString settings.broker.port
  | username => settings.broker.username
  | password => settings.broker.password
  | virtualHost => settings.broker.virtualHost
  | exchange => settings.broker.exchange
  | routingKey => settings.broker.routingKey
  | pollInterval => toString (wholeSeconds settings.delivery.pollInterval)
  | batchSize => toString settings.delivery.batchSize.toNat
  | maxRetries => toString settings.delivery.maxRetries.toNat
  | warmup => toString (wholeSeconds settings.delivery.warmup)

/-- Whether a variable's setting is the one that an unset variable stands for. -/
def IsDefault (settings : Application) : Variable → Prop
  | databaseUrl => False
  | busType => settings.busType = .inMemory
  | brokerHost => settings.broker.host = ({} : Broker.Config).host
  | brokerPort => settings.broker.port = ({} : Broker.Config).port
  | username => settings.broker.username = ({} : Broker.Config).username
  | password => settings.broker.password = ({} : Broker.Config).password
  | virtualHost => settings.broker.virtualHost = ({} : Broker.Config).virtualHost
  | exchange => settings.broker.exchange = ({} : Broker.Config).exchange
  | routingKey => settings.broker.routingKey = ({} : Broker.Config).routingKey
  | pollInterval => settings.delivery.pollInterval = ({} : Delivery.Config).pollInterval
  | batchSize => settings.delivery.batchSize = ({} : Delivery.Config).batchSize
  | maxRetries => settings.delivery.maxRetries = ({} : Delivery.Config).maxRetries
  | warmup => settings.delivery.warmup = ({} : Delivery.Config).warmup

theorem writes_written (settings : Application) (setting : Variable) :
    setting.Writes settings (setting.written settings) := by
  cases setting with
  | busType =>
    refine ⟨_, rfl, ?_⟩
    cases settings.busType <;> decide
  | pollInterval | batchSize | maxRetries | warmup => exact ⟨_, rfl, Text.numeral_toString _⟩
  | _ => rfl

/-- What writes a setting gives it. The cases are the variables; a text stands for itself, and a
number is read back from its numeral. -/
theorem Writes.gives {settings : Application} {text? : Option String} {setting : Variable}
    (writes : setting.Writes settings text?) (representable : settings.Representable)
    (valid : settings.delivery.validate = .ok ()) : setting.Gives settings text? := by
  obtain ⟨batch, retries, -⟩ := Delivery.Config.validate_eq_ok_iff.mp valid
  cases setting with
  | databaseUrl | username | password => exact writes
  | busType =>
    obtain ⟨text, rfl, letters⟩ := writes
    exact BusType.ofName_of_letters letters
  | brokerHost | virtualHost | exchange | routingKey => exact congrArg (Option.getD · _) writes
  | brokerPort =>
    obtain rfl : text? = some (toString settings.broker.port) := writes
    exact Text.integer?_toString representable.port
  | pollInterval =>
    obtain ⟨text, rfl, numeral⟩ := writes
    exact .of_numeral representable.pollInterval numeral
  | batchSize =>
    obtain ⟨text, rfl, numeral⟩ := writes
    rw [Gives]
    exact .of_numeral batch representable.batchSize numeral
  | maxRetries =>
    obtain ⟨text, rfl, numeral⟩ := writes
    rw [Gives]
    exact .of_numeral retries representable.maxRetries numeral
  | warmup =>
    obtain ⟨text, rfl, numeral⟩ := writes
    exact .of_numeral representable.warmup numeral

/-- A variable that is not set gives the default setting. -/
theorem IsDefault.gives {settings : Application} {setting : Variable}
    (standard : setting.IsDefault settings) : setting.Gives settings none := by
  cases setting with
  | databaseUrl => exact standard.elim
  | busType =>
    have same : settings.busType = .inMemory := standard
    rw [Gives, same]
    exact BusType.ofName_of_letters rfl
  | brokerHost | username | password | virtualHost | exchange | routingKey =>
    exact (Eq.symm standard)
  | brokerPort | batchSize | maxRetries => exact standard
  | pollInterval =>
    have same : settings.delivery.pollInterval = _ := standard
    rw [Gives, same]
    exact .of_none Delivery.Config.isWholeSeconds_default.1
  | warmup =>
    have same : settings.delivery.warmup = _ := standard
    rw [Gives, same]
    exact .of_none Delivery.Config.isWholeSeconds_default.2

end Variable

namespace Environment

/-- Exactly the variables that are named are no longer set. -/
theorem get?_without (environment : Environment) (unset : List Variable) (setting : Variable) :
    (environment.without unset).get? setting.name =
      if setting ∈ unset then none else environment.get? setting.name := by
  simp only [get?, without, List.mem_map_of_injective Variable.name_injective]

end Environment

namespace Application

/-- Whether an environment writes every setting to its variable. It may set any other variables too,
as it does where a process runs. -/
def WrittenTo (settings : Application) (environment : Environment) : Prop :=
  ∀ setting : Variable, setting.Writes settings (environment.get? setting.name)

/-- The environment in which exactly the settings are set, all in the plainest way. So there is an
environment for all settings. -/
def toEnvironment (settings : Application) : Environment := fun name =>
  (Variable.all.find? (·.name = name)).bind (Variable.written settings)

theorem get?_toEnvironment (settings : Application) (setting : Variable) :
    settings.toEnvironment.get? setting.name = setting.written settings := by
  have found : Variable.all.find? (·.name = setting.name) = some setting := by
    cases search : Variable.all.find? (·.name = setting.name) with
    | none => simpa using List.find?_eq_none.mp search setting (Variable.mem_all setting)
    | some other =>
      have same : other.name = setting.name := by simpa using List.find?_some search
      rw [Variable.name_injective same]
  rw [Environment.get?, toEnvironment, found, Option.bind_some]

theorem writtenTo_toEnvironment (settings : Application) :
    settings.WrittenTo settings.toEnvironment := by
  intro setting
  rw [get?_toEnvironment]
  exact Variable.writes_written settings setting

/-- What was read can be written: numbers that were read are within the bounds of their words, and
defaults are as well. -/
theorem representable_of_gives {settings : Application} {environment : Environment}
    (gives : ∀ setting : Variable, setting.Gives settings (environment.get? setting.name)) :
    settings.Representable where
  port := Broker.Config.GivesPort.admits (gives .brokerPort)
  pollInterval := Delivery.Config.GivesDuration.isWholeSeconds (gives .pollInterval)
    Delivery.Config.isWholeSeconds_default.1
  batchSize := Delivery.Config.GivesNumber.admits (gives .batchSize) (by decide)
  maxRetries := Delivery.Config.GivesNumber.admits (gives .maxRetries) (by decide)
  warmup := Delivery.Config.GivesDuration.isWholeSeconds (gives .warmup)
    Delivery.Config.isWholeSeconds_default.2

/-- What is written is read back, because each variable gives what it holds. -/
theorem ofEnvironment_of_writtenTo {settings : Application} {environment : Environment}
    (representable : settings.Representable) (broker : settings.broker.validate = .ok ())
    (delivery : settings.delivery.validate = .ok ()) (written : settings.WrittenTo environment) :
    ofEnvironment environment = .ok settings :=
  ofEnvironment_eq_ok_iff.mpr
    ⟨fun setting => (written setting).gives representable delivery, broker, delivery⟩

/-- Variables of default settings need not be set. -/
theorem ofEnvironment_without {settings : Application} {environment : Environment}
    {unset : List Variable} (read : ofEnvironment environment = .ok settings)
    (standard : ∀ setting ∈ unset, setting.IsDefault settings) :
    ofEnvironment (environment.without unset) = .ok settings := by
  obtain ⟨gives, accepted⟩ := ofEnvironment_eq_ok_iff.mp read
  refine ofEnvironment_eq_ok_iff.mpr ⟨fun setting => ?_, accepted⟩
  rw [Environment.get?_without]
  by_cases dropped : setting ∈ unset
  · rw [if_pos dropped]
    exact (standard setting dropped).gives
  · rw [if_neg dropped]
    exact gives setting

/-- Settings survive the environment. There is an environment that all settings are written to, and
accepted ones are read back from every such environment. Whatever is read from an environment is
accepted, is read back from every environment that it is written to, and is read again if variables
of default settings are no longer set.

Proof: a reading succeeds exactly if every variable gives its setting and both parts are accepted
(`ofEnvironment_eq_ok_iff`), so each part is a statement about one variable. A variable that writes
its setting gives it (`Writes.gives`), and so does an unset one whose setting is the default
(`IsDefault.gives`). What was read can be written again by `representable_of_gives`. -/
theorem survive_environment :
    (∀ settings : Application, settings.WrittenTo settings.toEnvironment) ∧
    (∀ (settings : Application) (environment : Environment), settings.Representable →
      settings.broker.validate = .ok () → settings.delivery.validate = .ok () →
      settings.WrittenTo environment → ofEnvironment environment = .ok settings) ∧
    ∀ (environment : Environment) (settings : Application),
      ofEnvironment environment = .ok settings →
        (settings.broker.validate = .ok () ∧ settings.delivery.validate = .ok ()) ∧
        (∀ again : Environment, settings.WrittenTo again → ofEnvironment again = .ok settings) ∧
        ∀ unset : List Variable, (∀ setting ∈ unset, setting.IsDefault settings) →
          ofEnvironment (environment.without unset) = .ok settings := by
  refine ⟨writtenTo_toEnvironment, ?_, ?_⟩
  · intro settings environment representable broker delivery written
    exact ofEnvironment_of_writtenTo representable broker delivery written
  · intro environment settings read
    obtain ⟨gives, broker, delivery⟩ := ofEnvironment_eq_ok_iff.mp read
    have representable := representable_of_gives gives
    refine ⟨⟨broker, delivery⟩, fun again written => ?_, fun unset standard => ?_⟩
    · exact ofEnvironment_of_writtenTo representable broker delivery written
    · exact ofEnvironment_without read standard

/-- Settings at the bounds of their types, with empty credentials. -/
def extreme : Application where
  databaseUrl := ""
  busType := .nats
  broker := {
    host := " ::1"
    port := 65535
    username := some ""
    password := some ""
    routingKey := "a.b" }
  delivery := {
    pollInterval := 18446744073709551615000
    batchSize := 9223372036854775807
    maxRetries := 2147483647
    warmup := 0 }

/-- They are written with signs, blanks and capital letters. -/
def extremeEnvironment : Environment := fun name =>
  [("DATABASE_URL", ""), ("BUS_TYPE", "NaTs"), ("BROKER_HOST", " ::1"), ("BROKER_PORT", "65535"),
    ("BROKER_USERNAME", ""), ("BROKER_PASSWORD", ""), ("BROKER_VHOST", "/"),
    ("BROKER_EXCHANGE", "integration_events"), ("BROKER_ROUTING_KEY", "a.b"),
    ("OUTBOX_POLL_INTERVAL_SECS", "+18446744073709551615"),
    ("OUTBOX_BATCH_SIZE", "\t+9223372036854775807 "), ("OUTBOX_MAX_RETRIES", " 2147483647\n"),
    ("OUTBOX_WARMUP_DELAY_SECS", "+0")].lookup name

theorem survive_environment_extreme :
    ofEnvironment extremeEnvironment = .ok extreme ∧
      ofEnvironment extreme.toEnvironment = .ok extreme ∧
      ofEnvironment (extremeEnvironment.without [.virtualHost, .exchange]) = .ok extreme := by
  have written : extreme.WrittenTo extremeEnvironment := by
    intro setting
    cases setting with
    | busType => exact ⟨"NaTs", rfl, by decide⟩
    | pollInterval => exact ⟨_, rfl, .plus [] [] nofun nofun⟩
    | batchSize =>
      exact ⟨_, rfl, .plus ['\t'] [' '] (List.forall_mem_singleton.mpr rfl)
        (List.forall_mem_singleton.mpr rfl)⟩
    | maxRetries =>
      exact ⟨_, rfl, .plain [' '] ['\n'] (List.forall_mem_singleton.mpr rfl)
        (List.forall_mem_singleton.mpr rfl)⟩
    | warmup => exact ⟨_, rfl, .plus [] [] nofun nofun⟩
    | _ => rfl
  have representable : extreme.Representable := {
    port := by decide
    pollInterval := ⟨18446744073709551615, by decide, rfl⟩
    batchSize := by decide
    maxRetries := by decide
    warmup := ⟨0, by decide, rfl⟩ }
  have read : ofEnvironment extremeEnvironment = .ok extreme :=
    survive_environment.2.1 extreme extremeEnvironment representable (by decide) (by decide) written
  have standard : ∀ setting ∈ [Variable.virtualHost, .exchange], setting.IsDefault extreme := by
    intro setting member
    rcases List.mem_pair.mp member with rfl | rfl <;> rfl
  obtain ⟨-, again, without⟩ := survive_environment.2.2 extremeEnvironment extreme read
  exact ⟨read, again _ (survive_environment.1 extreme), without _ standard⟩

end Application

end Settings

end OutboxRelay

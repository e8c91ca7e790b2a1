import OutboxRelay.Broker.Error
import OutboxRelay.Broker.Message

/-!
# A shared broker connection

A lazily established broker connection that many callers share. The manager caches at most one
channel. A caller that finds it open uses it at once. Otherwise the callers queue for the reconnect
lock; the holder looks again, drops a stale channel, connects, declares the exchange on the new
channel and only then caches it. A failed publish drops its channel from the cache, unless another
one has replaced it meanwhile.

The whole is a transition system. Every caller is at a stage, one stage per point at which others
can run in between, and a move takes one caller to its next stage, ends a call to the broker in
either way, or changes the state of a channel from outside. A move that is not possible leads
nowhere. The reconnect lock is handed over in the order of arrival.
-/

namespace OutboxRelay.Broker

/-- Callers are numbered. -/
abbrev CallerId := Nat

/-- Channels are numbered from one, in the order in which they were opened. -/
abbrev ChannelId := Nat

/-- What a caller wants; a payload may be of any type `ρ`, since nothing looks into it. -/
inductive Request (ρ : Type := String) where
  /-- A live channel. -/
  | channel
  /-- One event published. -/
  | publish (eventType : String) (payload : ρ)
deriving DecidableEq, Inhabited

/-- A call to the broker. -/
inductive Call (ρ : Type := String) where
  | connect
  | declare (channel : ChannelId)
  | publish (channel : ChannelId) (properties : Properties) (payload : ρ)
deriving DecidableEq

/-- How far a caller has come. -/
inductive Stage where
  /-- Has not called. -/
  | idle
  /-- Is about to look at the cached channel. -/
  | looking
  /-- Found no open channel and is about to ask for the reconnect lock. -/
  | arriving
  /-- Waits for the reconnect lock. -/
  | queued
  /-- Holds the lock and is about to look again. -/
  | rechecking
  /-- Holds the lock and is about to drop the stale channel and connect. -/
  | retiring
  /-- Holds the lock while a connect call is in progress. -/
  | connecting
  /-- Holds the lock while a declare call is in progress. -/
  | declaring (channel : ChannelId)
  /-- Holds the lock and is about to cache the new channel. -/
  | storing (channel : ChannelId)
  /-- Has a channel to work with. -/
  | ready (channel : ChannelId)
  /-- A publish call is in progress. -/
  | publishing (channel : ChannelId)
  /-- The publish call failed and the channel is about to be dropped. -/
  | discarding (channel : ChannelId) (error : Error)
  /-- Has returned, with the channel it used or with its failure. -/
  | finished (result : Except Error ChannelId)

/-- The manager, its callers and the broker's channels. Calls are kept as they were made, so that a
state tells what it took to reach it. -/
structure Connection (ρ : Type := String) where
  requests : CallerId → Request ρ := fun _ => .channel
  stages : CallerId → Stage := fun _ => .idle
  /-- The channel that new callers try first. -/
  cached : Option ChannelId := none
  /-- Who holds the reconnect lock. -/
  holder : Option CallerId := none
  /-- Who waits for it, the first in the queue first. -/
  queue : List CallerId := []
  /-- Whether each channel is open, the first one first. -/
  channels : List Bool := []
  /-- Calls made to the broker, each noted when it starts. -/
  calls : List (Call ρ) := []

/-- One step of a caller, of the broker or of the world around. A run is a list of moves, in
whatever order they come. -/
inductive Move (ρ : Type := String) where
  /-- A caller begins. -/
  | call (caller : CallerId) (request : Request ρ)
  /-- A caller goes on to its next stage. -/
  | proceed (caller : CallerId)
  /-- The broker ends the call of a caller; a channel just opened may be born closed. -/
  | reply (caller : CallerId) (failure : Option Error) (bornOpen : Bool)
  /-- A channel opens or closes. -/
  | setOpen (channel : ChannelId) (isOpen : Bool)

namespace Connection

variable {ρ : Type}

/-- Whether a channel is open. -/
def isOpen (connection : Connection ρ) (channel : ChannelId) : Bool :=
  match channel with
  | 0 => false
  | index + 1 => connection.channels[index]?.getD false

/-- The cached channel, if it is open. A channel that was shut stays cached until somebody drops
it. -/
def openChannel? (connection : Connection ρ) : Option ChannelId :=
  connection.cached.filter connection.isOpen

/-- Take a caller to a stage. -/
def moveTo (caller : CallerId) (stage : Stage) (connection : Connection ρ) : Connection ρ :=
  { connection with
    stages := fun other => if other = caller then stage else connection.stages other }

/-- Note a call to the broker. -/
def noteCall (call : Call ρ) (connection : Connection ρ) : Connection ρ :=
  { connection with calls := connection.calls ++ [call] }

/-- Give the lock to the first in the queue, or free it. Who gets the lock looks at the cache
again. -/
def release (connection : Connection ρ) : Connection ρ :=
  match connection.queue with
  | [] => { connection with holder := none }
  | next :: rest =>
    { connection with holder := some next, queue := rest }.moveTo next .rechecking

/-- Leave the lock and return with a failure. -/
def giveUp (caller : CallerId) (error : Error) (connection : Connection ρ) : Connection ρ :=
  connection.release.moveTo caller (.finished (.error error))

/-- Take the lock if it is free, or queue for it behind those that came before. -/
def requestLock (caller : CallerId) (connection : Connection ρ) : Connection ρ :=
  match connection.holder with
  | none => { connection with holder := some caller }.moveTo caller .rechecking
  | some _ => { connection with queue := connection.queue ++ [caller] }.moveTo caller .queued

/-- The step that a caller takes from its stage without waiting for anyone. At the other stages it
waits, for the lock or for the broker, and there is no step. -/
def proceed? (caller : CallerId) (connection : Connection ρ) : Option (Connection ρ) :=
  match connection.stages caller with
  | .looking =>
    some <| match connection.openChannel? with
      | some channel => connection.moveTo caller (.ready channel)
      | none => connection.moveTo caller .arriving
  | .arriving => some (connection.requestLock caller)
  | .rechecking =>
    some <| match connection.openChannel? with
      | some channel => connection.release.moveTo caller (.ready channel)
      | none => connection.moveTo caller .retiring
  | .retiring =>
    some ({ connection with cached := none }.moveTo caller .connecting |>.noteCall .connect)
  | .storing channel =>
    some ({ connection with cached := some channel }.release.moveTo caller (.ready channel))
  | .ready channel =>
    some <| match connection.requests caller with
      | .channel => connection.moveTo caller (.finished (.ok channel))
      | .publish eventType payload =>
        connection.moveTo caller (.publishing channel)
          |>.noteCall (.publish channel (.forEvent eventType) payload)
  | .discarding channel error =>
    let kept := if connection.cached = some channel then none else connection.cached
    some ({ connection with cached := kept }.moveTo caller (.finished (.error error)))
  | _ => none

/-- What the end of a broker call does to the caller that made it. An end that nobody waits for
leads nowhere. -/
def reply? (caller : CallerId) (failure : Option Error) (bornOpen : Bool)
    (connection : Connection ρ) : Option (Connection ρ) :=
  match connection.stages caller, failure with
  | .connecting, none =>
    let channel := connection.channels.length + 1
    some ({ connection with channels := connection.channels ++ [bornOpen] }
      |>.moveTo caller (.declaring channel) |>.noteCall (.declare channel))
  | .connecting, some error => some (connection.giveUp caller error)
  | .declaring channel, none => some (connection.moveTo caller (.storing channel))
  | .declaring _, some error => some (connection.giveUp caller error)
  | .publishing channel, none => some (connection.moveTo caller (.finished (.ok channel)))
  | .publishing channel, some error =>
    some (connection.moveTo caller (.discarding channel error))
  | _, _ => none

/-- Open or close a channel that exists. -/
def setOpen? (channel : ChannelId) (isOpen : Bool) (connection : Connection ρ) :
    Option (Connection ρ) :=
  match channel with
  | 0 => none
  | index + 1 =>
    if index < connection.channels.length then
      some { connection with channels := connection.channels.set index isOpen }
    else none

/-- The state after a move, if the move is possible. -/
def next? (connection : Connection ρ) : Move ρ → Option (Connection ρ)
  | .call caller request =>
    match connection.stages caller with
    | .idle =>
      some ({ connection with
        requests := fun other =>
          if other = caller then request else connection.requests other }.moveTo caller .looking)
    | _ => none
  | .proceed caller => connection.proceed? caller
  | .reply caller failure bornOpen => connection.reply? caller failure bornOpen
  | .setOpen channel isOpen => connection.setOpen? channel isOpen

/-- The state after a sequence of moves, if every one of them is possible. -/
def run? : Connection ρ → List (Move ρ) → Option (Connection ρ)
  | connection, [] => some connection
  | connection, move :: moves => (connection.next? move).bind (run? · moves)

/-- How a caller returned, once it has. -/
def result? (connection : Connection ρ) (caller : CallerId) : Option (Except Error ChannelId) :=
  match connection.stages caller with
  | .finished result => some result
  | _ => none

/-- A caller's stage is the one that it was taken to. -/
@[simp] theorem stages_moveTo_self (caller : CallerId) (stage : Stage) (connection : Connection ρ) :
    (connection.moveTo caller stage).stages caller = stage := by
  simp [moveTo]

/-- Taking one caller on leaves the others where they are. -/
theorem stages_moveTo_ne {caller other : CallerId} (stage : Stage) (connection : Connection ρ)
    (different : other ≠ caller) :
    (connection.moveTo caller stage).stages other = connection.stages other := by
  simp [moveTo, different]

end Connection

end OutboxRelay.Broker

import OutboxRelay.Broker.Connection

/-!
# Scheduled runs of a connection

One fair schedule of a shared connection, in virtual time. Every call to the broker takes an outcome
from a script when it starts, and ends after the time that the outcome says. Callers run one after
the other in the order in which they became able to: a caller runs on until a call takes time or the
reconnect lock is held by somebody else. At first all participants can run; one whose time has not
come sets a timer for it. When nobody can run, time goes to the next timer; timers of the same
moment go off in the order in which they were set. Every run is a sequence of moves of the
connection, so that a law of all move sequences is a law of every schedule.
-/

namespace OutboxRelay.Broker

/-- How a scripted call ends. -/
structure Outcome where
  /-- Virtual milliseconds until the call ends. -/
  takes : Nat := 0
  failure : Option Error := none
  /-- Whether a channel just opened is born closed. -/
  closed : Bool := false
deriving Inhabited

/-- The outcomes of the calls to come; a call without one succeeds at once. -/
structure Script where
  connect : List Outcome := []
  declare : List Outcome := []
  publish : List Outcome := []
deriving Inhabited

namespace Script

/-- Add outcomes behind those that are already there. -/
def extend (script more : Script) : Script :=
  ⟨script.connect ++ more.connect, script.declare ++ more.declare, script.publish ++ more.publish⟩

/-- The first outcome of a list and the rest of it. -/
def takeFirst : List Outcome → Outcome × List Outcome
  | [] => ({}, [])
  | outcome :: rest => (outcome, rest)

/-- The outcome of the call that is in progress at a stage. -/
def take? (script : Script) : Stage → Option (Outcome × Script)
  | .connecting =>
    let (outcome, rest) := takeFirst script.connect
    some (outcome, { script with connect := rest })
  | .declaring _ =>
    let (outcome, rest) := takeFirst script.declare
    some (outcome, { script with declare := rest })
  | .publishing _ =>
    let (outcome, rest) := takeFirst script.publish
    some (outcome, { script with publish := rest })
  | _ => none

end Script

/-- What one participant of a concurrent run does when its time has come. -/
inductive Task (ρ : Type := String) where
  | request (request : Request ρ)
  | setOpen (channel : ChannelId) (isOpen : Bool)
deriving Inhabited

/-- What wakes a participant. -/
inductive Wake (ρ : Type := String) where
  /-- The run begins; its own time comes after so many milliseconds. -/
  | enter (delay : Nat) (task : Task ρ)
  /-- Its time has come. -/
  | start (task : Task ρ)
  /-- The broker call that it waits for ends. -/
  | reply (outcome : Outcome)
  /-- It was given the reconnect lock. -/
  | granted

/-- A participant that will be woken. -/
structure Alarm (ρ : Type := String) where
  due : Nat
  caller : CallerId
  wake : Wake ρ

/-- A connection whose broker follows a script. -/
structure Scripted (ρ : Type := String) where
  connection : Connection ρ := {}
  script : Script := {}
  /-- The number of the next caller. -/
  callers : Nat := 0

/-- A schedule in progress. -/
structure Schedule (ρ : Type := String) where
  connection : Connection ρ
  script : Script
  now : Nat := 0
  /-- Alarms to come, in the order in which they were set. -/
  alarms : List (Alarm ρ) := []
  /-- Participants that can run, the first one first. -/
  ready : List (CallerId × Wake ρ) := []
  /-- Changes of channels that do not exist. -/
  misses : List CallerId := []

namespace Schedule

variable {ρ : Type}

/-- A caller passes at most this many stages between two waits. -/
def stageBound : Nat := 16

/-- A participant is woken at most this many times: when the run begins, at its own time, when it
is given the lock, and at the end of each of three broker calls. -/
def wakeBound : Nat := 6

/-- Put the caller that a move gave the lock to behind those that can already run. -/
def noticeGrant (before : Option CallerId) (caller : CallerId) (schedule : Schedule ρ) :
    Schedule ρ :=
  match schedule.connection.holder with
  | some holder =>
    if before = some holder ∨ holder = caller then schedule
    else { schedule with ready := schedule.ready ++ [(holder, .granted)] }
  | none => schedule

/-- Make a move, if it is possible. -/
def attempt? (caller : CallerId) (move : Move ρ) (schedule : Schedule ρ) : Option (Schedule ρ) :=
  (schedule.connection.next? move).map fun connection =>
    { schedule with connection }.noticeGrant schedule.connection.holder caller

/-- Set an alarm behind those that are set. -/
def setAlarm (delay : Nat) (caller : CallerId) (wake : Wake ρ) (schedule : Schedule ρ) :
    Schedule ρ :=
  { schedule with alarms := schedule.alarms ++ [⟨schedule.now + delay, caller, wake⟩] }

/-- Let a caller run on until it has to wait. -/
def settle (caller : CallerId) : Nat → Schedule ρ → Schedule ρ
  | 0, schedule => schedule
  | fuel + 1, schedule =>
    match schedule.script.take? (schedule.connection.stages caller) with
    | some (outcome, script) =>
      let schedule := { schedule with script }
      if outcome.takes = 0 then
        match schedule.attempt? caller (.reply caller outcome.failure !outcome.closed) with
        | some schedule => settle caller fuel schedule
        | none => schedule
      else schedule.setAlarm outcome.takes caller (.reply outcome)
    | none =>
      match schedule.attempt? caller (.proceed caller) with
      | some schedule => settle caller fuel schedule
      | none => schedule

/-- Do what a participant is there for and let it run on. -/
def start (caller : CallerId) (task : Task ρ) (schedule : Schedule ρ) : Schedule ρ :=
  match task with
  | .setOpen channel isOpen =>
    match schedule.connection.next? (.setOpen channel isOpen) with
    | some connection => { schedule with connection }
    | none => { schedule with misses := caller :: schedule.misses }
  | .request request =>
    match schedule.attempt? caller (.call caller request) with
    | some schedule => schedule.settle caller stageBound
    | none => schedule

/-- Act on what woke a participant and let it run on. -/
def wake (caller : CallerId) (wake : Wake ρ) (schedule : Schedule ρ) : Schedule ρ :=
  match wake with
  | .enter delay task =>
    if delay = 0 then schedule.start caller task else schedule.setAlarm delay caller (.start task)
  | .start task => schedule.start caller task
  | .reply outcome =>
    match schedule.attempt? caller (.reply caller outcome.failure !outcome.closed) with
    | some schedule => schedule.settle caller stageBound
    | none => schedule
  | .granted => schedule.settle caller stageBound

/-- The moment of the next alarm. -/
def nextDue? (schedule : Schedule ρ) : Option Nat :=
  (schedule.alarms.map (·.due)).min?

/-- Let time go to a moment and wake everybody whose alarm is then due. -/
def goTo (due : Nat) (schedule : Schedule ρ) : Schedule ρ :=
  let (fired, later) := schedule.alarms.partition (·.due == due)
  { schedule with
    now := due
    alarms := later
    ready := schedule.ready ++ fired.map fun alarm => (alarm.caller, alarm.wake) }

/-- Run until nobody can run and no alarm is set; the fuel bounds the number of wakings. -/
def finish : Nat → Schedule ρ → Schedule ρ
  | 0, schedule => schedule
  | fuel + 1, schedule =>
    match schedule.ready with
    | (caller, reason) :: rest =>
      finish fuel ({ schedule with ready := rest }.wake caller reason)
    | [] =>
      match schedule.nextDue? with
      | some due => finish fuel (schedule.goTo due)
      | none => schedule

end Schedule

namespace Scripted

variable {ρ : Type}

/-- How a participant of a concurrent run ended. -/
inductive Ending where
  /-- Its request was answered. -/
  | answered (result : Except Error ChannelId)
  /-- The channel was changed. -/
  | changed
  /-- There is no such channel. -/
  | noChannel
  /-- It never came to an end. -/
  | stuck

/-- How a participant ended, once the schedule has run. -/
def ending (schedule : Schedule ρ) (caller : CallerId) : Task ρ → Ending
  | .request _ =>
    match schedule.connection.result? caller with
    | some result => .answered result
    | none => .stuck
  | .setOpen _ _ => if schedule.misses.contains caller then .noChannel else .changed

/-- Run tasks side by side, each after its delay, until all have ended. -/
def runTasks (tasks : List (Nat × Task ρ)) (scripted : Scripted ρ) : List Ending × Scripted ρ :=
  let numbered := tasks.zipIdx scripted.callers
  let start : Schedule ρ := {
    connection := scripted.connection
    script := scripted.script
    ready := numbered.map fun ((delay, task), caller) => (caller, .enter delay task) }
  let fuel := 2 * Schedule.wakeBound * tasks.length + 1
  let done := start.finish fuel
  (numbered.map fun ((_, task), caller) => ending done caller task,
    { connection := done.connection
      script := done.script
      callers := scripted.callers + tasks.length })

/-- Run a single task. -/
def runTask (task : Task ρ) (scripted : Scripted ρ) : Ending × Scripted ρ :=
  let (endings, scripted) := scripted.runTasks [(0, task)]
  (endings.head?.getD .stuck, scripted)

end Scripted

end OutboxRelay.Broker

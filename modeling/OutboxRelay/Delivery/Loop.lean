import OutboxRelay.Delivery.Batch

/-!
# The delivery loop

The endless delivery loop in virtual time. The loop waits out the warm-up, then runs a cycle, waits
for one poll interval, and goes on like that. It can be told to stop; it listens to that while it
waits, and returns at that moment. What came of a cycle is noted, a failure no less than a report,
and has no further influence. Cycles take no time themselves.

A loop moves from event to event: between the end of a wait and the end of the next one nothing
happens. All times are in milliseconds.
-/

namespace OutboxRelay.Delivery

/-- Where a loop stands. -/
inductive Stage where
  /-- It waits for a moment, the end of the warm-up or of a poll interval. -/
  | waiting (wakes : Nat)
  /-- It has returned. -/
  | ended (moment : Nat)
deriving DecidableEq

/-- What a loop notes of one cycle. -/
structure Cycle where
  moment : Nat
  result : Except Outbox.Error Report

/-- A loop, and the cycles that it has run, the first one first. The list is a record and does not
influence what the loop does. -/
structure Loop where
  stage : Stage
  cycles : List Cycle := []

/-- That a loop is told to stop. -/
structure Shutdown where
  moment : Nat
  /-- Of a wait that is over at the very moment of the shutdown either end may be taken: whether it
  is the shutdown. -/
  prevails : Bool

/-- Whether a shutdown ends a wait, rather than the moment that was waited for. If both come at the
same moment, either may win. -/
def Shutdown.cutsShort (wakes : Nat) (shutdown : Shutdown) : Bool :=
  shutdown.moment < wakes || (shutdown.moment == wakes && shutdown.prevails)

/-- How a wait ends. -/
inductive Ending where
  | woken
  | told
deriving DecidableEq

namespace Loop

/-- The loop that starts at a moment. The first thing it does is to wait out the warm-up. -/
def start (config : Config) (now : Nat) : Loop :=
  { stage := .waiting (now + config.warmup) }

/-- When the present wait of a loop ends, and how: at the moment waited for or at the shutdown,
whichever comes first. A loop that has returned waits no more. -/
def upcoming? (shutdown? : Option Shutdown) (loop : Loop) : Option (Nat × Ending) :=
  match loop.stage, shutdown? with
  | .ended _, _ => none
  | .waiting wakes, none => some (wakes, .woken)
  | .waiting wakes, some shutdown =>
    if shutdown.cutsShort wakes then some (shutdown.moment, .told) else some (wakes, .woken)

variable {σ S : Type}

/-- What a loop does when its wait ends: it returns, or it runs a cycle, notes what came of it, and
waits for one interval. -/
def resume (processor : Processor σ S) (now : Nat) (loop : Loop) : Ending → StateM (World σ) Loop
  | .told => return { loop with stage := .ended now }
  | .woken => do
    let result ← processor.processBatch.outcome
    return {
      stage := .waiting (now + processor.config.pollInterval)
      cycles := loop.cycles ++ [{ moment := now, result }] }

/-- Let a loop run through all that happens before a deadline. The fuel bounds the number of waits
that end; as the interval is positive, the time up to the deadline and one more is enough. -/
def advance (processor : Processor σ S) (shutdown? : Option Shutdown) (deadline : Nat) :
    Nat → Loop → StateM (World σ) Loop
  | 0, loop => return loop
  | fuel + 1, loop =>
    match loop.upcoming? shutdown? with
    | none => return loop
    | some (moment, ending) =>
      if moment < deadline then do
        let resumed ← loop.resume processor moment ending
        advance processor shutdown? deadline fuel resumed
      else return loop

/-- A loop that starts at the beginning of time, with all that happens before a deadline. The loop
itself has no end but the shutdown. -/
def run (processor : Processor σ S) (shutdown? : Option Shutdown) (deadline : Nat) :
    StateM (World σ) Loop :=
  advance processor shutdown? deadline (deadline + 1) (start processor.config 0)

end Loop

end OutboxRelay.Delivery

/-! # Clock

The clock turns the passage of time into ticks. Its speed is one of five rates. A fraction of a tick
carries over from one poll to the next; ticks beyond a maximum per poll are dropped, so that a stalled
frame never turns into a burst. Single ticks can be queued; they are delivered by the next poll, on top
of the periodic ones.
-/

namespace Mcs51

/-- Clock rate, fastest first. -/
inductive Speed
  | max
  | high
  | middle
  | low
  | lowest
deriving DecidableEq, Repr

namespace Speed

/-- All rates, fastest first. -/
def all : List Speed :=
  [max, high, middle, low, lowest]

def ticksPerSecond : Speed → Nat
  | max => 1000000
  | high => 1000
  | middle => 100
  | low => 10
  | lowest => 1

/-- Ticks per second as a float; every rate is represented exactly. -/
def rate (s : Speed) : Float :=
  Float.ofNat s.ticksPerSecond

/-- Milliseconds that one tick takes. -/
def msPerTick (s : Speed) : Float :=
  1000.0 / s.rate

/-- The name shown on the screen. -/
def label : Speed → String
  | max => "MAX"
  | high => "HIGH"
  | middle => "MIDDLE"
  | low => "LOW"
  | lowest => "LOWEST"

/-- The name in a settings file. -/
def name : Speed → String
  | max => "max"
  | high => "high"
  | middle => "middle"
  | low => "low"
  | lowest => "lowest"

def ofName? (name : String) : Option Speed :=
  all.find? (·.name == name)

/-- One rate faster, up to `max`. -/
def faster : Speed → Speed
  | max | high => max
  | middle => high
  | low => middle
  | lowest => low

/-- One rate slower, down to `lowest`. -/
def slower : Speed → Speed
  | max => high
  | high => middle
  | middle => low
  | low | lowest => lowest

end Speed

/-- A span of time in nanoseconds. -/
structure Duration where
  nanos : Nat
deriving DecidableEq, Repr

namespace Duration

def nanosPerSecond : Nat := 1000000000

/-- A span of whole seconds and nanoseconds. -/
def ofParts (seconds nanos : Nat) : Duration :=
  ⟨seconds * nanosPerSecond + nanos⟩

/-- The time from `earlier` to `later`; zero if `later` is not later. -/
def since (later earlier : Duration) : Duration :=
  ⟨later.nanos - earlier.nanos⟩

/-- The span in seconds: whole seconds and the rest are converted apart and added. -/
def seconds (d : Duration) : Float :=
  (d.nanos / nanosPerSecond).toUInt64.toFloat + (d.nanos % nanosPerSecond).toUInt64.toFloat / 1.0e9

end Duration

/-- The largest number of ticks that one poll delivers. -/
def maxPollTicks : Nat := 4294967295

/-- Clock driven by polling. -/
structure Clock where
  speed : Speed
  /-- Cap on the periodic ticks of one poll. -/
  maxTicks : UInt32
  lastPoll : Option Duration
  /-- Fraction of a tick not yet delivered. -/
  carry : Float
  /-- Queued single ticks. -/
  impulses : Nat

namespace Clock

/-- A clock that was never polled. -/
def new (speed : Speed) (maxTicks : UInt32) : Clock where
  speed := speed
  maxTicks := maxTicks
  lastPoll := none
  carry := 0.0
  impulses := 0

def faster (c : Clock) : Clock :=
  { c with speed := c.speed.faster }

def slower (c : Clock) : Clock :=
  { c with speed := c.speed.slower }

/-- Queue one tick for the next poll. -/
def impulse (c : Clock) : Clock :=
  { c with impulses := min (c.impulses + 1) maxPollTicks }

/-- The periodic ticks due after a span of time, and the fraction that stays. -/
def periodic (c : Clock) (elapsed : Float) : UInt32 × Float :=
  let due := c.carry + elapsed * c.speed.rate
  if due ≥ c.maxTicks.toFloat then (c.maxTicks, 0.0)
  else
    let whole := due.floor
    (whole.toUInt32, due - whole)

/-- The ticks due at `now`, a time since a fixed start. The first poll only delivers queued ticks. -/
def poll (c : Clock) (now : Duration) : Nat × Clock :=
  match c.lastPoll with
  | none => (c.impulses, { c with lastPoll := some now, impulses := 0 })
  | some last =>
    let (ticks, carry) := c.periodic (now.since last).seconds
    (min (ticks.toNat + c.impulses) maxPollTicks,
      { c with lastPoll := some now, carry := carry, impulses := 0 })

end Clock

end Mcs51

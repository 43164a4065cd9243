/-!
# Instants and durations

The clock counts whole milliseconds since the start (`Instant`); a `Duration` counts
nanoseconds. A sleep of `d` that begins at `now` ends at `Instant.after now d`, the first whole
millisecond at which `d` has passed. Sleeps have a longest length, `Duration.longestSleep`, so
every sleep ends.

`Duration.longest` is the greatest duration that can be written down: the seconds of a duration
fit in 64 bits. Arithmetic that would pass it is decided where it is done, never by wrapping.
-/

namespace Resilience

/-- Milliseconds since the start. -/
abbrev Instant := Nat

/-- The greatest number that fits in 64 bits. -/
def maxWord : Nat := 0xFFFFFFFFFFFFFFFF

/-- The greatest number that fits in 32 bits. -/
def maxHalfWord : Nat := 0xFFFFFFFF

/-- A length of time in nanoseconds. -/
structure Duration where
  nanos : Nat
deriving DecidableEq, Repr, Inhabited

namespace Duration

/-- Nanoseconds in a second. -/
def perSecond : Nat := 1000000000

/-- Nanoseconds in a millisecond. -/
def perMilli : Nat := 1000000

/-- Whole seconds and the nanoseconds on top of them. -/
def ofParts (secs nanos : Nat) : Duration := ⟨secs * perSecond + nanos⟩

def ofSecs (secs : Nat) : Duration := ⟨secs * perSecond⟩

def ofMillis (ms : Nat) : Duration := ⟨ms * perMilli⟩

/-- The whole seconds in a duration. -/
def secs (d : Duration) : Nat := d.nanos / perSecond

/-- What is left of a duration beyond its whole seconds. -/
def subsecNanos (d : Duration) : Nat := d.nanos % perSecond

/-- The whole milliseconds in a duration. -/
def millis (d : Duration) : Nat := d.nanos / perMilli

/-- Half of a duration, to the nanosecond below. -/
def half (d : Duration) : Duration := ⟨d.nanos / 2⟩

/-- The greater of two durations. -/
def longer (d e : Duration) : Duration := ⟨max d.nanos e.nanos⟩

/-- The greatest duration that can be written down. -/
def longest : Duration := ofParts maxWord 999999999

/-- Sleeps are cut to thirty years of 365 days. -/
def longestSleep : Duration := ofSecs (30 * 365 * 86400)

/-- The shortest period at which background work repeats. -/
def shortestTick : Duration := ofMillis 1

/-- A duration in milliseconds, rounded up. -/
def ceilMillis (d : Duration) : Nat := d.millis + if d.nanos % perMilli = 0 then 0 else 1

@[simp]
theorem secs_ofParts {s n : Nat} (h : n < perSecond) : (ofParts s n).secs = s := by
  simp only [secs, ofParts, perSecond] at *
  omega

@[simp]
theorem subsecNanos_ofParts {s n : Nat} (h : n < perSecond) : (ofParts s n).subsecNanos = n := by
  simp only [subsecNanos, ofParts, perSecond] at *
  omega

@[simp]
theorem millis_ofMillis (ms : Nat) : (ofMillis ms).millis = ms := by
  simp only [millis, ofMillis, perMilli]
  omega

@[simp]
theorem ceilMillis_ofMillis (ms : Nat) : (ofMillis ms).ceilMillis = ms := by
  have hwhole : (ofMillis ms).nanos % perMilli = 0 := Nat.mul_mod_left ..
  rw [ceilMillis, millis_ofMillis, if_pos hwhole, Nat.add_zero]

/-- A part of a unit as decimals: `places` digits, less the zeros at the end. -/
private def decimals (part places : Nat) : String :=
  let digits := (Nat.toDigits 10 (Nat.pow 10 places + part)).drop 1
  let kept := (digits.reverse.dropWhile (· == '0')).reverse
  if kept.isEmpty then "" else "." ++ String.ofList kept

/-- A duration in the largest unit of which it holds at least one, with decimals. -/
def text (d : Duration) : String :=
  if perSecond ≤ d.nanos then toString d.secs ++ decimals d.subsecNanos 9 ++ "s"
  else if perMilli ≤ d.nanos then toString d.millis ++ decimals (d.nanos % perMilli) 6 ++ "ms"
  else if 1000 ≤ d.nanos then toString (d.nanos / 1000) ++ decimals (d.nanos % 1000) 3 ++ "µs"
  else toString d.nanos ++ "ns"

end Duration

/-- The first millisecond at which a sleep of `d` begun at `now` is over. -/
def Instant.after (now : Instant) (d : Duration) : Instant :=
  now + (Duration.mk (min d.nanos Duration.longestSleep.nanos)).ceilMillis

/-- How much time has passed at `now` since `start`. -/
def Instant.since (now start : Instant) : Duration := Duration.ofMillis (now - start)

end Resilience

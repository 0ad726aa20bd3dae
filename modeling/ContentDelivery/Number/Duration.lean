/-
ContentDelivery.Number.Duration — lengths of time in seconds and nanoseconds.

A duration holds at most `2 ^ 64 - 1` whole seconds. As a floating-point
number of seconds it is read exactly and rounded once, to the nearest
nanosecond; it is written as the sum of its whole seconds and of its
nanoseconds over 10^9, each rounded.
-/
import ContentDelivery.Number.Binary64

namespace ContentDelivery

structure Duration where
  seconds : UInt64
  nanos : Nat
  nanos_lt : nanos < 1000000000 := by decide
deriving DecidableEq, Repr

namespace Duration

def nanosPerSecond : Nat := 1000000000

def ofSeconds (seconds : UInt64) : Duration := { seconds, nanos := 0 }

def ofMillis (ms : UInt64) : Duration where
  seconds := ms / 1000
  nanos := ms.toNat % 1000 * 1000000
  nanos_lt := by omega

/-- The duration without its fraction of a second. -/
def truncate (d : Duration) : Duration := ofSeconds d.seconds

/-- The duration of `total` nanoseconds, if its seconds fit 64 bits. -/
def ofNanos? (total : Nat) : Option Duration :=
  if total / nanosPerSecond < UInt64.size then
    some
      { seconds := UInt64.ofNat (total / nanosPerSecond)
        nanos := total % nanosPerSecond
        nanos_lt := Nat.mod_lt _ (by decide) }
  else none

/-- Reads a number of seconds, rounding a half nanosecond to the even neighbour. Negative
numbers and those too large for 64 bits of seconds are no durations; negative zero is zero. -/
def ofBinary64? (x : Binary64) : Option Duration :=
  if !x.isFinite || (x.isNegative && x.units != 0) then none
  else ofNanos? (roundHalfEven (x.units * nanosPerSecond) Binary64.unitsPerOne)

def toBinary64 (d : Duration) : Binary64 :=
  (Binary64.ofNat d.seconds.toNat).addMagnitudes
    ((Binary64.ofNat d.nanos).divMagnitudes (Binary64.ofNat nanosPerSecond))

end Duration

end ContentDelivery

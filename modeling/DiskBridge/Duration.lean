import DiskBridge.Text.Digits

/-!
# Durations

A span of time as whole seconds and nanoseconds below one second.
-/

namespace DiskBridge

/-- Nanoseconds in one second. -/
def nanosPerSecond : Nat := 1000000000

structure Duration where
  secs : UInt64
  nanos : UInt32
  nanos_lt : nanos.toNat < nanosPerSecond := by decide
  deriving DecidableEq

namespace Duration

/-- Whole seconds. -/
def ofSeconds (secs : UInt64) : Duration := { secs, nanos := 0 }

def zero : Duration := ofSeconds 0

instance : Inhabited Duration := ⟨zero⟩

/-- Seconds and any number of nanoseconds, whole seconds among the nanoseconds carried over;
absent if the seconds no longer fit. -/
def ofParts? (secs : UInt64) (nanos : UInt32) : Option Duration :=
  let total := secs.toNat + nanos.toNat / nanosPerSecond
  if total < UInt64.size then
    some {
      secs := UInt64.ofNat total
      nanos := UInt32.ofNat (nanos.toNat % nanosPerSecond)
      nanos_lt := by
        have below := Nat.mod_lt nanos.toNat (show 0 < nanosPerSecond by decide)
        have small : nanos.toNat % nanosPerSecond < UInt32.size :=
          Nat.lt_trans below (by decide)
        rw [UInt32.toNat_ofNat_of_lt' small]
        exact below }
  else none

/-- The whole span in nanoseconds. -/
def toNanos (span : Duration) : Nat := span.secs.toNat * nanosPerSecond + span.nanos.toNat

/-- The span in its largest unit, with an exact fraction. -/
def inspect (span : Duration) : String :=
  let nanos := span.nanos.toNat
  if 0 < span.secs then decimalFraction span.secs.toNat nanos 9 ++ "s"
  else if 1000000 ≤ nanos then decimalFraction (nanos / 1000000) (nanos % 1000000) 6 ++ "ms"
  else if 1000 ≤ nanos then decimalFraction (nanos / 1000) (nanos % 1000) 3 ++ "µs"
  else toString nanos ++ "ns"

end Duration

end DiskBridge

import DiskBridge.Bench.Scripted
import DiskBridge.Chip.Device

/-!
# A chip on the bench

A chip behind a wire that counts the polls, acts on the chip at chosen polls, gives up after a
number of fruitless ones, and keeps the pauses instead of spending them.
-/

namespace DiskBridge.Bench

/-- Something done to the chip at a chosen poll. -/
inductive Hook where
  | attach
  | allowConnect
  | queueStatus (status : UInt8)
  deriving DecidableEq

def Hook.apply (chip : Chip) : Hook → Chip
  | attach => chip.attach
  | allowConnect => chip.allowConnect
  | queueStatus status => chip.queueStatus status

structure Wire where
  chip : Chip
  /-- What is done at which poll, counted from zero. -/
  hooks : List (Nat × Hook) := []
  /-- How many fruitless polls in a row time out. -/
  pollLimit : Nat := 50
  /-- The interrupt is seen only on the data line, so only while it is routed there. -/
  needsRoute : Bool := false
  polls : Nat := 0
  misses : Nat := 0
  /-- The pauses, the newest first. -/
  pauses : List Duration := []

namespace Wire

/-- Forgets the pauses, and unless `keep` the transactions. -/
def clear (wire : Wire) (keep : Bool) : Wire :=
  { wire with
    pauses := []
    chip := if keep then wire.chip else wire.chip.clearTransactions }

def poll (wire : Wire) : Except Error Bool × Wire :=
  let due := wire.hooks.filter (·.1 = wire.polls)
  let chip := due.foldl (fun chip (_, hook) => hook.apply chip) wire.chip
  let (raised, chip) := chip.poll
  let wire := { wire with chip, polls := wire.polls + 1 }
  if raised && (!wire.needsRoute || chip.interruptRouted) then
    (.ok true, { wire with misses := 0 })
  else if wire.pollLimit ≤ wire.misses + 1 then (.error timeout, { wire with misses := 0 })
  else (.ok false, { wire with misses := wire.misses + 1 })

def device : Machine Bus Wire
  | .poll, wire =>
    let (reply, wire) := wire.poll
    { reply, state := wire }
  | .pause span, wire => { reply := (), state := { wire with pauses := span :: wire.pauses } }
  | .begin, wire => { reply := .ok (), state := { wire with chip := wire.chip.begin } }
  | .finish, wire => { reply := .ok (), state := { wire with chip := wire.chip.finish } }
  | .exchange byte, wire =>
    let (response, chip) := wire.chip.exchange byte
    { reply := .ok response, state := { wire with chip } }

end Wire

end DiskBridge.Bench

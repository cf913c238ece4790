import DiskBridge.Bus

/-!
# A scripted bus

A bus whose answers are written down beforehand: the bytes received, the interrupt, and which
calls fail. After a limit every call times out, so no wait on it lasts for ever.
-/

namespace DiskBridge.Bench

/-- The calls that are counted. -/
inductive Kind where
  | begin
  | finish
  | exchange
  | poll
  deriving DecidableEq

namespace Kind

def all : List Kind := [begin, finish, exchange, poll]

def name : Kind → String
  | begin => "begin"
  | finish => "end"
  | exchange => "transfer"
  | poll => "int"

end Kind

/-- The error of a wait on the bench that came to nothing. -/
def timeout : Error := .timeout (.ofSeconds 5)

/-- How many calls of each kind were made. -/
structure Tally where
  begins : Nat := 0
  finishes : Nat := 0
  exchanges : Nat := 0
  polls : Nat := 0

namespace Tally

def total (tally : Tally) : Nat :=
  tally.begins + tally.finishes + tally.exchanges + tally.polls

def count (tally : Tally) : Kind → Nat
  | .begin => tally.begins
  | .finish => tally.finishes
  | .exchange => tally.exchanges
  | .poll => tally.polls

def add (tally : Tally) : Kind → Tally
  | .begin => { tally with begins := tally.begins + 1 }
  | .finish => { tally with finishes := tally.finishes + 1 }
  | .exchange => { tally with exchanges := tally.exchanges + 1 }
  | .poll => { tally with polls := tally.polls + 1 }

end Tally

structure Scripted where
  /-- Bytes to receive. -/
  incoming : List UInt8 := []
  /-- Received once `incoming` is used up. -/
  fill : UInt8 := 0
  /-- The interrupt at successive polls; raised once used up. -/
  interrupts : List Bool := []
  /-- Which calls fail: the kind, the number of the call among its kind, and the error. -/
  faults : List (Kind × Nat × Error) := []
  /-- How many calls are answered. -/
  limit : Nat := 3000
  /-- The calls made. -/
  calls : Tally := {}

namespace Scripted

/-- Counts a call and says whether it fails. -/
def count (script : Scripted) (kind : Kind) : Option Error × Scripted :=
  let index := script.calls.count kind
  let failure :=
    if script.limit ≤ script.calls.total then some timeout
    else
      (script.faults.find? fun (faulty, number, _) => faulty = kind && number = index).map
        fun (_, _, error) => error
  (failure, { script with calls := script.calls.add kind })

def device : Machine Bus Scripted
  | .begin, script =>
    match script.count .begin with
    | (some error, script) => { reply := .error error, state := script }
    | (none, script) => { reply := .ok (), state := script }
  | .finish, script =>
    match script.count .finish with
    | (some error, script) => { reply := .error error, state := script }
    | (none, script) => { reply := .ok (), state := script }
  | .exchange _, script =>
    match script.count .exchange with
    | (some error, script) => { reply := .error error, state := script }
    | (none, script) =>
      { reply := .ok (script.incoming.head?.getD script.fill)
        state := { script with incoming := script.incoming.tail } }
  | .poll, script =>
    match script.count .poll with
    | (some error, script) => { reply := .error error, state := script }
    | (none, script) =>
      { reply := .ok (script.interrupts.head?.getD true)
        state := { script with interrupts := script.interrupts.tail } }
  | .pause _, script => { reply := (), state := script }

end Scripted

end DiskBridge.Bench

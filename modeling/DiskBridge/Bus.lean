import DiskBridge.Dialogue
import DiskBridge.Error.Message

/-!
# The bus

A serial bus to the chip: bytes are exchanged inside transactions, the chip's interrupt is polled
between them, and time can be spent. `transaction` opens a transaction around a dialogue and
closes it exactly once, however the dialogue ends.
-/

namespace DiskBridge

namespace Bus

inductive Call where
  /-- Selects the chip, which opens a transaction. -/
  | begin
  /-- Deselects the chip, which closes the transaction. -/
  | finish
  /-- Sends one byte and receives one at the same time. -/
  | exchange (byte : UInt8)
  /-- Asks whether the chip's interrupt is raised. -/
  | poll
  | pause (span : Duration)
  deriving DecidableEq

/-- Every call but a pause can fail. -/
abbrev Call.Reply : Call → Type
  | .begin | .finish => Except Error Unit
  | .exchange _ => Except Error UInt8
  | .poll => Except Error Bool
  | .pause _ => Unit

end Bus

/-- The interface of a bus. -/
abbrev Bus : Interface where
  Request := Bus.Call
  Reply := Bus.Call.Reply

/-- Why an operation on the chip ended without a value. -/
inductive Stop where
  | error (error : Error)
  /-- A wait without a limit of its own outlasted the caller's patience. -/
  | stalled
  deriving DecidableEq

/-- A dialogue with the chip. -/
abbrev Operation (α : Type) := Dialogue Bus Stop α

namespace Operation

/-- Ends with an error. -/
def fail (error : Error) : Operation α := .failed (.error error)

end Operation

namespace Bus

open Dialogue

def begin : Dialogue Bus Error Unit := ask .begin .ofExcept

def finish : Dialogue Bus Error Unit := ask .finish .ofExcept

def exchange (byte : UInt8) : Dialogue Bus Error UInt8 := ask (.exchange byte) .ofExcept

def poll : Dialogue Bus Error Bool := ask .poll .ofExcept

def pause (span : Duration) : Dialogue Bus ε Unit := ask (.pause span) .done

/-- Closes a transaction whose dialogue failed. A failure to close it is only noted. -/
def abandon : Dialogue Bus ε Unit := do
  say .trace "Transaction dropped while open, ending it"
  match ← finish.attempt with
  | .ok () => return
  | .error error => say .warn ("Failed to end transaction: " ++ error.message)

/-- Runs `body` inside a transaction. `early` restates a failure to open it, `late` a failure to
close it after `body` ended with a value. -/
def bracket (early : Error → ε) (late : α → Error → ε) (body : Dialogue Bus ε α) :
    Dialogue Bus ε α := do
  begin.mapFailure early
  match ← body.attempt with
  | .ok value =>
    finish.mapFailure (late value)
    return value
  | .error cause =>
    abandon
    failed cause

/-- Runs `body` inside a transaction. -/
def transaction (body : Dialogue Bus Error α) : Operation α :=
  (bracket id (fun _ => id) body).mapFailure .error

/-- Sends bytes, ignoring what comes back. -/
def send : List UInt8 → Dialogue Bus Error Unit
  | [] => return
  | byte :: rest => do
    let _ ← exchange byte
    send rest

/-- Receives one byte. -/
def receive : Dialogue Bus Error UInt8 := exchange Command.filler

/-- Receives `count` bytes. -/
def receiveMany : (count : Nat) → Dialogue Bus Error (List UInt8)
  | 0 => return []
  | count + 1 => do
    let byte ← receive
    return byte :: (← receiveMany count)

end Bus

end DiskBridge

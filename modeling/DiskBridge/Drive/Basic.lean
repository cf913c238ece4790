import DiskBridge.Bus
import DiskBridge.Config

/-!
# Commands and their statuses

How a driver sends a command and learns its status. An interrupting command is sent in one
transaction and its status read in another, in interrupt mode after waiting for the interrupt.
-/

namespace DiskBridge

/-- A driver of the chip. The waits that the chip may prolong for ever go on for at most
`patience` rounds, after which the operation stops as `stalled`. -/
structure Drive where
  config : Config
  patience : Nat

namespace Operation

/-- A dialogue with the bus as an operation. -/
def ofBus (dialogue : Dialogue Bus Error α) : Operation α := dialogue.mapFailure .error

end Operation

namespace Drive

open Dialogue

/-- Bytes as lists show them in the journal. -/
def bytesText (bytes : List UInt8) : String := "[" ++ ", ".intercalate (bytes.map hexByte) ++ "]"

/-- Sends a command and its arguments in one transaction. -/
def sendCommand (command : Command) (arguments : List UInt8) : Operation Unit := do
  say .trace ("Ch376::send_command " ++ command.text ++ " args " ++ bytesText arguments)
  Bus.transaction (Bus.send (command.opcode :: arguments))

/-- Reads the pending status, which clears it. -/
def pollStatus : Operation Status := do
  say .trace "Ch376::poll_status"
  let byte ← Bus.transaction do
    Bus.send [Command.status.opcode]
    Bus.receive
  let status := Status.ofByte byte
  say .trace ("Got status " ++ status.text)
  return status

/-- Polls until the interrupt is raised. -/
def awaitInterrupt : (patience : Nat) → Operation Unit
  | 0 => failed .stalled
  | patience + 1 => do
    if ← Operation.ofBus Bus.poll then return
    else awaitInterrupt patience

/-- Waits for the interrupt, then reads the status. -/
def waitStatus (drive : Drive) : Operation Status := do
  say .trace "Ch376::wait_status"
  awaitInterrupt drive.patience
  pollStatus

/-- The status of the last interrupting command, learnt as configured. -/
def status (drive : Drive) : Operation Status :=
  match drive.config.statusMode with
  | .interrupt => drive.waitStatus
  | .poll => pollStatus

/-- Sends an interrupting command and learns its status. -/
def commandStatus (drive : Drive) (command : Command) (arguments : List UInt8) :
    Operation Status := do
  sendCommand command arguments
  let status ← drive.status
  say .trace (command.text ++ " returned " ++ status.text)
  return status

/-- Fails unless a command was answered by the status expected of it. -/
def expectStatus (command : Command) (status expected : Status) : Operation Unit := do
  if status = expected then return
  else
    say .debug (command.text ++ " returned " ++ status.text ++ ", expected " ++ expected.text)
    Operation.fail (.unexpectedStatus command status)

/-- Sends an interrupting command that has to succeed. -/
def simpleCommand (drive : Drive) (command : Command) (arguments : List UInt8) :
    Operation Unit := do
  let status ← drive.commandStatus command arguments
  expectStatus command status .success

end Drive

end DiskBridge

import DiskBridge.Bus
import DiskBridge.Chip.Execution

/-!
# The chip on its bus

What each call on the bus does to the chip. No call fails.
-/

namespace DiskBridge.Chip

/-- Selects the chip. -/
def begin (chip : Chip) : Chip :=
  { chip with
    overlapped := chip.overlapped || chip.inTransaction
    inTransaction := true
    received := []
    responses := [] }

/-- Deselects the chip, which carries out the command it received. -/
def finish (chip : Chip) : Chip :=
  if chip.inTransaction then
    let bytes := chip.received
    let chip := { chip with inTransaction := false, received := [] }.complete bytes
    { chip with transactions := bytes :: chip.transactions }
  else { chip with overlapped := true }

/-- Sends a byte to the chip and receives one from it. -/
def exchange (chip : Chip) (byte : UInt8) : UInt8 × Chip :=
  let response := chip.responses.head?.getD 0
  let index := chip.received.length
  let received := chip.received ++ [byte]
  let chip :=
    { chip with
      overlapped := chip.overlapped || !chip.inTransaction
      responses := chip.responses.tail
      received }
  (response, chip.react (received.head?.getD byte) index byte)

/-- Sends bytes one after the other; the result holds what was received. -/
def exchangeAll (chip : Chip) (bytes : List UInt8) : List UInt8 × Chip :=
  let (received, chip) := bytes.foldl (fun (received, chip) byte =>
    let (response, chip) := chip.exchange byte
    (response :: received, chip)) (([] : List UInt8), chip)
  (received.reverse, chip)

/-- Asks whether the interrupt is raised. An armed chip with a disk and nothing to report now
reports a queued status, or else the connection, which disarms it. -/
def poll (chip : Chip) : Bool × Chip :=
  let chip :=
    if chip.pending.isNone && chip.armed && chip.attached then
      match chip.queued with
      | status :: rest => { chip with queued := rest, pending := some status }
      | [] =>
        if chip.connectLimit = some 0 then chip
        else
          { chip with
            connectLimit := chip.connectLimit.map (· - 1)
            armed := false
            pending := some Status.connected.byte }
    else chip
  (chip.pending.isSome, chip)

/-- The chip as a device on the bus. -/
def device : Machine Bus Chip
  | .begin, chip => { reply := .ok (), state := chip.begin }
  | .finish, chip => { reply := .ok (), state := chip.finish }
  | .exchange byte, chip =>
    let (response, chip) := chip.exchange byte
    { reply := .ok response, state := chip }
  | .poll, chip =>
    let (raised, chip) := chip.poll
    { reply := .ok raised, state := chip }
  | .pause _, chip => { reply := (), state := chip }

end DiskBridge.Chip

import DiskBridge.Bus
import DiskBridge.Usb

/-!
# The USB adapter

A USB adapter that carries the bus: one pin selects the chip, bytes are exchanged bit-reversed,
and the interrupt is read from a pin of its own or, between transactions, from the data line.

`Adapter.device` is the adapter as a bus, over any USB host.
-/

namespace DiskBridge

structure Adapter where
  /-- The input pin wired to the interrupt; without one the data line is read. -/
  intPin : Option UInt8 := none
  inTransaction : Bool := false
  deriving DecidableEq

namespace Adapter

open Dialogue

/-! ## The adapter's commands -/

/-- The maker and the model of the adapter. -/
def identity : Usb.Identity := ⟨0x1a86, 0x5512⟩

/-- The endpoint that takes commands. -/
def outEndpoint : UInt8 := 0x02

/-- The endpoint that answers. -/
def inEndpoint : UInt8 := 0x82

/-- The largest packet. -/
def packetSize : Nat := 32

/-- Reads the input pins. -/
def readPins : UInt8 := 0xa0

/-- Exchanges the bytes that follow. -/
def exchangeStream : UInt8 := 0xa8

/-- Begins a stream that sets the speed. -/
def speedStream : UInt8 := 0xaa
def speedSet : UInt8 := 0x60
def speedEnd : UInt8 := 0x00

/-- Begins a stream that drives the pins. -/
def pinStream : UInt8 := 0xab
def pinsOut : UInt8 := 0x80
def pinsDirection : UInt8 := 0x40
def pinsEnd : UInt8 := 0x20

/-- The output pins with the chip deselected. -/
def deselected : UInt8 := 0x37

/-- The output pins with the chip selected. -/
def selected : UInt8 := 0x36

/-- Six outputs and two inputs. -/
def directions : UInt8 := 0x3f

/-- The pin of the data line. -/
def dataPin : UInt8 := 7

/-- How many bytes answer `readPins`. -/
def pinsLength : Nat := 6

/-- How long a transfer may take. -/
def transferTimeout : Duration := .ofSeconds 5

/-- A byte with its bits in the opposite order. -/
def reverseBits (byte : UInt8) : UInt8 :=
  let swapped := ((byte &&& 0x55) <<< 1) ||| ((byte >>> 1) &&& 0x55)
  let swapped := ((swapped &&& 0x33) <<< 2) ||| ((swapped >>> 2) &&& 0x33)
  ((swapped &&& 0x0f) <<< 4) ||| (swapped >>> 4)

theorem testBit_reverseBits (byte : UInt8) {index : Nat} (h : index < 8) :
    (reverseBits byte).toNat.testBit index = byte.toNat.testBit (7 - index) := by
  have all : ∀ (n : Fin 256) (k : Fin 8),
      (reverseBits (UInt8.ofNat n.val)).toNat.testBit k =
        (UInt8.ofNat n.val).toNat.testBit (7 - k) := by
    decide +kernel
  simpa using all ⟨byte.toNat, byte.toNat_lt⟩ ⟨index, h⟩

/-- Bytes with the same bits are equal. -/
theorem eq_of_testBit_eq {byte other : UInt8}
    (h : ∀ index < 8, byte.toNat.testBit index = other.toNat.testBit index) : byte = other := by
  apply UInt8.eq_of_toBitVec_eq
  apply BitVec.eq_of_getLsbD_eq
  intro index hi
  rw [← BitVec.testBit_toNat, ← BitVec.testBit_toNat]
  exact h index hi

theorem reverseBits_reverseBits (byte : UInt8) : reverseBits (reverseBits byte) = byte := by
  apply eq_of_testBit_eq
  intro index hi
  rw [testBit_reverseBits _ hi, testBit_reverseBits _ (by omega), Nat.sub_sub_self (by omega)]

/-! ## Transfers -/

/-- Asks the host, with a fault turned into an error. -/
def call (request : Usb.Request) (reply : Usb.Request.Reply request → Except Usb.Fault α) :
    Dialogue Usb Error α :=
  ask request fun answer => ofExcept ((reply answer).mapError Usb.Fault.toError)

/-- Sends a command, which the adapter has to accept whole. -/
def writeAll (bytes : List UInt8) : Dialogue Usb Error Unit := do
  let written ← call (.bulkWrite bytes) id
  if written ≠ bytes.length then
    say .warn (s!"CH341 accepted {written} of " ++ toString bytes.length ++ " bytes")
    failed (.traffic
      (.shortTransfer (UInt64.ofNat bytes.length) (UInt64.ofNat written)))

/-- Receives exactly `count` bytes. -/
def readExact (count : Nat) : Dialogue Usb Error (List UInt8) :=
  ask (.bulkRead count) fun
    | .error .timeout => do
      say .warn "Timed out waiting for CH341"
      failed (.timeout transferTimeout)
    | .error fault => failed fault.toError
    | .ok bytes => do
      if bytes.length ≠ count then
        say .warn ("CH341 returned " ++ toString bytes.length ++ s!" of {count} bytes")
        failed (.traffic
          (.shortTransfer (UInt64.ofNat count) (UInt64.ofNat bytes.length)))
      else return bytes

/-- Selects or deselects the chip. -/
def selectChip (select : Bool) : Dialogue Usb Error Unit :=
  writeAll [pinStream, pinsOut ||| (if select then selected else deselected),
    pinsDirection ||| directions, pinsEnd]

/-! ## The adapter as a bus -/

def begin (adapter : Adapter) : Dialogue Usb Error Unit := do
  if adapter.inTransaction then
    say .warn "Attempt to begin a transaction while one is in progress"
    failed (.traffic .transactionOpen)
  else selectChip true

def finish (adapter : Adapter) : Dialogue Usb Error Unit := do
  if adapter.inTransaction then selectChip false
  else
    say .warn "Attempt to end a transaction when none is in progress"
    failed (.traffic .noTransaction)

def exchange (adapter : Adapter) (byte : UInt8) : Dialogue Usb Error UInt8 := do
  if adapter.inTransaction then
    writeAll [exchangeStream, reverseBits byte]
    let answer ← readExact 1
    return reverseBits (answer.headD 0)
  else failed (.traffic .noTransaction)

/-- Reads the pin that carries the interrupt, which is raised while the pin is low. The data line
carries it only between transactions. -/
def poll (adapter : Adapter) : Dialogue Usb Error Bool := do
  if adapter.intPin.isNone && adapter.inTransaction then
    say .warn "Attempt to sample MISO for the interrupt inside a transaction"
    failed (.traffic .transactionOpen)
  else
    writeAll [readPins]
    let pins ← readExact pinsLength
    return pins.headD 0 &&& (1 <<< adapter.intPin.getD dataPin) = 0

/-- Carries one call of the bus over a USB host. A failed selection leaves the adapter outside a
transaction; a failed deselection does too. -/
def device (host : Machine Usb τ) : Machine Bus (Adapter × τ)
  | .begin, (adapter, state) =>
    let ran := adapter.begin.run host state []
    let opened := adapter.inTransaction || ran.result.toBool
    { reply := ran.result
      state := ({ adapter with inTransaction := opened }, ran.state)
      journal := ran.journal }
  | .finish, (adapter, state) =>
    let ran := adapter.finish.run host state []
    { reply := ran.result
      state := ({ adapter with inTransaction := false }, ran.state)
      journal := ran.journal }
  | .exchange byte, (adapter, state) =>
    let ran := (adapter.exchange byte).run host state []
    { reply := ran.result, state := (adapter, ran.state), journal := ran.journal }
  | .poll, (adapter, state) =>
    let ran := adapter.poll.run host state []
    { reply := ran.result, state := (adapter, ran.state), journal := ran.journal }
  | .pause _, (adapter, state) => { reply := (), state := (adapter, state) }

end Adapter

end DiskBridge

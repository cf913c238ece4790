import DiskBridge.Adapter.Basic

/-!
# The adapter's pins

What the adapter's hardware does with the commands it is sent, with a bus behind its pins: the
select pin opens and closes transactions when it changes, bytes are exchanged bit-reversed, and
the input pins show the interrupt.
-/

namespace DiskBridge.Adapter

structure Pins (τ : Type) where
  /-- The select pin is low. -/
  low : Bool := false
  behind : τ

namespace Pins

/-- Sets the select pin from the output pins of a command. -/
def select (bus : Machine Bus τ) (outputs : UInt8) (pins : Pins τ) : Pins τ :=
  let low := outputs &&& 1 = 0
  if low && !pins.low then ⟨true, (bus .begin pins.behind).state⟩
  else if !low && pins.low then ⟨false, (bus .finish pins.behind).state⟩
  else pins

/-- The input pins, all high but for a raised interrupt, as they are answered. -/
def inputs (intPin : UInt8) (raised : Bool) : List UInt8 :=
  let mask : UInt8 := 1 <<< intPin
  (if raised then ~~~mask else 0xff) :: List.replicate 5 0

/-- Obeys one command. The result holds the answers to be read. A call of the bus that fails
leaves nothing to be read. -/
def obey (bus : Machine Bus τ) (intPin : UInt8) (command : List UInt8) (pins : Pins τ) :
    List (List UInt8) × Pins τ :=
  match command with
  | kind :: argument :: _ =>
    if kind = pinStream then ([], pins.select bus argument)
    else if kind = exchangeStream then
      let reaction := bus (.exchange (reverseBits argument)) pins.behind
      let pins := { pins with behind := reaction.state }
      match reaction.reply with
      | .ok byte => ([[reverseBits byte]], pins)
      | .error _ => ([], pins)
    else ([], pins)
  | [kind] =>
    if kind = readPins then
      let reaction := bus .poll pins.behind
      let pins := { pins with behind := reaction.state }
      match reaction.reply with
      | .ok raised => ([inputs intPin raised], pins)
      | .error _ => ([], pins)
    else ([], pins)
  | [] => ([], pins)

end Pins

end DiskBridge.Adapter

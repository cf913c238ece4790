import DiskBridge.Adapter.Basic

/-!
# Finding and opening an adapter

The wanted adapter is the one of a given number among the adapters on the bus. Opening it claims
it, sets its speed and deselects the chip; letting go of it deselects the chip and releases it.
-/

namespace DiskBridge.Adapter

open Dialogue

/-- What is asked for: which adapter, from zero, and the pin of the interrupt. -/
structure Wanted where
  index : Option UInt8 := none
  intPin : Option UInt8 := none
  deriving DecidableEq

/-- Looks at the device number `index` of the bus, `found` adapters having been passed. The adapter
number `wanted` is opened; any other device is passed, and the result is how many adapters have been
passed then. -/
def look (wanted : UInt8) (index : Nat) (found : UInt8) : Dialogue Usb Error (Option UInt8) := do
  let device ← call (.descriptor index) id
  if device = identity then
    if found = wanted then
      say .debug s!"Found CH341 device at index {wanted}"
      call (.openDevice index) id
      return none
    else
      say .debug s!"Skipping CH341 device at index {found}"
      return some (found + 1)
  else return some found

/-- Looks through the devices of the bus, numbered from `index`, for the adapter number `wanted`,
`found` adapters having been passed, and opens it. -/
def search (wanted : UInt8) :
    (index : Nat) → (found : UInt8) → List Usb.Location → Dialogue Usb Error Usb.Location
  | _, found, [] => do
    say .info s!"No suitable CH341 device found at index {wanted}, found {found}"
    failed (.access (.notFound identity.vendor identity.product))
  | index, found, location :: rest => do
    match ← look wanted index found with
    | none => return location
    | some found => search wanted (index + 1) found rest

/-- Opens the adapter number `index`, the first if none is given. -/
def find (index : Option UInt8) : Dialogue Usb Error Usb.Location := do
  let locations ← call .list id
  search (index.getD 0) 0 0 locations

/-- Lets go of an open adapter: deselects the chip, releases the interface, again if it was
claimed and the first release failed, and closes the device. Faults are passed over. -/
def letGo (claimed : Bool) : Dialogue Usb ε Unit := do
  let _ ← (selectChip false).attempt
  ask .release fun released => do
    if claimed && !released.toBool then
      ask .release fun _ => ask .close .done
    else ask .close .done

/-- Sets the speed and deselects the chip. -/
def settle : Dialogue Usb Error Unit := do
  writeAll [speedStream, speedSet ||| 0x01, speedEnd]
  selectChip false

/-- Claims the interface, sets the speed and deselects the chip. The result says whether the
interface was claimed, and how it went. -/
def prepare : Dialogue Usb ε (Bool × Except Error Unit) :=
  ask .detachDriver fun detached => do
    match detached with
    | .error fault =>
      say .debug ("Kernel driver auto-detach unavailable: " ++ fault.message)
    | .ok () => pure ()
    say .debug "Claim interface"
    ask .claim fun
      | .error fault => return (false, .error fault.toError)
      | .ok () => do
        say .debug "Set SPI speed"
        return (true, ← settle.attempt)

/-- Opens an adapter, letting go of it again if it cannot be prepared. With `prepared` the host
is ready for use already. -/
def acquire (wanted : Wanted) (prepared : Bool) : Dialogue Usb Error (Adapter × UsbInfo) := do
  match wanted.intPin with
  | some pin =>
    if 7 < pin then
      let message := s!"CH341 has no input pin {pin}, valid pins are 0-7"
      say .warn message
      failed (.arguments message)
    else say .debug s!"Reading CH376 interrupt from D{pin}"
  | none => say .debug s!"Reading CH376 interrupt from MISO (D{dataPin})"
  if !prepared then call .prepare id
  let location ← find wanted.index
  match ← prepare with
  | (_, .ok ()) => return ({ intPin := wanted.intPin }, ⟨identity, location⟩)
  | (claimed, .error error) =>
    letGo claimed
    failed error

/-- Lets go of an adapter that is in use. -/
def drop : Dialogue Usb ε Unit := letGo true

end DiskBridge.Adapter

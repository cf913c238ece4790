import DiskBridge.Drive.Basic

/-!
# Bring-up

From any state of the chip to a mounted disk: reset the chip, route its interrupt, walk through
the host modes around two connection reports, then connect and mount the disk. Each step has to
be answered as expected before the next is sent.
-/

namespace DiskBridge.Drive

open Dialogue

/-- Resets the chip. Any open file is lost and the disk has to be brought up again. -/
def reset (drive : Drive) : Operation Unit := do
  say .trace "Ch376::reset"
  Bus.pause drive.config.beforeReset
  sendCommand .reset []
  Bus.pause drive.config.afterReset
  say .debug "CH376 reset"

/-- Lets the data line follow the interrupt between transactions, for devices that have no wire
to the interrupt. A reset turns it off again. -/
def routeInterrupt : Operation Unit := do
  say .trace "Ch376::enable_sdo_interrupt"
  sendCommand .routeInterrupt [Command.routeSelector, Command.routeEnable]

/-- Switches the USB mode. The chip answers in the same transaction. -/
def setUsbMode (drive : Drive) (mode : UsbMode) : Operation Unit := do
  say .trace ("Ch376::set_usb_mode " ++ mode.text)
  let byte ← Bus.transaction do
    Bus.send [Command.usbMode.opcode, mode.byte]
    Bus.pause drive.config.modeSwitch
    Bus.receive
  expectStatus .usbMode (Status.ofByte byte) .accepted
  say .debug ("USB mode set to " ++ mode.text)

/-- Resets the chip, routes its interrupt and enters the first host mode. -/
def initialise (drive : Drive) : Operation Unit := do
  say .trace "Ch376::init"
  drive.reset
  routeInterrupt
  drive.setUsbMode .quiet

/-- Waits for a report of a USB connection, ignoring every other status, for at most `rounds`
statuses. -/
def awaitConnect (drive : Drive) : (rounds : Nat) → Operation Unit
  | 0 => failed .stalled
  | rounds + 1 => do
    let status ← drive.waitStatus
    if status = .connected then say .debug "USB device connected"
    else
      say .trace ("Ignoring status " ++ status.text ++ " while waiting for connection")
      drive.awaitConnect rounds

/-- Waits for a report of a USB connection. -/
def waitForConnect (drive : Drive) : Operation Unit := do
  say .debug "Waiting for USB device connection"
  drive.awaitConnect drive.patience

/-- Waits for a USB device, walks through the remaining host modes, then connects and mounts the
disk. The chip reports the connection again once it has reset the bus. -/
def connectDisk (drive : Drive) : Operation Unit := do
  say .trace "Ch376::connect_drive"
  drive.waitForConnect
  drive.setUsbMode .active
  drive.setUsbMode .busReset
  drive.waitForConnect
  drive.simpleCommand .diskConnect []
  say .debug "USB disk connected"
  drive.simpleCommand .diskMount []

/-- Brings the disk up, from any state of the chip. -/
def bringUp (drive : Drive) : Operation Unit := do
  say .info "Bringing up CH376"
  drive.initialise
  drive.connectDisk
  say .info "USB disk mounted"

/-! ## Talking to the chip alone -/

/-- Reads the chip's version. -/
def version (drive : Drive) : Operation UInt8 := do
  let version ← Bus.transaction do
    Bus.send [Command.version.opcode]
    Bus.pause drive.config.directAnswer
    Bus.receive
  say .info ("CH376 IC version 0x" ++ hexByte version)
  return version

/-- Checks that the chip answers, by a byte it has to return complemented. -/
def selfTest : Operation Unit := do
  let actual ← Bus.transaction do
    Bus.send [Command.selfTest.opcode, Command.testPattern]
    Bus.receive
  let expected := ~~~Command.testPattern
  if actual = expected then say .debug "CH376 self-test passed"
  else
    say .warn ("CH376 self-test returned 0x" ++ hexByte actual ++ ", expected 0x"
      ++ hexByte expected)
    Operation.fail (.traffic (.selfTest Command.testPattern expected actual))

end DiskBridge.Drive

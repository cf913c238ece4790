import DiskBridge.Drive.BringUp
import DiskBridge.Drive.Path
import DiskBridge.Drive.Transfer

/-!
# Sessions

Everything that can be asked of a drive, as data, and what comes of it. A session performs actions
one after the other. A failed action does not end it; a wait that never ends does.
-/

namespace DiskBridge.Drive

open Dialogue

inductive Action where
  | bringUp
  | initialise
  | connectDisk
  | reset
  | routeInterrupt
  | setUsbMode (mode : UsbMode)
  | waitStatus
  | pollStatus
  | version
  | selfTest
  | openSelected
  | createFile
  | createDirectory
  | erase
  | close
  | seek (offset : UInt32)
  | fileSize
  /-- Reads into a buffer that holds the given bytes. -/
  | read (buffer : List UInt8)
  | write (data : List UInt8)
  | selectPath (path : String)
  | openPath (path : String)
  | createPath (path : String)
  | createDirectoryPath (path : String)
  | erasePath (path : String)
  deriving DecidableEq

/-- What an action returns. -/
inductive Value where
  | nothing
  | opened (opened : Opened)
  | status (status : Status)
  | byte (byte : UInt8)
  | size (size : UInt32)
  /-- The number of bytes moved. -/
  | count (count : Nat)
  deriving DecidableEq

/-- How an action ended. -/
structure Report where
  result : Except Stop Value
  /-- The buffer of a read, as the read left it. -/
  buffer : List UInt8 := []

/-- Whether the action outlasted the patience of the drive. -/
def Report.stalled (report : Report) : Bool :=
  match report.result with
  | .error .stalled => true
  | _ => false

/-- Performs an operation and reports its value. -/
def report (operation : Operation α) (value : α → Value) : Dialogue Bus ε Report := do
  return { result := (← operation.attempt).map value }

/-- Reads into a buffer. -/
def readInto (drive : Drive) (buffer : List UInt8) : Dialogue Bus ε Report := do
  match ← (drive.read buffer.length).attempt with
  | .ok received =>
    return { result := .ok (.count received.length), buffer := overlay received buffer }
  | .error cut => return { result := .error cut.stop, buffer := overlay cut.received buffer }

def perform (drive : Drive) : Action → Dialogue Bus ε Report
  | .bringUp => report drive.bringUp fun _ => .nothing
  | .initialise => report drive.initialise fun _ => .nothing
  | .connectDisk => report drive.connectDisk fun _ => .nothing
  | .reset => report drive.reset fun _ => .nothing
  | .routeInterrupt => report routeInterrupt fun _ => .nothing
  | .setUsbMode mode => report (drive.setUsbMode mode) fun _ => .nothing
  | .waitStatus => report drive.waitStatus .status
  | .pollStatus => report Drive.pollStatus .status
  | .version => report drive.version .byte
  | .selfTest => report Drive.selfTest fun _ => .nothing
  | .openSelected => report drive.openSelected .opened
  | .createFile => report drive.createFile fun _ => .nothing
  | .createDirectory => report drive.createDirectory fun _ => .nothing
  | .erase => report drive.erase fun _ => .nothing
  | .close => report drive.close fun _ => .nothing
  | .seek offset => report (drive.seek offset) fun _ => .nothing
  | .fileSize => report Drive.fileSize .size
  | .read buffer => drive.readInto buffer
  | .write data => report (drive.write data) .count
  | .selectPath path => report (drive.selectPath path) fun _ => .nothing
  | .openPath path => report (drive.openPath path) .opened
  | .createPath path => report (drive.createPath path) fun _ => .nothing
  | .createDirectoryPath path => report (drive.createDirectoryPath path) fun _ => .nothing
  | .erasePath path => report (drive.erasePath path) fun _ => .nothing

/-- Performs actions one after the other, up to the first that stalls. -/
def session (drive : Drive) : List Action → Dialogue Bus ε (List Report)
  | [] => return []
  | action :: rest => do
    let report ← drive.perform action
    if report.stalled then return [report]
    else return report :: (← drive.session rest)

end DiskBridge.Drive

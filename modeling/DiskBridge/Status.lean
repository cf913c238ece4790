import DiskBridge.Text.Digits

/-!
# Status bytes

What the chip reports about a command. Every byte is some status: one outside the documented set
is kept as `other`, so it can be shown and never matches an expected status.
-/

namespace DiskBridge

inductive Status where
  /-- The command succeeded, answered directly. -/
  | accepted
  /-- The command was aborted, answered directly. -/
  | refused
  | success
  | connected
  | disconnected
  | overflow
  | ready
  | readPending
  | writePending
  | diskFault
  /-- A directory was opened, which is success for a directory. -/
  | openedDirectory
  | missing
  | nameTaken
  | diskGone
  | largeSector
  | badPartition
  | unformatted
  | diskFull
  | directoryFull
  | alreadyClosed
  | other (byte : UInt8)
  deriving DecidableEq, Inhabited

namespace Status

/-- The documented statuses, in the order of their variant numbers. -/
def documented : List Status :=
  [accepted, refused, success, connected, disconnected, overflow, ready, readPending,
    writePending, diskFault, openedDirectory, missing, nameTaken, diskGone, largeSector,
    badPartition, unformatted, diskFull, directoryFull, alreadyClosed]

/-- The byte the chip sends for a status. -/
def byte : Status → UInt8
  | accepted => 0x51
  | refused => 0x5f
  | success => 0x14
  | connected => 0x15
  | disconnected => 0x16
  | overflow => 0x17
  | ready => 0x18
  | readPending => 0x1d
  | writePending => 0x1e
  | diskFault => 0x1f
  | openedDirectory => 0x41
  | missing => 0x42
  | nameTaken => 0x43
  | diskGone => 0x82
  | largeSector => 0x84
  | badPartition => 0x92
  | unformatted => 0xa1
  | diskFull => 0xb1
  | directoryFull => 0xb2
  | alreadyClosed => 0xb4
  | other byte => byte

/-- The status a byte stands for. -/
def ofByte (b : UInt8) : Status := (documented.find? (·.byte == b)).getD (other b)

/-- Reading a byte as a status and sending it again gives the same byte. -/
theorem byte_ofByte (b : UInt8) : (ofByte b).byte = b := by
  have all : ∀ n : Fin 256, (ofByte (UInt8.ofNat n.val)).byte = UInt8.ofNat n.val := by
    decide +kernel
  have := all ⟨b.toNat, b.toNat_lt⟩
  simpa using this

/-- The name of a status in inspection text. -/
def name : Status → String
  | accepted => "RetSuccess"
  | refused => "RetAbort"
  | success => "IntSuccess"
  | connected => "IntConnect"
  | disconnected => "IntDisconnect"
  | overflow => "IntBufOver"
  | ready => "IntUsbReady"
  | readPending => "IntDiskRead"
  | writePending => "IntDiskWrite"
  | diskFault => "IntDiskErr"
  | openedDirectory => "ErrOpenDir"
  | missing => "ErrMissFile"
  | nameTaken => "ErrFoundName"
  | diskGone => "ErrDiskDiscon"
  | largeSector => "ErrLargeSector"
  | badPartition => "ErrTypeError"
  | unformatted => "ErrBpbError"
  | diskFull => "ErrDiskFull"
  | directoryFull => "ErrFdtOver"
  | alreadyClosed => "ErrFileClose"
  | other _ => "Unknown"

def inspect : Status → String
  | other byte => "Unknown(" ++ toString byte ++ ")"
  | status => status.name

/-- The name of a status in the chip's data sheet: the words of its name in capitals, after the
word for USB in the statuses of an interrupt. -/
def label (status : Status) : String :=
  let words := status.name.toList.flatMap fun c => if c.isUpper then ['_', c] else [c.toUpper]
  let kind := if status.name.startsWith "Int" then "USB_" else ""
  kind ++ String.ofList words.tail

def description : Status → String
  | accepted => "command succeeded"
  | refused => "command aborted"
  | success => "operation succeeded"
  | connected => "USB device connected"
  | disconnected => "USB device disconnected"
  | overflow => "data buffer overflow"
  | ready => "USB device ready"
  | readPending => "disk read pending"
  | writePending => "disk write pending"
  | diskFault => "disk error"
  | openedDirectory => "opened a directory"
  | missing => "file not found"
  | nameTaken => "name already exists"
  | diskGone => "disk disconnected"
  | largeSector => "unsupported sector size"
  | badPartition => "unsupported partition type"
  | unformatted => "disk not formatted"
  | diskFull => "disk full"
  | directoryFull => "directory full"
  | alreadyClosed => "file already closed"
  | other _ => "unknown status"

/-- The byte and what it means, as messages show it. -/
def text (status : Status) : String :=
  "0x" ++ hexByte status.byte ++ " (" ++ status.description ++ ")"

end Status

end DiskBridge

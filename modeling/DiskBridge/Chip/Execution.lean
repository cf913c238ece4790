import DiskBridge.Chip.State
import DiskBridge.Codec.Basic
import DiskBridge.Text.Utf8

/-!
# What the chip does

`react` answers a byte while a transaction is in progress; `complete` carries a command out once
its transaction has ended. An interrupting command leaves its status pending.
-/

namespace DiskBridge.Chip

/-- The version that the chip reports. -/
def versionByte : UInt8 := 0x43

/-- The status injected next for an opcode, if any, and the others. -/
def takeInjected (opcode : UInt8) : List (UInt8 × UInt8) → Option UInt8 × List (UInt8 × UInt8)
  | [] => (none, [])
  | (key, status) :: rest =>
    if key = opcode then (some status, rest)
    else
      let (found, rest) := takeInjected opcode rest
      (found, (key, status) :: rest)

/-- The status to report for an opcode: the one injected next, else the computed one. -/
def statusFor (chip : Chip) (opcode status : UInt8) : UInt8 × Chip :=
  let (found, rest) := takeInjected opcode chip.injected
  (found.getD status, { chip with injected := rest })

/-- Leaves the status of a command pending. -/
def raise (chip : Chip) (command : Command) (status : Status) : Chip :=
  let (byte, chip) := chip.statusFor command.opcode status.byte
  { chip with pending := some byte }

/-- The size of the next chunk: as prescribed, else as much as is left. -/
def nextChunk (chip : Chip) (left : Nat) : Nat × Chip :=
  match chip.chunkScript with
  | size :: rest => (size, { chip with chunkScript := rest })
  | [] => (min left Command.maxChunk, chip)

def respond (chip : Chip) (bytes : List UInt8) : Chip :=
  { chip with responses := chip.responses ++ bytes }

/-- `count` bytes of a file from an offset, zeros beyond its end. -/
def sliceOf (data : List UInt8) (offset count : Nat) : List UInt8 :=
  let slice := (data.drop offset).take count
  slice ++ List.replicate (count - slice.length) 0

/-- A file after a chunk was written at an offset, with zeros in any gap. -/
def splice (data chunk : List UInt8) (offset : Nat) : List UInt8 :=
  data.take offset ++ List.replicate (offset - data.length) 0 ++ chunk
    ++ data.drop (offset + chunk.length)

/-! ## During a transaction -/

/-- Answers the pending status and clears it. -/
def reportStatus (chip : Chip) : Chip :=
  { chip.respond [chip.pending.getD 0] with pending := none }

/-- Answers whether a USB mode is accepted. Two of the modes have the connection of the disk
reported again. -/
def switchMode (chip : Chip) (mode : UInt8) : Chip :=
  let (byte, chip) := chip.statusFor Command.usbMode.opcode Status.accepted.byte
  let rearms := mode = UsbMode.quiet.byte || mode = UsbMode.busReset.byte
  let chip := { chip with armed := chip.armed || (byte = Status.accepted.byte && rearms) }
  chip.respond [byte]

/-- Answers the size of the open file, zero if none is. -/
def reportSize (chip : Chip) : Chip :=
  chip.respond (littleEndian 4 (chip.openData?.getD []).length)

/-- Hands over the next chunk of a read. -/
def offerChunk (chip : Chip) : Chip :=
  let (size, chip) := chip.nextChunk chip.readLeft
  let chunk := sliceOf (chip.openData?.getD []) chip.cursor size
  let chip := chip.respond (UInt8.ofNat size :: chunk)
  { chip with cursor := chip.cursor + size, readLeft := chip.readLeft - size }

/-- Says how many bytes of a write it takes next. -/
def requestChunk (chip : Chip) : Chip :=
  let (size, chip) := chip.nextChunk chip.writeLeft
  chip.respond [UInt8.ofNat size]

/-- Answers the byte at `index` of a transaction that began with `opcode`. -/
def react (chip : Chip) (opcode : UInt8) (index : Nat) (byte : UInt8) : Chip :=
  match Command.ofOpcode? opcode, index with
  | some .status, 0 => chip.reportStatus
  | some .version, 0 => chip.respond [versionByte]
  | some .selfTest, 1 => chip.respond [~~~byte]
  | some .usbMode, 1 => chip.switchMode byte
  | some .fileSize, 1 => chip.reportSize
  | some .readBuffer, 0 => chip.offerChunk
  | some .writeBuffer, 0 => chip.requestChunk
  | _, _ => chip

/-! ## After a transaction -/

/-- The number in the `width` bytes after the opcode. -/
def argument (bytes : List UInt8) (width : Nat) : Nat :=
  ofLittleEndian ((bytes.drop 1).take width)

def selectedPath (chip : Chip) : Path := chip.selected.getD []

def executeReset (chip : Chip) : Chip :=
  { chip with
    mounted := false
    armed := false
    interruptRouted := false
    pending := none
    directory := Volume.root
    selected := none
    openFile := none }

def executeRoute (chip : Chip) (bytes : List UInt8) : Chip :=
  if bytes[1]? = some Command.routeSelector then
    { chip with interruptRouted := bytes[2]? = some Command.routeEnable }
  else chip

/-- The path a name selects: from the root if it begins with the separator, else in the current
directory. -/
def resolveName (directory : Path) (name : List Char) : Path :=
  if name.head? = some '/' then name
  else if directory = Volume.root then '/' :: name
  else directory ++ '/' :: name

def executeName (chip : Chip) (bytes : List UInt8) : Chip :=
  let name := (bytes.drop 1).takeWhile (· ≠ Command.nameEnd)
  { chip with
    selected := some (resolveName chip.directory (Utf8.decodeLossyChars name)) }

/-- The status of a command that needs the disk and nothing else. -/
def diskStatus (chip : Chip) : Status := if chip.attached then .success else .diskGone

def executeConnect (chip : Chip) : Chip := chip.raise .diskConnect chip.diskStatus

def executeMount (chip : Chip) : Chip :=
  let chip := chip.raise .diskMount chip.diskStatus
  { chip with mounted := chip.pending = some Status.success.byte }

def executeOpen (chip : Chip) : Chip :=
  let path := chip.selectedPath
  if chip.volume.isDirectory path then
    { chip with directory := path, openFile := none }.raise .fileOpen .openedDirectory
  else if (chip.volume.file? path).isSome then
    { chip with openFile := some path, cursor := 0 }.raise .fileOpen .success
  else chip.raise .fileOpen .missing

/-- Creates a file of one byte: the chip has no empty files. -/
def executeCreate (chip : Chip) : Chip :=
  let path := chip.selectedPath
  if chip.volume.isDirectory path then chip.raise .fileCreate .nameTaken
  else if chip.volume.inDirectory path then
    { chip with
      volume := chip.volume.insert path (.file [0])
      openFile := some path
      cursor := 0 }.raise .fileCreate .success
  else chip.raise .fileCreate .missing

def executeCreateDirectory (chip : Chip) : Chip :=
  let path := chip.selectedPath
  if (chip.volume.file? path).isSome then chip.raise .dirCreate .nameTaken
  else if chip.volume.inDirectory path then
    { chip with
      volume := chip.volume.insert path .directory
      directory := path }.raise .dirCreate .success
  else chip.raise .dirCreate .missing

def executeErase (chip : Chip) : Chip :=
  let path := chip.selectedPath
  if path ≠ Volume.root && chip.volume.contains path && !chip.volume.hasBelow path then
    { chip with
      volume := chip.volume.erase path
      openFile := if chip.openFile = some path then none else chip.openFile }.raise
        .fileErase .success
  else chip.raise .fileErase .missing

def executeClose (chip : Chip) : Chip :=
  { chip with openFile := none }.raise .fileClose .success

def executeLocate (chip : Chip) (bytes : List UInt8) : Chip :=
  if chip.openFile.isSome then
    { chip with cursor := argument bytes 4 }.raise .locate .success
  else chip.raise .locate .missing

def executeRead (chip : Chip) (bytes : List UInt8) : Chip :=
  match chip.openData? with
  | some data =>
    let left := min (argument bytes 2) (data.length - chip.cursor)
    { chip with readLeft := left }.raise .read (if 0 < left then .readPending else .success)
  | none => chip.raise .read .missing

def executeReadMore (chip : Chip) : Chip :=
  chip.raise .readMore (if 0 < chip.readLeft then .readPending else .success)

def executeWrite (chip : Chip) (bytes : List UInt8) : Chip :=
  if chip.openFile.isSome then
    { chip with writeLeft := argument bytes 2 }.raise .write .writePending
  else chip.raise .write .missing

/-- Stores a chunk: all bytes after the opcode and the length. -/
def executeStore (chip : Chip) (bytes : List UInt8) : Chip :=
  let chunk := bytes.drop 2
  let volume :=
    match chip.openFile, chip.openData? with
    | some path, some data => chip.volume.insert path (.file (splice data chunk chip.cursor))
    | _, _ => chip.volume
  { chip with
    volume
    cursor := chip.cursor + chunk.length
    writeLeft := chip.writeLeft - chunk.length }

def executeWriteMore (chip : Chip) : Chip :=
  chip.raise .writeMore (if 0 < chip.writeLeft then .writePending else .success)

/-- Carries out the command whose transaction ended. -/
def complete (chip : Chip) (bytes : List UInt8) : Chip :=
  match bytes.head?.bind Command.ofOpcode? with
  | some .reset => chip.executeReset
  | some .routeInterrupt => chip.executeRoute bytes
  | some .fileName => chip.executeName bytes
  | some .diskConnect => chip.executeConnect
  | some .diskMount => chip.executeMount
  | some .fileOpen => chip.executeOpen
  | some .fileCreate => chip.executeCreate
  | some .dirCreate => chip.executeCreateDirectory
  | some .fileErase => chip.executeErase
  | some .fileClose => chip.executeClose
  | some .locate => chip.executeLocate bytes
  | some .read => chip.executeRead bytes
  | some .readMore => chip.executeReadMore
  | some .write => chip.executeWrite bytes
  | some .writeBuffer => chip.executeStore bytes
  | some .writeMore => chip.executeWriteMore
  | some .version | some .selfTest | some .fileSize | some .usbMode | some .status
  | some .readBuffer | none => chip

end DiskBridge.Chip

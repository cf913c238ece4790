import DiskBridge.Codec.Basic
import DiskBridge.Drive.Basic

/-!
# Files and directories

Operations on the name that is selected on the chip, and on the file that is open.
-/

namespace DiskBridge

/-- What an open found. The chip reports a directory by a status of its own; both are success. -/
structure Opened where
  isDirectory : Bool
  deriving DecidableEq

namespace Drive

open Dialogue

/-- Opens the selected file or directory. -/
def openSelected (drive : Drive) : Operation Opened := do
  say .trace "Ch376::open"
  match ← drive.commandStatus .fileOpen [] with
  | .success => return ⟨false⟩
  | .openedDirectory => return ⟨true⟩
  | status =>
    say .debug ("Open failed with status " ++ status.text)
    Operation.fail (.unexpectedStatus .fileOpen status)

/-- Creates a file of the selected name, in place of any file of that name, and leaves it open.
The chip gives a new file one byte. -/
def createFile (drive : Drive) : Operation Unit := do
  say .trace "Ch376::create_file"
  drive.simpleCommand .fileCreate []
  let opened ← drive.openSelected
  if opened.isDirectory then say .warn "Created a file, but opened a directory"

/-- Creates a directory of the selected name and enters it. -/
def createDirectory (drive : Drive) : Operation Unit := do
  say .trace "Ch376::create_dir"
  drive.simpleCommand .dirCreate []

/-- Erases the selected file or empty directory. -/
def erase (drive : Drive) : Operation Unit := do
  say .trace "Ch376::delete"
  drive.simpleCommand .fileErase []

/-- Closes the open file and stores its size on the disk. -/
def close (drive : Drive) : Operation Unit := do
  say .trace "Ch376::close"
  drive.simpleCommand .fileClose [Command.storeSize]

/-- Moves the cursor of the open file to `offset` bytes from its start. -/
def seek (drive : Drive) (offset : UInt32) : Operation Unit := do
  say .trace ("Ch376::set_cursor " ++ toString offset)
  drive.simpleCommand .locate (littleEndian 4 offset.toNat)

/-- The size of the open file. -/
def fileSize : Operation UInt32 := do
  let bytes ← Bus.transaction do
    Bus.send [Command.fileSize.opcode, Command.openFileSize]
    Bus.receiveMany 4
  let size := UInt32.ofNat (ofLittleEndian bytes)
  say .trace ("File size " ++ toString size)
  return size

end Drive

end DiskBridge

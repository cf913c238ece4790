import DiskBridge.Drive.Node
import DiskBridge.Text.Utf8

/-!
# Paths

The chip knows one name at a time. A path `/LOG/2024/DATA.TXT` is walked by selecting and opening
`/LOG` and `2024`, then selecting `DATA.TXT`. The separator before the first name tells the chip
to start at the root, and counts as part of that name. Names are sent as the path is read, so a
fault further on shows only after the directories before it were entered.
-/

namespace DiskBridge.Drive

open Dialogue

/-- The byte between the names of a path. -/
def separator : UInt8 := 0x2f

/-- Sends one name to the chip. -/
def sendName (name : List UInt8) : Operation Unit := do
  say .trace ("Ch376::set_file_name " ++ Utf8.decodeLossy name)
  Bus.transaction (Bus.send (Command.fileName.opcode :: name ++ [Command.nameEnd]))

/-- Selects and opens a directory on the way. A status that is no success becomes a fault of the
path; any other failure stays as it is. -/
def enterDirectory (drive : Drive) (name : List UInt8) : Operation Unit := do
  sendName name
  match ← drive.openSelected.attempt with
  | .ok _ => say .trace ("Entered " ++ Utf8.decodeLossy name)
  | .error (.error (.unexpectedStatus _ status)) =>
    let segment := Utf8.decodeLossy name
    say .debug ("Failed to open directory " ++ segment ++ ": " ++ status.text)
    Operation.fail (.path (.directoryOpen segment status))
  | .error stop => failed stop

/-- Walks what is left of `path`, `name` being the part of a name read so far. -/
def walk (drive : Drive) (path : String) : (name rest : List UInt8) → Operation Unit
  | name, [] => do
    if name.isEmpty then
      say .warn ("Path " ++ path ++ " has no leaf name")
      Operation.fail (.path (.missingLeaf path))
    else sendName name
  | name, byte :: rest => do
    if byte = separator then
      drive.enterDirectory name
      drive.walk path [] rest
    else if name.length = Command.maxName then
      let segment := (Utf8.decodeLossy name).push (Char.ofNat byte.toNat)
      let error := PathError.nameTooLong segment (UInt64.ofNat Command.maxName)
      say .warn error.message
      Operation.fail (.path error)
    else drive.walk path (name ++ [byte]) rest

/-- Opens every directory on the way to `path` and selects its last name. -/
def selectPath (drive : Drive) (path : String) : Operation Unit := do
  say .trace ("Ch376::select_path " ++ path)
  match Utf8.encode path with
  | [] => Operation.fail (.path .empty)
  | byte :: rest =>
    if byte = separator then drive.walk path [separator] rest
    else
      say .warn ("Path " ++ path ++ " is not absolute")
      Operation.fail (.path (.notAbsolute path))

def openPath (drive : Drive) (path : String) : Operation Opened := do
  drive.selectPath path
  drive.openSelected

/-- Creates the file at `path`, in place of any file there, and leaves it open. -/
def createPath (drive : Drive) (path : String) : Operation Unit := do
  drive.selectPath path
  drive.createFile

/-- Creates the directory at `path`. -/
def createDirectoryPath (drive : Drive) (path : String) : Operation Unit := do
  drive.selectPath path
  drive.createDirectory

/-- Erases the file or empty directory at `path`. -/
def erasePath (drive : Drive) (path : String) : Operation Unit := do
  drive.selectPath path
  drive.erase

end DiskBridge.Drive

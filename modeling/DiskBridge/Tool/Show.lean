import DiskBridge.Tool.Basic

/-!
# Showing a file

Prints a file of the disk: its size is asked for first, then it is read in blocks.
-/

namespace DiskBridge.Tool

open Dialogue

/-- How much of a file is read at a time. -/
def blockSize : Nat := 4096

/-- Prints what is left of a file, block by block. A block that comes short ends it. -/
def showBlocks (drive : Drive) (left : Nat) : Program Unit := do
  if _ : left = 0 then return
  else
    let size := min left blockSize
    let block ← perform ((drive.read size).mapFailure Cut.stop)
    print block
    if block.length < size then return
    else showBlocks drive (left - size)
  termination_by left
  decreasing_by
    have : 0 < blockSize := by decide
    omega

/-- Brings the disk up and prints the file at `path`. -/
def showFile (drive : Drive) (path : String) : Program Unit := do
  perform drive.bringUp
  let opened ← perform (drive.openPath path)
  if opened.isDirectory then failed (.tool (path ++ " is a directory"))
  else
    let size ← perform Drive.fileSize
    showBlocks drive size.toNat
    perform drive.close

end DiskBridge.Tool

import DiskBridge.Tool.Basic

/-!
# Storing a file

Writes data to a file of the disk in place of any file there. The chip cannot shorten a file, so
the old one is erased first.
-/

namespace DiskBridge.Tool

open Dialogue

/-- Writes data in pieces of the largest size; the result counts the bytes the chip took. -/
def storePieces (drive : Drive) (data : List UInt8) (written : Nat) : Operation Nat := do
  if _ : data = [] then return written
  else
    let count ← drive.write (data.take Command.maxTransfer)
    storePieces drive (data.drop Command.maxTransfer) (written + count)
  termination_by data.length
  decreasing_by
    have : 0 < data.length := List.length_pos_iff.mpr (by assumption)
    have : 0 < Command.maxTransfer := by decide
    simp only [List.length_drop]
    omega

/-- What stands before the last separator of a path, if that is something. -/
def parentOf? (path : String) : Option String :=
  let reversed := path.toList.reverse
  let parent := (reversed.dropWhile (· ≠ '/')).tail.reverse
  if parent.isEmpty then none else some (String.ofList parent)

/-- Erases a file. That there is none is no failure. -/
def eraseAnyway (drive : Drive) (path : String) : Operation Unit := do
  match ← (drive.erasePath path).attempt with
  | .error .stalled => failed .stalled
  | .error (.error _) | .ok () => return

/-- Stores `data` at `path`, with `parents` after creating the directory it lies in; the result
counts the bytes the chip took. -/
def store (drive : Drive) (path : String) (data : List UInt8) (parents : Bool) :
    Operation Nat := do
  if parents then
    match parentOf? path with
    | some parent => drive.createDirectoryPath parent
    | none => pure ()
  eraseAnyway drive path
  drive.createPath path
  let written ← storePieces drive data 0
  drive.close
  return written

/-- Brings the disk up, stores `data` at `path` and says how much was written. -/
def storeFile (drive : Drive) (path : String) (data : List UInt8) (parents : Bool) :
    Program Unit := do
  perform drive.bringUp
  let written ← perform (store drive path data parents)
  printLine (s!"Wrote {written} bytes to " ++ path)

end DiskBridge.Tool

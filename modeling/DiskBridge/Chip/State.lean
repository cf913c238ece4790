import DiskBridge.Command
import DiskBridge.Status
import DiskBridge.Volume

/-!
# The chip

The state of a bridge chip with a disk: what it holds of the transaction in progress, the status
it has to report, and the disk with its current directory, selected name and open file.

Besides what the bus does to it, a chip can be prepared from outside: a disk can be plugged in,
connection reports held back, statuses queued or put in place of computed ones, and the sizes of
chunks prescribed.
-/

namespace DiskBridge

structure Chip where
  /-- A disk is plugged in. -/
  attached : Bool
  mounted : Bool := false
  /-- The chip has yet to report the connection of the disk. -/
  armed : Bool := false
  /-- How many more connections may be reported, if limited. -/
  connectLimit : Option Nat := none
  /-- Statuses to report ahead of the next connection. -/
  queued : List UInt8 := []
  /-- The data line follows the interrupt while the chip is deselected. -/
  interruptRouted : Bool := false
  inTransaction : Bool := false
  /-- A transaction was begun inside another, or a byte sent or a transaction ended outside
  one. -/
  overlapped : Bool := false
  /-- The bytes of the transaction in progress. -/
  received : List UInt8 := []
  /-- The bytes of every transaction that ended, the newest first. -/
  transactions : List (List UInt8) := []
  /-- What the chip sends next. -/
  responses : List UInt8 := []
  /-- The status that raises the interrupt. -/
  pending : Option UInt8 := none
  /-- Statuses, by opcode, to report in place of computed ones, the oldest first. -/
  injected : List (UInt8 × UInt8) := []
  /-- Sizes of the next chunks. -/
  chunkScript : List Nat := []
  volume : Volume := {}
  directory : Path := Volume.root
  selected : Option Path := none
  openFile : Option Path := none
  cursor : Nat := 0
  /-- Bytes of a read still to be handed over. -/
  readLeft : Nat := 0
  /-- Bytes of a write still to be taken. -/
  writeLeft : Nat := 0
  deriving DecidableEq

namespace Chip

instance : Inhabited Chip := ⟨{ attached := true }⟩

/-! ## Preparing a chip -/

def attach (chip : Chip) : Chip := { chip with attached := true }

/-- Allows at most `count` more reports of a connection. -/
def limitConnects (chip : Chip) (count : Nat) : Chip := { chip with connectLimit := some count }

/-- Allows one more report of a connection, if they are limited. -/
def allowConnect (chip : Chip) : Chip :=
  { chip with connectLimit := chip.connectLimit.map (· + 1) }

/-- Reports `status` ahead of the next connection. -/
def queueStatus (chip : Chip) (status : UInt8) : Chip :=
  { chip with queued := chip.queued ++ [status] }

/-- Puts `status` in place of the next one computed for `opcode`. -/
def inject (chip : Chip) (opcode status : UInt8) : Chip :=
  { chip with injected := chip.injected ++ [(opcode, status)] }

/-- Prescribes the sizes of the next chunks. -/
def scriptChunks (chip : Chip) (sizes : List Nat) : Chip :=
  { chip with chunkScript := chip.chunkScript ++ sizes }

def addDirectory (chip : Chip) (path : Path) : Chip :=
  { chip with volume := chip.volume.insert path .directory }

def addFile (chip : Chip) (path : Path) (data : List UInt8) : Chip :=
  { chip with volume := chip.volume.insert path (.file data) }

/-- A new chip with directories and files on its disk, the directories added first. -/
def stocked (attached : Bool) (directories : List Path) (files : List (Path × List UInt8)) :
    Chip :=
  let chip := directories.foldl addDirectory { attached }
  files.foldl (fun chip (path, data) => chip.addFile path data) chip

def clearTransactions (chip : Chip) : Chip := { chip with transactions := [] }

/-! ## Looking at a chip -/

/-- The first byte of every transaction that had one, the oldest first. -/
def opcodes (chip : Chip) : List UInt8 := chip.transactions.reverse.filterMap List.head?

/-- A letter for each thing that holds of the chip: its disk is mounted, the interrupt is routed
to the data line, a transaction is open, transactions have overlapped. -/
def flags (chip : Chip) : String :=
  String.ofList
    ((if chip.mounted then ['m'] else []) ++ (if chip.interruptRouted then ['s'] else [])
      ++ (if chip.inTransaction then ['t'] else []) ++ if chip.overlapped then ['o'] else [])

/-- The contents of the open file. -/
def openData? (chip : Chip) : Option (List UInt8) := chip.openFile.bind chip.volume.file?

end Chip

end DiskBridge

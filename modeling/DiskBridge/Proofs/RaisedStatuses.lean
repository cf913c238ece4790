import DiskBridge.Proofs.ChipTransactions
import Mathlib.Tactic.SplitIfs

/-!
# The status that a command raises

An interrupting command leaves a status pending: the one injected first for its opcode, or else the
one that the chip computes. `computed` is the table of the computed statuses, `due` the status that
is raised in the end, and `pending_complete` says that the chip raises it.
-/

namespace DiskBridge.Chip

open Dialogue

/-- The status that the chip computes for an interrupting command, given all bytes of its
transaction. -/
def computed (chip : Chip) (bytes : List UInt8) : Command → Status
  | .fileOpen =>
    if chip.volume.isDirectory chip.selectedPath then .openedDirectory
    else if (chip.volume.file? chip.selectedPath).isSome then .success
    else .missing
  | .fileCreate =>
    if chip.volume.isDirectory chip.selectedPath then .nameTaken
    else if chip.volume.inDirectory chip.selectedPath then .success
    else .missing
  | .dirCreate =>
    if (chip.volume.file? chip.selectedPath).isSome then .nameTaken
    else if chip.volume.inDirectory chip.selectedPath then .success
    else .missing
  | .fileErase =>
    if chip.selectedPath ≠ Volume.root && chip.volume.contains chip.selectedPath &&
      !chip.volume.hasBelow chip.selectedPath then .success
    else .missing
  | .locate => if chip.openFile.isSome then .success else .missing
  | .read =>
    match chip.openData? with
    | some data =>
      if 0 < argument bytes 2 ∧ chip.cursor < data.length then .readPending else .success
    | none => .missing
  | .readMore => if 0 < chip.readLeft then .readPending else .success
  | .write => if chip.openFile.isSome then .writePending else .missing
  | .writeMore => if 0 < chip.writeLeft then .writePending else .success
  | .diskConnect | .diskMount => if chip.attached then .success else .diskGone
  | _ => .success

/-- The status injected first for a command. -/
def forced? (chip : Chip) (command : Command) : Option UInt8 :=
  (chip.injected.find? fun entry => entry.1 = command.opcode).map Prod.snd

/-- The status that an interrupting command raises: the one injected first, else the computed
one. -/
def due (chip : Chip) (command : Command) (bytes : List UInt8) : UInt8 :=
  (chip.forced? command).getD (chip.computed bytes command).byte

theorem takeInjected_fst (opcode : UInt8) (injected : List (UInt8 × UInt8)) :
    (takeInjected opcode injected).1 =
      (injected.find? fun entry => entry.1 = opcode).map Prod.snd := by
  induction injected with
  | nil => rfl
  | cons entry rest ih =>
    unfold takeInjected
    by_cases hk : entry.1 = opcode
    · simp [hk]
    · simp [hk, ih]

theorem pending_raise (chip : Chip) (command : Command) (status : Status) :
    (chip.raise command status).pending = some ((chip.forced? command).getD status.byte) := by
  show some ((takeInjected command.opcode chip.injected).1.getD status.byte) = _
  rw [takeInjected_fst]
  rfl

/-- **Every interrupting command raises the status that is due for it.** -/
theorem pending_complete {command : Command} (hc : command.isInterrupting = true) (chip : Chip)
    (arguments : List UInt8) :
    (chip.complete (command.opcode :: arguments)).pending =
      some (chip.due command (command.opcode :: arguments)) := by
  rw [complete, List.head?_cons, Option.bind_some, Command.ofOpcode?_opcode]
  cases command with
  | version | reset | selfTest | routeInterrupt | fileSize | usbMode | status | readBuffer
  | writeBuffer | fileName => cases hc
  | diskConnect | diskMount | fileClose | readMore | writeMore => exact pending_raise _ _ _
  | fileOpen | fileCreate | dirCreate | fileErase | locate | write =>
    -- The chip and the table choose between the same statuses.
    simp only [executeOpen, executeCreate, executeCreateDirectory, executeErase, executeLocate,
      executeWrite, due, computed]
    split_ifs <;> exact pending_raise _ _ _
  | read =>
    have hl (data : List UInt8) : 0 < min (argument (Command.read.opcode :: arguments) 2)
        (data.length - chip.cursor) ↔
        0 < argument (Command.read.opcode :: arguments) 2 ∧ chip.cursor < data.length := by
      rw [Nat.lt_min]
      omega
    simp only [executeRead, due, computed]
    cases chip.openData? with
    | none => exact pending_raise _ _ _
    | some data =>
      simp only [hl]
      exact pending_raise _ _ _

end DiskBridge.Chip

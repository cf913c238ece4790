import DiskBridge.Drive.Path
import DiskBridge.Proofs.PathResolution

/-!
# Operations as steps of the core

Of all that a chip holds, only its core decides how an operation on the disk ends. `Takes` says that
a dialogue takes every chip with one core to a chip with another.

1. Dialogues in sequence take the steps of their parts (`Takes.bind`, `Takes.bind_error`).
2. A command whose status the drive learns takes the step of the command (`takes_learn`), and so do
   the commands that have to succeed (`takes_simpleCommand`).
3. The operations on names and on the selected path take one step each, or two.
-/

namespace DiskBridge.Chip

open Dialogue Utf8

/-- The path that is selected. -/
def Core.path (core : Core) : Path := core.selected.getD []

/-- A dialogue takes every chip with the core `before` to one with the core `after`, with the given
result, and leaves no transaction open. -/
def Takes {ε α : Type} (dialogue : Dialogue Bus ε α) (before : Core) (result : Except ε α)
    (after : Core) : Prop :=
  ∀ chip : Chip, chip.core = before → ∃ last, dialogue.outcome device chip = (result, last) ∧
    last.core = after ∧ (chip.inTransaction = false → last.inTransaction = false)

section Takes

variable {ε δ α β : Type} {before middle after : Core}

theorem takes_done (value : α) (core : Core) :
    Takes (done value : Dialogue Bus ε α) core (.ok value) core :=
  fun chip hc => ⟨chip, rfl, hc, id⟩

theorem takes_failed (cause : ε) (core : Core) :
    Takes (failed cause : Dialogue Bus ε α) core (.error cause) core :=
  fun chip hc => ⟨chip, rfl, hc, id⟩

@[simp] theorem takes_say_bind {level : Level} {text : String} {next : Unit → Dialogue Bus ε α}
    {result : Except ε α} :
    Takes (say level text >>= next) before result after ↔ Takes (next ()) before result after :=
  Iff.rfl

theorem Takes.bind {first : Dialogue Bus ε α} {next : α → Dialogue Bus ε β} {value : α}
    {result : Except ε β} (hf : Takes first before (.ok value) middle)
    (hn : Takes (next value) middle result after) :
    Takes (first >>= next) before result after := by
  intro chip hc
  obtain ⟨half, ho, hm, hi⟩ := hf chip hc
  obtain ⟨last, hl, ha, hj⟩ := hn half hm
  exact ⟨last, (outcome_bind_ok ho).trans hl, ha, hj ∘ hi⟩

theorem Takes.bind_error {first : Dialogue Bus ε α} {next : α → Dialogue Bus ε β} {cause : ε}
    (hf : Takes first before (.error cause) after) :
    Takes (first >>= next) before (.error cause) after := by
  intro chip hc
  obtain ⟨last, ho, ha, hi⟩ := hf chip hc
  exact ⟨last, outcome_bind_error ho, ha, hi⟩

theorem Takes.attempt {dialogue : Dialogue Bus ε α} {result : Except ε α}
    (h : Takes dialogue before result after) :
    Takes (dialogue.attempt : Dialogue Bus δ (Except ε α)) before (.ok result) after := by
  intro chip hc
  obtain ⟨last, ho, ha, hi⟩ := h chip hc
  exact ⟨last, by rw [outcome_attempt, ho], ha, hi⟩

theorem Takes.mapFailure {dialogue : Dialogue Bus ε α} {result : Except ε α}
    (h : Takes dialogue before result after) (restate : ε → δ) :
    Takes (dialogue.mapFailure restate) before (result.mapError restate) after := by
  intro chip hc
  obtain ⟨last, ho, ha, hi⟩ := h chip hc
  exact ⟨last, by rw [outcome_mapFailure, ho], ha, hi⟩

end Takes

/-! ## Commands -/

/-- A command takes every chip with the core `before` to one with the core `after`, and raises a
status. -/
def Raises (command : Command) (arguments : List UInt8) (before : Core) (status : Status)
    (after : Core) : Prop :=
  ∀ chip : Chip, chip.core = before → ∃ next : Chip,
    chip.complete (command.opcode :: arguments) = next.raise command status ∧ next.core = after

section Command

variable {drive : Drive} (hp : drive.config.statusMode = .interrupt → 0 < drive.patience)
  {command : Command} {arguments : List UInt8} {before after : Core} {status : Status}
  (hc : command.isInterrupting = true) (hs : Status.ofByte status.byte = status)
  (hx : Raises command arguments before status after) (hj : after.injected = [])

include hp hc hs hx hj

/-- The drive learns the status that a command raises. -/
theorem takes_learn :
    Takes (Drive.sendCommand command arguments >>= fun _ => drive.status) before (.ok status)
      after := by
  intro chip hb
  obtain ⟨next, hr, rfl⟩ := hx chip.settled hb
  exact ⟨_, outcome_raised hp hc hs hr (unforced_of_plain hj command), core_reported _ _,
    fun _ => inTransaction_reported _ _⟩

theorem takes_commandStatus :
    Takes (drive.commandStatus command arguments) before (.ok status) after := by
  rw [Drive.commandStatus, ← bind_assoc]
  exact (takes_learn hp hc hs hx hj).bind (takes_done status after)

/-- A command that has to succeed does so exactly if it raises the status of success. -/
theorem takes_simpleCommand :
    Takes (drive.simpleCommand command arguments) before
      (if status = .success then .ok () else .error (.error (.unexpectedStatus command status)))
      after := by
  rw [Drive.simpleCommand]
  refine (takes_commandStatus hp hc hs hx hj).bind ?_
  rw [Drive.expectStatus]
  split
  · exact takes_done () after
  · exact takes_failed _ after

end Command

/-! ## Names and the selected path -/

/-- A name that is sent is selected. -/
theorem takes_sendName {name : List Char} (hn : '\x00' ∉ name) (core : Core) :
    Takes (Drive.sendName (encodeChars name)) core (.ok ())
      { core with selected := some (resolveName core.directory name) } := by
  rintro chip rfl
  exact ⟨_, Drive.outcome_sendName hn chip, rfl, fun _ => rfl⟩

section Selected

variable {drive : Drive} (hp : drive.config.statusMode = .interrupt → 0 < drive.patience)
  {core : Core} (hj : core.injected = [])

include hp hj

/-- A directory that is opened is entered. -/
theorem takes_open_directory (hd : core.volume.isDirectory core.path = true) :
    Takes drive.openSelected core (.ok ⟨true⟩)
      { core with directory := core.path, openFile := none } := by
  have hx : Raises .fileOpen [] core .openedDirectory
      { core with directory := core.path, openFile := none } := by
    rintro chip rfl
    exact ⟨{ chip with directory := chip.selectedPath, openFile := none }, if_pos hd, rfl⟩
  rw [Drive.openSelected, takes_say_bind]
  exact (takes_commandStatus hp rfl rfl hx hj).bind (takes_done _ _)

/-- A file that is opened has its cursor at the start. -/
theorem takes_open_file {data : List UInt8} (hd : core.volume.isDirectory core.path = false)
    (hf : core.volume.file? core.path = some data) :
    Takes drive.openSelected core (.ok ⟨false⟩)
      { core with openFile := some core.path, cursor := 0 } := by
  have hx : Raises .fileOpen [] core .success
      { core with openFile := some core.path, cursor := 0 } := by
    rintro chip rfl
    exact ⟨{ chip with openFile := some chip.selectedPath, cursor := 0 },
      (if_neg (Bool.eq_false_iff.1 hd)).trans (if_pos (Option.isSome_of_mem hf)), rfl⟩
  rw [Drive.openSelected, takes_say_bind]
  exact (takes_commandStatus hp rfl rfl hx hj).bind (takes_done _ _)

theorem takes_open_missing (hr : core.path ≠ Volume.root)
    (hm : core.volume.get? core.path = none) :
    Takes drive.openSelected core (.error (.error (.unexpectedStatus .fileOpen .missing)))
      core := by
  have hd : ¬core.volume.isDirectory core.path = true := by simp [Volume.isDirectory, hr, hm]
  have hf : ¬(core.volume.file? core.path).isSome = true := by simp [Volume.file?, hm]
  have hx : Raises .fileOpen [] core .missing core := by
    rintro chip rfl
    exact ⟨chip, (if_neg hd).trans (if_neg hf), rfl⟩
  rw [Drive.openSelected, takes_say_bind]
  exact (takes_commandStatus hp rfl rfl hx hj).bind (takes_failed _ _)

/-- A file is created in a directory, and left open at its start. -/
theorem takes_create (hd : core.volume.isDirectory core.path = false)
    (hi : core.volume.inDirectory core.path = true) :
    Takes drive.createFile core (.ok ())
      { core with
        volume := core.volume.insert core.path (.file [0])
        openFile := some core.path
        cursor := 0 } := by
  have hx : Raises .fileCreate [] core .success
      { core with
        volume := core.volume.insert core.path (.file [0])
        openFile := some core.path
        cursor := 0 } := by
    rintro chip rfl
    exact ⟨{ chip with
      volume := chip.volume.insert chip.selectedPath (.file [0])
      openFile := some chip.selectedPath
      cursor := 0 }, (if_neg (Bool.eq_false_iff.1 hd)).trans (if_pos hi), rfl⟩
  have hg : (core.volume.insert core.path (.file [0])).get? core.path = some (.file [0]) := by
    rw [Volume.get?_insert, if_pos rfl]
  have hr : core.path ≠ Volume.root := by
    intro hr
    rw [Volume.isDirectory, hr] at hd
    cases hd
  have hd' : (core.volume.insert core.path (.file [0])).isDirectory core.path = false := by
    simp [Volume.isDirectory, hr, hg]
  have hf' : (core.volume.insert core.path (.file [0])).file? core.path = some [0] := by
    simp [Volume.file?, hg]
  rw [Drive.createFile, takes_say_bind]
  refine (takes_simpleCommand hp rfl rfl hx hj).bind (.bind (takes_open_file hp ?_ hd' hf') ?_)
  · exact hj
  · exact takes_done () _

/-- No file is created in place of a directory. -/
theorem takes_create_taken (hd : core.volume.isDirectory core.path = true) :
    Takes drive.createFile core (.error (.error (.unexpectedStatus .fileCreate .nameTaken)))
      core := by
  have hx : Raises .fileCreate [] core .nameTaken core := by
    rintro chip rfl
    exact ⟨chip, if_pos hd, rfl⟩
  rw [Drive.createFile, takes_say_bind]
  exact (takes_simpleCommand hp rfl rfl hx hj).bind_error

/-- A directory is created in a directory, where no file is in its place. -/
theorem takes_createDirectory (hf : core.volume.file? core.path = none)
    (hi : core.volume.inDirectory core.path = true) :
    Takes drive.createDirectory core (.ok ())
      { core with
        volume := core.volume.insert core.path .directory
        directory := core.path } := by
  have hn : ¬(core.volume.file? core.path).isSome = true := by simp [hf]
  have hx : Raises .dirCreate [] core .success
      { core with
        volume := core.volume.insert core.path .directory
        directory := core.path } := by
    rintro chip rfl
    exact ⟨{ chip with
      volume := chip.volume.insert chip.selectedPath .directory
      directory := chip.selectedPath },
      (if_neg hn).trans (if_pos hi), rfl⟩
  rw [Drive.createDirectory, takes_say_bind]
  exact takes_simpleCommand hp rfl rfl hx hj

theorem takes_createDirectory_taken {data : List UInt8}
    (hf : core.volume.file? core.path = some data) :
    Takes drive.createDirectory core
      (.error (.error (.unexpectedStatus .dirCreate .nameTaken))) core := by
  have hx : Raises .dirCreate [] core .nameTaken core := by
    rintro chip rfl
    exact ⟨chip, if_pos (Option.isSome_of_mem hf), rfl⟩
  rw [Drive.createDirectory, takes_say_bind]
  exact takes_simpleCommand hp rfl rfl hx hj

/-- The open file is closed, if there is one. -/
theorem takes_close : Takes drive.close core (.ok ()) { core with openFile := none } := by
  have hx : Raises .fileClose [Command.storeSize] core .success { core with openFile := none } := by
    rintro chip rfl
    exact ⟨{ chip with openFile := none }, rfl, rfl⟩
  rw [Drive.close, takes_say_bind]
  exact takes_simpleCommand hp rfl rfl hx hj

section Erase

variable {erasable : Bool}
  (he : (core.path ≠ Volume.root && core.volume.contains core.path &&
    !core.volume.hasBelow core.path) = erasable)

include he

/-- What is on the disk with nothing below it is erased. -/
theorem takes_erase (ht : erasable = true) :
    Takes drive.erase core (.ok ())
      { core with
        volume := core.volume.erase core.path
        openFile := if core.openFile = some core.path then none else core.openFile } := by
  have hx : Raises .fileErase [] core .success
      { core with
        volume := core.volume.erase core.path
        openFile := if core.openFile = some core.path then none else core.openFile } := by
    rintro chip rfl
    exact ⟨{ chip with
      volume := chip.volume.erase chip.selectedPath
      openFile := if chip.openFile = some chip.selectedPath then none else chip.openFile },
      if_pos (he.trans ht), rfl⟩
  rw [Drive.erase, takes_say_bind]
  exact takes_simpleCommand hp rfl rfl hx hj

theorem takes_erase_missing (ht : erasable = false) :
    Takes drive.erase core (.error (.error (.unexpectedStatus .fileErase .missing))) core := by
  have hx : Raises .fileErase [] core .missing core := by
    rintro chip rfl
    exact ⟨chip, if_neg (Bool.eq_false_iff.1 (he.trans ht)), rfl⟩
  rw [Drive.erase, takes_say_bind]
  exact takes_simpleCommand hp rfl rfl hx hj

end Erase

end Selected

end DiskBridge.Chip

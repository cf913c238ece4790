import DiskBridge.Proofs.BringUpScript

/-!
# Bring-up recovers the chip

Whatever state the chip is in, outside a transaction and with a disk that it may report twice more,
a bring-up ends with the disk mounted.

1. `Restored` is what a reset puts in order and everything after it leaves alone
   (`outcome_initialise`).
2. An armed chip raises its interrupt at the first poll (`poll_queued`, `poll_armed`), with a queued
   status if there is one. So a wait for a connection takes at most one status more than are queued
   (`outcome_awaitConnect`), and at most one of the reports that the chip may still make.
3. A mode arms the chip again (`outcome_setUsbMode_accepted`), so that the second wait ends as the
   first does. By then no status is pending that could be taken for that of a command on the disk
   (`outcome_onDisk`).

`bringUp_recovers` puts these together.
-/

namespace DiskBridge.Chip

open Dialogue

/-! ## What a bring-up puts in order -/

/-- The chip is idle with nothing pending, as a reset leaves it, its interrupt is routed, and it has
kept its disk and whether transactions overlapped from the chip `before`. -/
structure Restored (before chip : Chip) : Prop where
  idle : chip.inTransaction = false
  quiet : chip.pending = none
  routed : chip.interruptRouted = true
  directory : chip.directory = Volume.root
  selected : chip.selected = none
  openFile : chip.openFile = none
  attached : chip.attached = before.attached
  overlapped : chip.overlapped = before.overlapped
  volume : chip.volume = before.volume
  injected : chip.injected = before.injected

theorem overlapped_settled {chip : Chip} (h : chip.inTransaction = false) :
    chip.settled.overlapped = chip.overlapped := by
  show (chip.overlapped || chip.inTransaction) = chip.overlapped
  rw [h, Bool.or_false]

section Restored

variable {before chip : Chip} (h : Restored before chip)

include h

theorem Restored.unforced {command : Command} (hu : before.Unforced command) :
    chip.Unforced command := by
  intro status
  rw [h.injected]
  exact hu status

theorem Restored.overlapped_settled : chip.settled.overlapped = before.overlapped :=
  (Chip.overlapped_settled h.idle).trans h.overlapped

/-- Reading the status that a poll brings up puts nothing out of order. -/
theorem Restored.polled {raised : Bool} {next : Chip} (hq : chip.poll = (raised, next)) :
    Restored before next.acknowledged := by
  have hn : next = chip.poll.2 := by rw [hq]
  subst hn
  have ho := h.overlapped_settled
  unfold poll
  split
  · split
    · exact { h with idle := rfl, quiet := rfl, overlapped := ho }
    · split <;> exact { h with idle := rfl, quiet := rfl, overlapped := ho }
  · exact { h with idle := rfl, quiet := rfl, overlapped := ho }

end Restored

/-! ## Modes -/

/-- The chip after it accepted a mode. -/
def switched (chip : Chip) (mode : UsbMode) : Chip :=
  { chip.settled with
    armed := chip.armed || (mode = .quiet || mode = .busReset)
    transactions := [Command.usbMode.opcode, mode.byte, Command.filler] :: chip.transactions }

theorem Restored.switched {before chip : Chip} (h : Restored before chip) (mode : UsbMode) :
    Restored before (chip.switched mode) :=
  { h with idle := rfl, overlapped := h.overlapped_settled }

/-- A mode for which no status is injected is accepted. -/
theorem outcome_setUsbMode_accepted {chip : Chip} (h : chip.Unforced .usbMode) (drive : Drive)
    (mode : UsbMode) :
    (drive.setUsbMode mode).outcome device chip = (.ok (), chip.switched mode) := by
  have hu : (chip.addressed [Command.usbMode.opcode, mode.byte]).Unforced .usbMode := h
  have ho := outcome_switch drive chip mode
  simp only [switchMode, statusFor_unforced hu] at ho
  rw [Drive.setUsbMode, outcome_say_bind, outcome_bind_ok ho]
  cases mode <;> rfl

/-! ## Waiting for a connection -/

section Armed

variable {chip : Chip} (hp : chip.pending = none) (ha : chip.armed = true)
  (hd : chip.attached = true)

include hp ha hd

theorem poll_queued {status : UInt8} {rest : List UInt8} (hq : chip.queued = status :: rest) :
    chip.poll = (true, { chip with queued := rest, pending := some status }) := by
  simp [poll, hp, ha, hd, hq]

theorem poll_armed (hq : chip.queued = []) (hl : chip.connectLimit ≠ some 0) :
    chip.poll = (true,
      { chip with
        connectLimit := chip.connectLimit.map (· - 1)
        armed := false
        pending := some Status.connected.byte }) := by
  simp [poll, hp, ha, hd, hq, hl]

end Armed

/-- A status that the first poll brings up is learnt. -/
theorem outcome_waitStatus {chip next : Chip} {byte : UInt8} (hq : chip.poll = (true, next))
    (hn : next.pending = some byte) (drive : Drive) (hp : 0 < drive.patience) :
    drive.waitStatus.outcome device chip = (.ok (Status.ofByte byte), next.acknowledged) := by
  obtain ⟨patience, hp⟩ := Nat.exists_eq_add_of_lt hp
  have hw : (Drive.awaitInterrupt drive.patience).outcome device chip = (.ok (), next) := by
    rw [hp, Nat.zero_add, Drive.awaitInterrupt, Operation.ofBus, outcome_bind, outcome_mapFailure,
      Bus.poll, outcome_ask]
    simp only [device, hq]
    rfl
  have ho := outcome_pollStatus next
  rw [hn, Option.getD_some] at ho
  rw [Drive.waitStatus, outcome_say_bind, outcome_bind_ok hw, ho]

/-- The reports of a connection that a wait may use up: one at most. -/
def Spends (before after : Option Nat) : Prop := after = before ∨ after = before.map (· - 1)

/-- A wait for a connection ends, after at most one status more than are queued, and always in the
same state. -/
theorem outcome_awaitConnect {before chip : Chip} (h : Restored before chip)
    (hd : before.attached = true) (ha : chip.armed = true) (hl : chip.connectLimit ≠ some 0) :
    ∃ last, (∀ (drive : Drive) (rounds : Nat), 0 < drive.patience → chip.queued.length < rounds →
        (drive.awaitConnect rounds).outcome device chip = (.ok (), last)) ∧
      Restored before last ∧ last.queued.length ≤ chip.queued.length ∧
      Spends chip.connectLimit last.connectLimit := by
  have hd' := h.attached.trans hd
  generalize hq : chip.queued = queue
  -- The queue gets shorter by one with every status that is not the report.
  induction queue generalizing chip with
  | nil =>
    have hb := poll_armed h.quiet ha hd' hq hl
    refine ⟨_, fun drive rounds hp hr => ?_, h.polled hb, Nat.le_of_eq (congrArg _ hq), .inr rfl⟩
    obtain ⟨rounds, rfl⟩ := Nat.exists_eq_add_of_lt hr
    exact outcome_bind_ok (outcome_waitStatus hb rfl drive hp)
  | cons status rest ih =>
    have hb := poll_queued h.quiet ha hd' hq
    have hn := h.polled hb
    by_cases hs : Status.ofByte status = .connected
    · refine ⟨_, fun drive rounds hp hr => ?_, hn, Nat.le_succ _, .inl rfl⟩
      obtain ⟨rounds, rfl⟩ := Nat.exists_eq_add_of_lt hr
      rw [Drive.awaitConnect, outcome_bind_ok (outcome_waitStatus hb rfl drive hp), if_pos hs]
      rfl
    · obtain ⟨last, ho, hr, hc, hu⟩ := ih hn ha hl hd' rfl
      refine ⟨last, fun drive rounds hp hr => ?_, hr, Nat.le_succ_of_le hc, hu⟩
      obtain ⟨rounds, rfl⟩ := Nat.exists_eq_add_of_lt hr
      rw [Drive.awaitConnect, outcome_bind_ok (outcome_waitStatus hb rfl drive hp), if_neg hs,
        outcome_say_bind]
      exact ho drive _ hp (by rw [List.length_cons]; omega)

/-! ## The disk -/

/-- A command that needs the disk and nothing else succeeds. -/
theorem outcome_onDisk {command : Command} (hc : command.isInterrupting = true) {chip after : Chip}
    (hx : chip.settled.complete [command.opcode] = after.raise command .success)
    (hu : after.Unforced command) {drive : Drive} (hp : 0 < drive.patience) :
    (drive.simpleCommand command []).outcome device chip =
      (.ok (), after.reported [command.opcode]) := by
  have ho := outcome_raised (fun _ => hp) hc rfl hx hu
  rw [Drive.simpleCommand, Drive.commandStatus, ← bind_assoc, outcome_bind_ok (outcome_bind_ok ho)]
  rfl

section Disk

variable {before chip : Chip} (h : Restored before chip) (hd : before.attached = true)

include h hd

theorem Restored.diskStatus : chip.settled.diskStatus = .success :=
  if_pos (h.attached.trans hd)

theorem outcome_diskConnect (hu : before.Unforced .diskConnect) :
    ∃ last, (∀ drive : Drive, 0 < drive.patience →
        (drive.simpleCommand .diskConnect []).outcome device chip = (.ok (), last)) ∧
      Restored before last := by
  have hx : chip.settled.complete [Command.diskConnect.opcode] =
      chip.settled.raise .diskConnect .success := by
    show chip.settled.raise .diskConnect chip.settled.diskStatus = _
    rw [h.diskStatus hd]
  exact ⟨_, fun drive hp => outcome_onDisk rfl hx (h.unforced hu) hp,
    { h with
      idle := rfl
      quiet := rfl
      overlapped := (overlapped_settled rfl).trans h.overlapped_settled }⟩

/-- The disk is mounted. -/
theorem outcome_diskMount (hu : before.Unforced .diskMount) :
    ∃ last, (∀ drive : Drive, 0 < drive.patience →
        (drive.simpleCommand .diskMount []).outcome device chip = (.ok (), last)) ∧
      Restored before last ∧ last.mounted = true := by
  have hu' := h.unforced hu
  let mounted : Chip := { chip.settled with mounted := true }
  have hx : chip.settled.complete [Command.diskMount.opcode] =
      mounted.raise .diskMount .success := by
    have hm : mounted.Unforced .diskMount := hu'
    have hs : chip.settled.Unforced .diskMount := hu'
    show chip.settled.executeMount = _
    rw [executeMount, h.diskStatus hd, raise_unforced hs, raise_unforced hm]
    rfl
  exact ⟨_, fun drive hp => outcome_onDisk rfl hx hu' hp,
    { h with
      idle := rfl
      quiet := rfl
      overlapped := (overlapped_settled rfl).trans h.overlapped_settled }, rfl⟩

end Disk

/-! ## The whole bring-up -/

/-- The first part of a bring-up puts the chip in order and arms it. -/
theorem outcome_initialise {chip : Chip} (h : chip.inTransaction = false)
    (hu : chip.Unforced .usbMode) :
    ∃ last, (∀ drive : Drive, drive.initialise.outcome device chip = (.ok (), last)) ∧
      Restored chip last ∧ last.armed = true ∧ last.queued = chip.queued ∧
      last.connectLimit = chip.connectLimit := by
  let route := [Command.routeInterrupt.opcode, Command.routeSelector, Command.routeEnable]
  let routed := (chip.carryOut [Command.reset.opcode]).carryOut route
  have hr (drive : Drive) :
      drive.reset.outcome device chip = (.ok (), chip.carryOut [Command.reset.opcode]) :=
    outcome_bind_ok (outcome_sendCommand (quiet_of_unanswered (by decide)) chip [])
  have hq : Quiet Command.routeInterrupt.opcode := quiet_of_unanswered (by decide)
  have hi : Drive.routeInterrupt.outcome device (chip.carryOut [Command.reset.opcode]) =
      (.ok (), routed) := outcome_sendCommand hq _ [Command.routeSelector, Command.routeEnable]
  have hs : Restored chip routed :=
    ⟨rfl, rfl, rfl, rfl, rfl, rfl, rfl,
      (overlapped_settled rfl).trans (overlapped_settled h), rfl, rfl⟩
  refine ⟨routed.switched .quiet, fun drive => ?_, hs.switched .quiet, rfl, rfl, rfl⟩
  rw [Drive.initialise, outcome_say_bind, outcome_bind_ok (hr drive), outcome_bind_ok hi]
  exact outcome_setUsbMode_accepted (hs.unforced hu) drive .quiet

/-- The rest of a bring-up mounts the disk, if it may be reported twice more. -/
theorem outcome_connectDisk {before chip : Chip} (h : Restored before chip)
    (hd : before.attached = true) (ha : chip.armed = true)
    (hl : ∀ count, chip.connectLimit = some count → 2 ≤ count)
    (hu : ∀ command ∈ [Command.usbMode, .diskConnect, .diskMount], before.Unforced command) :
    ∃ last, (∀ drive : Drive, chip.queued.length < drive.patience →
        drive.connectDisk.outcome device chip = (.ok (), last)) ∧
      Restored before last ∧ last.mounted = true := by
  have hm := hu .usbMode (by decide)
  have hn : chip.connectLimit ≠ some 0 := fun hz => absurd (hl 0 hz) (by decide)
  obtain ⟨first, hf, hr, hc, hs⟩ := outcome_awaitConnect h hd ha hn
  have hr' : Restored before ((first.switched .active).switched .busReset) :=
    (hr.switched .active).switched .busReset
  have hn' : first.connectLimit ≠ some 0 := by
    rcases hs with hs | hs
    · rwa [hs]
    · rw [hs]
      intro hz
      obtain ⟨count, hz, he⟩ := Option.map_eq_some_iff.1 hz
      have := hl count hz
      omega
  obtain ⟨second, hf', hr', hc', -⟩ := outcome_awaitConnect hr' hd (Bool.or_true _) hn'
  obtain ⟨third, ho, hr'⟩ := outcome_diskConnect hr' hd (hu .diskConnect (by decide))
  obtain ⟨last, ho', hr', hk⟩ := outcome_diskMount hr' hd (hu .diskMount (by decide))
  refine ⟨last, fun drive hp => ?_, hr', hk⟩
  have hp' : 0 < drive.patience := Nat.zero_lt_of_lt hp
  have hw : drive.waitForConnect.outcome device chip = (.ok (), first) := by
    rw [Drive.waitForConnect, outcome_say_bind]
    exact hf drive _ hp' hp
  have hw' : drive.waitForConnect.outcome device ((first.switched .active).switched .busReset) =
      (.ok (), second) := by
    rw [Drive.waitForConnect, outcome_say_bind]
    exact hf' drive _ hp' (Nat.lt_of_le_of_lt hc hp)
  rw [Drive.connectDisk, outcome_say_bind, outcome_bind_ok hw,
    outcome_bind_ok (outcome_setUsbMode_accepted (hr.unforced hm) drive .active),
    outcome_bind_ok (outcome_setUsbMode_accepted ((hr.switched .active).unforced hm) drive
      .busReset),
    outcome_bind_ok hw', outcome_bind_ok (ho drive hp'), outcome_say_bind]
  exact ho' drive hp'

/-- **Recovery.** From every state of a chip with a disk, outside a transaction, with at least two
connections left to report and no status injected for the commands of a bring-up, a bring-up ends
well and mounts the disk. It waits for at most one status more than are queued, and ends in the same
state however much longer it would have waited and however it learns statuses. -/
theorem bringUp_recovers {chip : Chip} (hi : chip.inTransaction = false)
    (hd : chip.attached = true) (hl : ∀ count, chip.connectLimit = some count → 2 ≤ count)
    (hu : ∀ command ∈ [Command.usbMode, .diskConnect, .diskMount], ∀ status,
      (command.opcode, status) ∉ chip.injected) :
    ∃ last : Chip,
      (∀ (drive : Drive) (journal : Journal), chip.queued.length < drive.patience →
        (drive.bringUp.run device chip journal).result = .ok () ∧
          (drive.bringUp.run device chip journal).state = last) ∧
      last.mounted = true ∧ last.interruptRouted = true ∧ last.pending = none ∧
      last.directory = Volume.root ∧ last.selected = none ∧ last.openFile = none ∧
      last.inTransaction = false ∧ last.overlapped = chip.overlapped ∧
      last.volume = chip.volume := by
  obtain ⟨armed, ho, hr, ha, hq, hc⟩ := outcome_initialise hi (hu .usbMode (by decide))
  rw [← hc] at hl
  obtain ⟨last, ho', hr, hm⟩ := outcome_connectDisk hr hd ha hl hu
  refine ⟨last, fun drive journal hp => ?_, hm, hr.routed, hr.quiet, hr.directory, hr.selected,
    hr.openFile, hr.idle, hr.overlapped, hr.volume⟩
  have hb : drive.bringUp.outcome device chip = (.ok (), last) := by
    rw [Drive.bringUp, outcome_say_bind, outcome_bind_ok (ho drive),
      outcome_bind_ok (ho' drive (by rwa [hq]))]
    rfl
  exact run_of_outcome hb journal

/-- A chip in the middle of a write, with a status pending, connections among the statuses that are
queued, and statuses injected for other commands. -/
def amidWrite : Chip where
  attached := true
  armed := true
  connectLimit := some 2
  queued := [0x16, 0x15, 0x00, 0x15, 0x1f]
  overlapped := true
  received := [0x3d]
  responses := [0x07]
  pending := some 0x1e
  injected := [(0x32, 0x42), (0x3d, 0xb1)]
  chunkScript := [3, 0]
  volume := ⟨[(['/', 'A'], .file [1, 2])]⟩
  directory := ['/', 'D']
  selected := some ['/', 'A']
  openFile := some ['/', 'A']
  cursor := 1
  writeLeft := 9

theorem bringUp_recovers_amid_write :
    amidWrite.inTransaction = false ∧ amidWrite.attached = true ∧
      (∀ count, amidWrite.connectLimit = some count → 2 ≤ count) ∧
      (∀ command ∈ [Command.usbMode, .diskConnect, .diskMount], ∀ status,
        (command.opcode, status) ∉ amidWrite.injected) ∧
      ∃ last : Chip,
        (∀ (drive : Drive) (journal : Journal), 5 < drive.patience →
          (drive.bringUp.run device amidWrite journal).result = .ok () ∧
            (drive.bringUp.run device amidWrite journal).state = last) ∧
        last.mounted = true ∧ last.interruptRouted = true ∧ last.pending = none ∧
        last.directory = Volume.root ∧ last.selected = none ∧ last.openFile = none ∧
        last.inTransaction = false ∧ last.overlapped = true ∧
        last.volume = amidWrite.volume := by
  have hl : ∀ count, amidWrite.connectLimit = some count → 2 ≤ count := by
    rintro _ ⟨⟩
    exact Nat.le_refl 2
  have hu : ∀ command ∈ [Command.usbMode, .diskConnect, .diskMount], ∀ status,
      (command.opcode, status) ∉ amidWrite.injected := by
    intro command hc status
    simp only [List.mem_cons, List.not_mem_nil, or_false] at hc
    rcases hc with rfl | rfl | rfl <;> simp [amidWrite, Command.opcode]
  exact ⟨rfl, rfl, hl, hu, bringUp_recovers rfl rfl hl hu⟩

end DiskBridge.Chip

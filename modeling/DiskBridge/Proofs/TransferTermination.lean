import DiskBridge.Proofs.PreparedChip
import DiskBridge.Proofs.StatusModes

/-!
# Transfers come to an end

A drive goes on with a transfer for as long as the chip reports that more follows. The chip cannot
do so for ever: in every round that is not the last, a chunk that was prescribed is used up, or a
byte of what is left is moved, or else the status was injected and is used up.

1. `Core.work` counts what is left of all three, and goes down in every such round (`work_lt`).
2. So by induction over the rounds, a drive with more patience than that does not stall
   (`leads_readChunks_ends`, `leads_writeChunks_ends`), whatever the chip was left with by the
   transfer before (`raises_read_any`, `raises_write_any`).

`transfers_terminate` states it for both status modes.
-/

namespace DiskBridge.Chip

open Dialogue Bus Drive

/-! ## The work that is left -/

/-- What can prolong a transfer of which so many bytes are left. -/
def Core.work (core : Core) (left : Nat) : Nat :=
  core.chunkScript.length + core.injected.length + left

/-- To take an injected status is to use it up. -/
theorem length_takeInjected (opcode : UInt8) (injected : List (UInt8 × UInt8)) :
    (takeInjected opcode injected).2.length + (takeInjected opcode injected).1.toList.length =
      injected.length := by
  induction injected with
  | nil => rfl
  | cons entry rest ih =>
    unfold takeInjected
    by_cases hk : entry.1 = opcode
    · simp [hk]
    · simp only [if_neg hk, List.length_cons]
      omega

theorem Core.length_drawn_le (core : Core) (command : Command) :
    (core.drawn command).injected.length ≤ core.injected.length := by
  have := length_takeInjected command.opcode core.injected
  simp only [Core.drawn]
  omega

/-- A status that was not computed was injected. -/
theorem Core.length_drawn_lt {core : Core} {command : Command} {computed status : Status}
    (hc : Status.ofByte computed.byte ≠ status) (h : core.shown command computed = status) :
    (core.drawn command).injected.length < core.injected.length := by
  have hl := length_takeInjected command.opcode core.injected
  unfold Core.shown at h
  simp only [Core.drawn]
  cases ht : (takeInjected command.opcode core.injected).1 with
  | none =>
    rw [ht] at h
    exact absurd h hc
  | some byte =>
    rw [ht, Option.toList_some, List.length_singleton] at hl
    omega

/-- After a chunk, either less work is left or the drive does not go on. -/
theorem work_lt (before after : Core) {left left' : Nat}
    (hs : after.chunkScript = before.chunkScript.tail) (hj : after.injected = before.injected)
    (hl : left' ≤ left) (hn : before.chunkScript = [] → 0 < left' → left' < left)
    {command : Command} {pending : Status} (hp : .success ≠ pending)
    (h : after.shown command (if 0 < left' then pending else .success) = pending) :
    (after.drawn command).work left' < before.work left := by
  have hle := after.length_drawn_le command
  have hd : (after.drawn command).chunkScript = after.chunkScript := rfl
  rw [hj] at hle
  unfold Core.work
  rw [hd, hs]
  cases hc : before.chunkScript with
  | cons size rest =>
    simp only [List.tail_cons, List.length_cons]
    omega
  | nil =>
    by_cases hz : 0 < left'
    · have := hn hc hz
      simp only [List.tail_nil, List.length_nil]
      omega
    -- Nothing is left, so the chip computed a success.
    · rw [if_neg hz] at h
      have hlt := Core.length_drawn_lt (show Status.ofByte Status.success.byte ≠ pending from hp) h
      rw [hj] at hlt
      simp only [List.tail_nil, List.length_nil]
      omega

/-- A chunk of the size that the chip decides on moves something, if something is left. -/
theorem sub_min_lt {left : Nat} (h : 0 < left - min left Command.maxChunk) :
    left - min left Command.maxChunk < left := by
  have hm : 0 < Command.maxChunk := by decide
  omega

/-! ## Ends that are no stall -/

section Ended

variable {ε α : Type} {view : ε → Stop}

theorem ended_ok_ne {value : α} {stop : Stop} : ended view (.ok value) ≠ some stop :=
  (Option.some_ne_none stop).symm

theorem ended_error_ne {cause : ε} {error : Error} (h : view cause = .error error) :
    ended view (.error cause : Except ε α) ≠ some .stalled := by
  rw [ended, h]
  simp

end Ended

/-! ## The command that begins a transfer -/

/-- A read is for part of what was asked, or for what was left before if no file is open. -/
theorem raises_read_any (core : Core) {size : Nat} (hs : size ≤ Command.maxTransfer) :
    ∃ status left, left ≤ core.readLeft + size ∧
      Raises .read (littleEndian 2 size) core status (core.reading left) := by
  have ha := argument_littleEndian Command.read.opcode
    (show size < 256 ^ 2 from Nat.lt_succ_of_le hs)
  cases hd : core.openFile.bind core.volume.file? with
  | none =>
    refine ⟨.missing, core.readLeft, Nat.le_add_right _ _, ?_⟩
    rintro chip rfl
    have ho : chip.openData? = none := hd
    refine ⟨chip, ?_, rfl⟩
    show chip.executeRead _ = _
    rw [executeRead, ho]
  | some data =>
    let left := min size (data.length - core.cursor)
    refine ⟨if 0 < left then .readPending else .success, left, by omega, ?_⟩
    rintro chip rfl
    have ho : chip.openData? = some data := hd
    refine ⟨{ chip with readLeft := left }, ?_, rfl⟩
    show chip.executeRead _ = _
    simp only [executeRead, ho, ha]
    rfl

/-- A write is for what was asked, or for what was left before if no file is open. -/
theorem raises_write_any (core : Core) {size : Nat} (hs : size ≤ Command.maxTransfer) :
    ∃ status left, left ≤ core.writeLeft + size ∧
      Raises .write (littleEndian 2 size) core status (core.writing left) := by
  by_cases ho : core.openFile.isSome = true
  · exact ⟨.writePending, size, Nat.le_add_left _ _, raises_write ho hs⟩
  · refine ⟨.missing, core.writeLeft, Nat.le_add_right _ _, ?_⟩
    rintro chip rfl
    exact ⟨chip, if_neg ho, rfl⟩

/-! ## Rounds -/

section Rounds

variable {drive : Drive} (hp : 0 < drive.patience)

include hp

theorem leads_writeChunks_ends (rounds : Nat) (bytes : List UInt8) {core : Core}
    (hw : core.work core.writeLeft < rounds) (written chunks : Nat) :
    Leads (drive.writeChunks rounds bytes written chunks) core fun result _ _ =>
      ended id result ≠ some .stalled := by
  induction rounds generalizing bytes core written chunks with
  | zero => cases hw
  | succ rounds ih =>
    rw [Drive.writeChunks]
    refine .bind (leads_writeChunk bytes (fun _ => ended_error_ne rfl) fun hl => ?_)
    dsimp only
    rw [← bind_assoc]
    refine .bind (leads_learn drive rfl (raises_writeMore rfl) ?_ fun _ hz =>
      absurd hz (Nat.ne_of_gt hp))
    dsimp only
    split
    · exact leads_done ended_ok_ne
    · next hs =>
      have hz : (bytes.take core.askedSize).length = core.askedSize := List.length_take_of_le hl
      have hn : core.chunkScript = [] → 0 < core.writeLeft - (bytes.take core.askedSize).length →
          core.writeLeft - (bytes.take core.askedSize).length < core.writeLeft := by
        intro hc
        rw [hz, Core.askedSize_nil hc]
        exact sub_min_lt
      have hlt := work_lt core ((core.took _).scripted _) rfl rfl (Nat.sub_le _ _) hn (by decide) hs
      exact ih _ (Nat.lt_of_lt_of_le hlt (Nat.le_of_lt_succ hw)) _ _
    · exact leads_say_bind.2 (leads_failed (ended_error_ne rfl))

theorem leads_readChunks_ends (rounds : Nat) {core : Core} (hw : core.work core.readLeft < rounds)
    (size : Nat) (received : List UInt8) (chunks : Nat) :
    Leads (drive.readChunks size rounds received chunks) core fun result _ _ =>
      ended Cut.stop result ≠ some .stalled := by
  induction rounds generalizing core received chunks with
  | zero => cases hw
  | succ rounds ih =>
    rw [Drive.readChunks]
    refine .bind (.mapFailure (leads_readChunk _ (fun _ => ended_error_ne rfl) fun chunk => ?_))
    refine .bind (.mapFailure (leads_learn drive rfl (raises_readMore rfl) ?_ fun _ hz =>
      absurd hz (Nat.ne_of_gt hp)))
    dsimp only [Except.mapError]
    split
    · exact leads_done ended_ok_ne
    · next hs =>
      have hn : core.chunkScript = [] → 0 < core.readLeft - core.nextSize →
          core.readLeft - core.nextSize < core.readLeft := by
        intro hc
        rw [Core.nextSize_nil hc]
        exact sub_min_lt
      have hlt := work_lt core core.advanced rfl rfl (Nat.sub_le _ _) hn (by decide) hs
      exact ih (Nat.lt_of_lt_of_le hlt (Nat.le_of_lt_succ hw)) _ _
    · exact leads_say_bind.2 (leads_failed (ended_error_ne rfl))

end Rounds

/-! ## Transfers -/

section Transfer

variable {drive : Drive} (bytes : List UInt8) {core : Core}

/-- A drive with more patience than there is work comes to the end of a write. -/
theorem leads_write_ends (hw : core.work (core.writeLeft + bytes.length) < drive.patience) :
    Leads (drive.write bytes) core fun result _ _ => ended id result ≠ some .stalled := by
  have hp : 0 < drive.patience := Nat.zero_lt_of_lt hw
  rw [Drive.write, leads_say_bind]
  split
  · exact leads_say_bind.2 (leads_done ended_ok_ne)
  · refine .bind (leads_checkSize (fun hl => ?_) fun _ => ended_error_ne rfl)
    obtain ⟨status, left, hle, hx⟩ := raises_write_any core hl
    refine .bind (leads_commandStatus drive rfl hx ?_ fun _ hz => absurd hz (Nat.ne_of_gt hp))
    refine .bind (leads_expectStatus (fun _ => ?_) (ended_error_ne rfl))
    have hd := (core.writing left).length_drawn_le .write
    have hlt : ((core.writing left).drawn .write).work left < drive.patience := by
      simp only [Core.work, Core.writing, Core.drawn] at hw hd ⊢
      omega
    refine .bind ((leads_writeChunks_ends hp drive.patience bytes hlt 0 0).imp ?_)
    rintro (stop | ⟨written, chunks⟩) last sent he
    · exact he
    · dsimp only
      split
      · exact leads_say_bind.2 (leads_say_bind.2 (leads_done ended_ok_ne))
      · exact leads_say_bind.2 (leads_done ended_ok_ne)

/-- A drive with more patience than there is work comes to the end of a read. -/
theorem leads_read_ends {size : Nat} (hw : core.work (core.readLeft + size) < drive.patience) :
    Leads (drive.read size) core fun result _ _ => ended Cut.stop result ≠ some .stalled := by
  have hp : 0 < drive.patience := Nat.zero_lt_of_lt hw
  rw [Drive.read, leads_say_bind]
  split
  · exact leads_say_bind.2 (leads_done ended_ok_ne)
  · refine .bind (.mapFailure (.bind (leads_checkSize (fun hl => ?_) fun _ => ended_error_ne rfl)))
    obtain ⟨status, left, hle, hx⟩ := raises_read_any core hl
    refine .bind (leads_commandStatus drive rfl hx ?_ fun _ hz => absurd hz (Nat.ne_of_gt hp))
    refine leads_expectStatus (fun _ => ?_) (ended_error_ne rfl)
    have hd := (core.reading left).length_drawn_le .read
    have hlt : ((core.reading left).drawn .read).work left < drive.patience := by
      simp only [Core.work, Core.reading, Core.drawn] at hw hd ⊢
      omega
    refine .bind ((leads_readChunks_ends hp drive.patience hlt size [] 0).imp ?_)
    rintro (cut | ⟨received, chunks⟩) last sent he
    · exact he
    · dsimp only
      split
      · exact leads_say_bind.2 (leads_say_bind.2 (leads_done ended_ok_ne))
      · exact leads_say_bind.2 (leads_done ended_ok_ne)

end Transfer

/-! ## Actions -/

/-- An action ends on a chip, in the same way in either status mode and with every patience beyond
`bound`. -/
def EndsBeyond (bound : Nat) (config : Config) (chip : Chip) (action : Action) : Prop :=
  ∃ report last, report.stalled = false ∧ ∀ mode patience journal, bound < patience →
    let ran := ((Drive.mk { config with statusMode := mode } patience).perform action :
      Dialogue Bus Empty Report).run Chip.device chip journal
    ran.result = .ok report ∧ ran.state = last

section Report

variable {ε : Type} {chip last : Chip}

theorem outcome_report {α : Type} {operation : Operation α} {result : Except Stop α}
    (h : operation.outcome device chip = (result, last)) (value : α → Value) :
    (report operation value : Dialogue Bus ε Report).outcome device chip =
      (.ok { result := result.map value }, last) := by
  simp only [report, outcome_bind, outcome_attempt, h]
  rfl

theorem outcome_readInto {drive : Drive} {buffer : List UInt8} {result : Except Cut (List UInt8)}
    (h : (drive.read buffer.length).outcome device chip = (result, last)) :
    ∃ report, (drive.readInto buffer : Dialogue Bus ε Report).outcome device chip =
        (.ok report, last) ∧ ended id report.result = ended Cut.stop result := by
  simp only [readInto, outcome_bind, outcome_attempt, h]
  cases result with
  | ok received => exact ⟨_, rfl, rfl⟩
  | error cut => exact ⟨_, rfl, rfl⟩

end Report

/-- It is enough that the action ends with the least such patience. -/
theorem EndsBeyond.of_outcome {bound : Nat} {config : Config} {chip last : Chip} {action : Action}
    {report : Report}
    (h : ((Drive.mk config (bound + 1)).perform action : Dialogue Bus Empty Report).outcome device
      chip = (.ok report, last)) (hs : ended id report.result ≠ some .stalled) :
    EndsBeyond bound config chip action := by
  have hr : report.stalled = false := by
    unfold Report.stalled
    split
    · next he => exact absurd (ended_eq_some_iff.2 he) hs
    · rfl
  refine ⟨report, last, hr, fun mode patience journal hp => ?_⟩
  have ho := Outlasts.intro config mode hp (Nat.zero_lt_of_lt hp)
  exact run_of_outcome (confirms_perform ho action chip report last h hr) journal

/-- **Transfers terminate.** On every chip, whatever file is open or none, whatever was left by a
transfer before, and whatever statuses are injected and sizes of chunks prescribed, a read into any
buffer and a write of any data come to an end, in either status mode. A patience beyond the chunks
that are prescribed, the statuses that are injected and the bytes that are left or asked for, all
taken together, is enough. -/
theorem transfers_terminate (config : Config) (chip : Chip) (buffer data : List UInt8) :
    EndsBeyond (chip.chunkScript.length + chip.injected.length + (chip.readLeft + buffer.length))
        config chip (.read buffer) ∧
      EndsBeyond (chip.chunkScript.length + chip.injected.length + (chip.writeLeft + data.length))
        config chip (.write data) := by
  constructor
  · let drive := Drive.mk config (chip.core.work (chip.readLeft + buffer.length) + 1)
    have hw : chip.core.work (chip.core.readLeft + buffer.length) < drive.patience :=
      Nat.lt_succ_self _
    obtain ⟨result, last, -, ho, -, he⟩ := leads_read_ends hw chip rfl
    obtain ⟨report, ho, hr⟩ := outcome_readInto ho
    exact .of_outcome ho (hr ▸ he)
  · let drive := Drive.mk config (chip.core.work (chip.writeLeft + data.length) + 1)
    have hw : chip.core.work (chip.core.writeLeft + data.length) < drive.patience :=
      Nat.lt_succ_self _
    obtain ⟨result, last, -, ho, -, he⟩ := leads_write_ends data hw chip rfl
    refine .of_outcome (outcome_report ho .count) ?_
    rw [ended_map]
    exact he

end DiskBridge.Chip

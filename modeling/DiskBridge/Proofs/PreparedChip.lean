import DiskBridge.Proofs.Transfers

/-!
# Operations on a prepared chip

A chip may be prepared to report other statuses than it computes, and to move chunks of prescribed
sizes. Then much can come of an operation, but still no more than the core of the chip decides.
`Leads` says what holds however a dialogue ends: of its result, of the core it leaves, and of the
opcodes of the transactions it made.

1. What holds of a sequence is what holds of the parts (`Leads.bind`).
2. A drive learns the status injected for a command, which is then used up, or else the computed one
   (`leads_learn`).
3. A chunk is taken or handed over by the size that is prescribed, if any is, and refused if it does
   not fit (`leads_writeChunk`, `leads_readChunk`).
-/

namespace DiskBridge.Chip

open Dialogue

/-! ## Opcodes of transactions -/

/-- A transaction that ends is recorded by its opcode. -/
theorem opcodes_finish {before chip : Chip} (h : chip.inTransaction = true) {opcode : UInt8}
    {rest : List UInt8} (hr : chip.received = opcode :: rest)
    (ht : chip.transactions = before.transactions) :
    chip.finish.opcodes = before.opcodes ++ [opcode] := by
  unfold finish opcodes
  rw [if_pos h]
  simp only [transactions_complete, hr, ht, List.reverse_cons, List.filterMap_append]
  rfl

theorem opcodes_acknowledged (chip : Chip) :
    chip.acknowledged.opcodes = chip.opcodes ++ [Command.status.opcode] := by
  simp [acknowledged, opcodes]

/-! ## What holds however a dialogue ends -/

/-- On every chip with the given core, a dialogue ends so that `post` holds of its result, of the
core that it leaves and of the opcodes of the transactions it made. -/
def Leads {ε α : Type} (dialogue : Dialogue Bus ε α) (core : Core)
    (post : Except ε α → Core → List UInt8 → Prop) : Prop :=
  ∀ chip : Chip, chip.core = core → ∃ result last sent,
    dialogue.outcome device chip = (result, last) ∧ last.opcodes = chip.opcodes ++ sent ∧
      post result last.core sent

section Leads

variable {ε δ α β : Type} {core : Core}

theorem Leads.imp {dialogue : Dialogue Bus ε α}
    {post other : Except ε α → Core → List UInt8 → Prop} (h : Leads dialogue core post)
    (hi : ∀ result last sent, post result last sent → other result last sent) :
    Leads dialogue core other := by
  intro chip hc
  obtain ⟨result, last, sent, ho, hs, hp⟩ := h chip hc
  exact ⟨result, last, sent, ho, hs, hi _ _ _ hp⟩

/-- A dialogue has one outcome, of which all holds that can be shown of it. -/
theorem Leads.of_outcome {dialogue : Dialogue Bus ε α}
    {post : Except ε α → Core → List UInt8 → Prop} (h : Leads dialogue core post)
    {chip last : Chip} (hc : chip.core = core) {result : Except ε α} {sent : List UInt8}
    (ho : dialogue.outcome device chip = (result, last))
    (hs : last.opcodes = chip.opcodes ++ sent) : post result last.core sent := by
  obtain ⟨result', last', sent', ho', hs', hp⟩ := h chip hc
  obtain ⟨rfl, rfl⟩ := Prod.mk.inj (ho.symm.trans ho')
  obtain rfl := List.append_cancel_left (hs.symm.trans hs')
  exact hp

variable {post : Except ε α → Core → List UInt8 → Prop}

theorem leads_done {value : α} (h : post (.ok value) core []) :
    Leads (done value : Dialogue Bus ε α) core post := by
  rintro chip rfl
  exact ⟨_, chip, [], rfl, (List.append_nil _).symm, h⟩

theorem leads_failed {cause : ε} (h : post (.error cause) core []) :
    Leads (failed cause : Dialogue Bus ε α) core post := by
  rintro chip rfl
  exact ⟨_, chip, [], rfl, (List.append_nil _).symm, h⟩

@[simp] theorem leads_say_bind {level : Level} {text : String} {next : Unit → Dialogue Bus ε α} :
    Leads (say level text >>= next) core post ↔ Leads (next ()) core post := Iff.rfl

/-- A sequence goes on from what its first part left, unless that failed. -/
theorem Leads.bind {first : Dialogue Bus ε β} {next : β → Dialogue Bus ε α}
    (h : Leads first core fun result middle sent =>
      match result with
      | .ok value => Leads (next value) middle fun result last more => post result last (sent ++ more)
      | .error cause => post (.error cause) middle sent) :
    Leads (first >>= next) core post := by
  intro chip hc
  obtain ⟨result, middle, sent, ho, hs, hp⟩ := h chip hc
  cases result with
  | error cause => exact ⟨_, middle, sent, outcome_bind_error ho, hs, hp⟩
  | ok value =>
    obtain ⟨result, last, more, hn, hm, hp⟩ := hp middle rfl
    refine ⟨result, last, sent ++ more, (outcome_bind_ok ho).trans hn, ?_, hp⟩
    rw [hm, hs, List.append_assoc]

theorem Leads.mapFailure {dialogue : Dialogue Bus δ α} {restate : δ → ε}
    (h : Leads dialogue core fun result => post (result.mapError restate)) :
    Leads (dialogue.mapFailure restate) core post := by
  intro chip hc
  obtain ⟨result, last, sent, ho, hs, hp⟩ := h chip hc
  exact ⟨_, last, sent, by rw [outcome_mapFailure, ho], hs, hp⟩

end Leads

/-! ## Statuses -/

/-- The core after the status injected next for a command was used up. -/
def Core.drawn (core : Core) (command : Command) : Core :=
  { core with injected := (takeInjected command.opcode core.injected).2 }

/-- The status that is reported where another was computed: the one injected next, if any. -/
def Core.shown (core : Core) (command : Command) (computed : Status) : Status :=
  Status.ofByte ((takeInjected command.opcode core.injected).1.getD computed.byte)

theorem Core.drawn_plain {core : Core} (h : core.injected = []) (command : Command) :
    core.drawn command = core := by
  rw [Core.drawn, h, takeInjected, ← h]

theorem Core.shown_plain {core : Core} (h : core.injected = []) (command : Command)
    {computed : Status} (hs : Status.ofByte computed.byte = computed) :
    core.shown command computed = computed := by
  rw [Core.shown, h]
  exact hs

section Learn

variable (drive : Drive) {command : Command} (hc : command.isInterrupting = true)
  {arguments : List UInt8} {before after : Core} {status : Status}
  (hx : Raises command arguments before status after)
  {post : Except Stop Status → Core → List UInt8 → Prop}
  (hv : post (.ok (after.shown command status)) (after.drawn command)
    [command.opcode, Command.status.opcode])
  (hs : drive.config.statusMode = .interrupt → drive.patience = 0 →
    post (.error .stalled) (after.drawn command) [command.opcode])

include hc hx hv hs

/-- The drive learns the status that is reported for a command, if it has any patience. -/
theorem leads_learn :
    Leads (Drive.sendCommand command arguments >>= fun _ => drive.status) before post := by
  intro chip hb
  obtain ⟨next, hr, rfl⟩ := hx chip.settled hb
  let waiting := chip.carryOut (command.opcode :: arguments)
  have ho : (Drive.sendCommand command arguments).outcome device chip = (.ok (), waiting) := by
    rw [Drive.sendCommand, outcome_say_bind]
    exact outcome_sendCommand (quiet_of_isInterrupting hc) chip arguments
  have hw : waiting = { next.raise command status with transactions := waiting.transactions } := by
    rw [← hr]
    rfl
  have hp : waiting.pending =
      some ((takeInjected command.opcode next.core.injected).1.getD status.byte) := by
    rw [hw]
    rfl
  have hl : waiting.core = next.core.drawn command := by
    rw [hw]
    rfl
  have hn : waiting.opcodes = chip.opcodes ++ [command.opcode] :=
    opcodes_finish (show (chip.addressed _).inTransaction = true from rfl) rfl rfl
  clear_value waiting
  by_cases hm : drive.config.statusMode = .interrupt ∧ drive.patience = 0
  · refine ⟨.error .stalled, waiting, [command.opcode], ?_, hn, hl ▸ hs hm.1 hm.2⟩
    rw [outcome_bind_ok ho, outcome_status_impatient hm.1 hm.2]
  · refine ⟨.ok (next.core.shown command status), waiting.acknowledged,
      [command.opcode, Command.status.opcode], ?_, ?_, ?_⟩
    · rw [outcome_bind_ok ho]
      exact outcome_status_pending (fun hi => Nat.pos_of_ne_zero fun hz => hm ⟨hi, hz⟩) hp
    · rw [opcodes_acknowledged, hn, List.append_assoc]
      rfl
    · rw [core_acknowledged, hl]
      exact hv

theorem leads_commandStatus : Leads (drive.commandStatus command arguments) before post := by
  rw [Drive.commandStatus, ← bind_assoc]
  exact .bind (leads_learn drive hc hx (leads_say_bind.2 (leads_done hv)) hs)

end Learn

section Check

variable {core : Core} {post : Except Stop Unit → Core → List UInt8 → Prop}

theorem leads_expectStatus {command : Command} {status expected : Status}
    (hv : status = expected → post (.ok ()) core [])
    (hf : post (.error (.error (.unexpectedStatus command status))) core []) :
    Leads (Drive.expectStatus command status expected) core post := by
  rw [Drive.expectStatus]
  split
  · next he => exact leads_done (hv he)
  · exact leads_failed hf

theorem leads_checkSize {size : Nat} (hv : size ≤ Command.maxTransfer → post (.ok ()) core [])
    (hf : ∀ error, post (.error (.error error)) core []) :
    Leads (Drive.checkSize size) core post := by
  rw [Drive.checkSize]
  split
  · exact leads_failed (hf _)
  · next hl => exact leads_done (hv (Nat.le_of_not_lt hl))

end Check

/-! ## Chunks -/

/-- The chip takes a chunk of the size it asks for, or refuses all bytes if they are too few. -/
theorem leads_writeChunk {core : Core} (bytes : List UInt8)
    {post : Except Stop Nat → Core → List UInt8 → Prop}
    (ho : bytes.length < core.askedSize →
      post (.error (.error (Drive.overrun core.askedSize bytes.length)))
        ((core.took []).scripted core.chunkScript.tail) [Command.writeBuffer.opcode])
    (hk : core.askedSize ≤ bytes.length →
      post (.ok core.askedSize)
        ((core.took (bytes.take core.askedSize)).scripted core.chunkScript.tail)
        [Command.writeBuffer.opcode]) :
    Leads (Drive.writeChunk bytes) core post := by
  rintro chip rfl
  have hs (chunk : List UInt8) :
      (chip.handed chunk).opcodes = chip.opcodes ++ [Command.writeBuffer.opcode] :=
    opcodes_finish rfl rfl rfl
  have hr := outcome_writeChunk chip bytes
  split at hr
  · next hl => exact ⟨_, chip.handed [], _, hr, hs _, ho hl⟩
  · next hl => exact ⟨_, chip.handed _, _, hr, hs _, hk (Nat.le_of_not_lt hl)⟩

/-- The chip hands over a chunk, of which the drive receives nothing if there is no room for it. -/
theorem leads_readChunk {core : Core} (room : Nat)
    {post : Except Cut (List UInt8) → Core → List UInt8 → Prop}
    (ho : ∀ size, post (.error ⟨[], .error (Drive.overrun size room)⟩) core.advanced
      [Command.readBuffer.opcode])
    (hk : ∀ chunk, post (.ok chunk) core.advanced [Command.readBuffer.opcode]) :
    Leads (Drive.readChunk room) core post := by
  rintro chip rfl
  have hs (count : Nat) :
      (chip.offered count).opcodes = chip.opcodes ++ [Command.readBuffer.opcode] :=
    opcodes_finish rfl rfl (by simp only [heard, offering, respond, addressed, begin])
  generalize hn : (UInt8.ofNat chip.core.nextSize).toNat = size
  have hr := outcome_readChunk chip room hn
  split at hr
  · refine ⟨_, chip.offered 0, _, hr, hs 0, ?_⟩
    rw [core_offered]
    exact ho size
  · refine ⟨_, chip.offered size, _, hr, hs size, ?_⟩
    rw [core_offered]
    exact hk _

end DiskBridge.Chip

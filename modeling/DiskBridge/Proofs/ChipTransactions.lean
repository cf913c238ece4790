import DiskBridge.Chip.Device
import DiskBridge.Drive.Basic
import DiskBridge.Proofs.Outcome

/-!
# What transactions do to the chip

1. Only the calls that begin and end a transaction change whether the chip is in one
   (`inTransaction_react`, `transaction_complete`, `inTransaction_poll`).
2. The chip reacts at most to the first two bytes of a transaction (`silent_two`). Past them it only
   sends what it has ready (`outcome_send_silent`, `outcome_receiveMany`).
3. A command to which the chip answers nothing while it is sent (`Quiet`) is carried out when its
   transaction ends (`outcome_sendCommand`).
4. The status a command leaves pending is what the drive learns next, unless its patience is at an
   end (`outcome_pollStatus`, `outcome_status`). Together, `outcome_commandStatus`, and for the
   state of the chip in full `outcome_raised`.
5. `Effect` says once what the commands on the selected path can do. Whatever the drive learns, what
   has happened is one of these effects (`outcome_onSelected`).
-/

namespace DiskBridge.Chip

open Dialogue

/-! ## Being in a transaction -/

section InTransaction

variable (chip : Chip)

theorem inTransaction_raise (command : Command) (status : Status) :
    (chip.raise command status).inTransaction = chip.inTransaction := rfl

theorem transactions_raise (command : Command) (status : Status) :
    (chip.raise command status).transactions = chip.transactions := rfl

theorem inTransaction_nextChunk (left : Nat) :
    (chip.nextChunk left).2.inTransaction = chip.inTransaction := by
  unfold nextChunk
  split <;> rfl

theorem inTransaction_react (opcode : UInt8) (index : Nat) (byte : UInt8) :
    (chip.react opcode index byte).inTransaction = chip.inTransaction := by
  unfold react
  split
  case h_6 => exact inTransaction_nextChunk chip _
  case h_7 => exact inTransaction_nextChunk chip _
  all_goals rfl

/-- Carrying a command out neither begins nor ends a transaction, and records none. -/
theorem transaction_complete (bytes : List UInt8) :
    (chip.complete bytes).inTransaction = chip.inTransaction ∧
      (chip.complete bytes).transactions = chip.transactions := by
  unfold complete
  split
  case h_12 =>
    unfold executeRead
    split <;> exact ⟨rfl, rfl⟩
  -- The other commands choose between statuses to raise, if they choose at all.
  all_goals simp only [executeReset, executeRoute, executeName, executeConnect, executeMount,
    executeOpen, executeCreate, executeCreateDirectory, executeErase, executeClose, executeLocate,
    executeReadMore, executeWrite, executeStore, executeWriteMore, apply_ite Chip.inTransaction,
    apply_ite Chip.transactions, inTransaction_raise, transactions_raise, ite_self, and_self]

theorem inTransaction_complete (bytes : List UInt8) :
    (chip.complete bytes).inTransaction = chip.inTransaction :=
  (chip.transaction_complete bytes).1

theorem transactions_complete (bytes : List UInt8) :
    (chip.complete bytes).transactions = chip.transactions :=
  (chip.transaction_complete bytes).2

theorem inTransaction_poll : chip.poll.2.inTransaction = chip.inTransaction := by
  unfold poll
  split
  · split
    · rfl
    · split <;> rfl
  · rfl

theorem inTransaction_finish : chip.finish.inTransaction = false := by
  unfold finish
  split
  · exact inTransaction_complete _ _
  · next h => exact Bool.eq_false_iff.2 h

end InTransaction

/-! ## Commands -/

/-- The chip is outside a transaction, and reports the statuses it computes. -/
structure Ready (chip : Chip) : Prop where
  idle : chip.inTransaction = false
  plain : chip.injected = []

/-- What is on the disk, and where on it the chip stands. -/
structure Contents where
  volume : Volume
  directory : Path
  selected : Option Path
  openFile : Option Path

def contents (chip : Chip) : Contents where
  volume := chip.volume
  directory := chip.directory
  selected := chip.selected
  openFile := chip.openFile

/-- All that a chip holds apart from its dealings with the bus and with connections. -/
structure Core where
  volume : Volume
  directory : Path
  selected : Option Path
  openFile : Option Path
  cursor : Nat
  readLeft : Nat
  writeLeft : Nat
  chunkScript : List Nat
  injected : List (UInt8 × UInt8)

def core (chip : Chip) : Core where
  volume := chip.volume
  directory := chip.directory
  selected := chip.selected
  openFile := chip.openFile
  cursor := chip.cursor
  readLeft := chip.readLeft
  writeLeft := chip.writeLeft
  chunkScript := chip.chunkScript
  injected := chip.injected

/-- The chip after a transaction in which it received the given bytes. -/
def carryOut (chip : Chip) (bytes : List UInt8) : Chip :=
  { chip.begin with received := bytes }.finish

/-- The chip as it carries out the command of a transaction. -/
def settled (chip : Chip) : Chip := { chip.begin with inTransaction := false }

theorem carryOut_eq (chip : Chip) (bytes : List UInt8) :
    chip.carryOut bytes =
      { chip.settled.complete bytes with
        transactions := bytes :: (chip.settled.complete bytes).transactions } := rfl

/-- A transaction on the chip fails only if what stands inside it does. -/
theorem outcome_bracket {ε α : Type} {early : Error → ε} {late : α → Error → ε}
    {body : Dialogue Bus ε α} {value : α} {chip last : Chip}
    (h : body.outcome device chip.begin = (.ok value, last)) :
    (Bus.bracket early late body).outcome device chip = (.ok value, last.finish) := by
  have ho : (Bus.begin.mapFailure early).outcome device chip = (.ok (), chip.begin) := rfl
  rw [Bus.bracket, outcome_bind_ok ho, outcome_bind, outcome_attempt, h]
  rfl

/-- What fails inside a transaction ends it as well. -/
theorem outcome_bracket_error {ε α : Type} {early : Error → ε} {late : α → Error → ε}
    {body : Dialogue Bus ε α} {cause : ε} {chip last : Chip}
    (h : body.outcome device chip.begin = (.error cause, last)) :
    (Bus.bracket early late body).outcome device chip = (.error cause, last.finish) := by
  have ho : (Bus.begin.mapFailure early).outcome device chip = (.ok (), chip.begin) := rfl
  rw [Bus.bracket, outcome_bind_ok ho, outcome_bind, outcome_attempt, h]
  rfl

theorem outcome_transaction {α : Type} {body : Dialogue Bus Error α} {value : α} {chip last : Chip}
    (h : body.outcome device chip.begin = (.ok value, last)) :
    (Bus.transaction body).outcome device chip = (.ok value, last.finish) := by
  rw [Bus.transaction]
  exact outcome_mapFailure_ok _ (outcome_bracket h)

theorem outcome_transaction_error {α : Type} {body : Dialogue Bus Error α} {cause : Error}
    {chip last : Chip} (h : body.outcome device chip.begin = (.error cause, last)) :
    (Bus.transaction body).outcome device chip = (.error (.error cause), last.finish) := by
  rw [Bus.transaction, outcome_mapFailure, outcome_bracket_error h]
  rfl

theorem core_finish {chip : Chip} (h : chip.inTransaction = true) :
    chip.finish.core =
      ({ chip with inTransaction := false, received := [] }.complete chip.received).core := by
  unfold finish
  rw [if_pos h]
  rfl

/-- Inside a transaction a byte is received, and the chip reacts to it. -/
theorem exchange_eq {chip : Chip} (h : chip.inTransaction = true) (byte : UInt8) :
    chip.exchange byte =
      (chip.responses.head?.getD 0,
        { chip with responses := chip.responses.tail, received := chip.received ++ [byte] }.react
          ((chip.received ++ [byte]).head?.getD byte) chip.received.length byte) := by
  simp only [exchange, h, Bool.not_true, Bool.or_false]

/-- The chip in a transaction in which it received some bytes and reacted to none. -/
def addressed (chip : Chip) (bytes : List UInt8) : Chip := { chip.begin with received := bytes }

theorem core_addressed (chip : Chip) (bytes : List UInt8) :
    (chip.addressed bytes).core = chip.core := rfl

theorem core_respond (chip : Chip) (bytes : List UInt8) : (chip.respond bytes).core = chip.core :=
  rfl

theorem outcome_exchange_addressed (chip : Chip) (bytes : List UInt8) (byte : UInt8) :
    (Bus.exchange byte).outcome device (chip.addressed bytes) =
      (.ok 0, (chip.addressed (bytes ++ [byte])).react ((bytes ++ [byte]).head?.getD byte)
        bytes.length byte) := by
  have he := exchange_eq (show (chip.addressed bytes).inTransaction = true from rfl) byte
  rw [Bus.exchange, outcome_ask]
  simp only [device, he]
  rfl

theorem outcome_send_opcode (chip : Chip) (opcode : UInt8) :
    (Bus.send [opcode]).outcome device chip.begin =
      (.ok (), (chip.addressed [opcode]).react opcode 0 opcode) :=
  outcome_bind_ok (outcome_exchange_addressed chip [] opcode)

/-- An opcode without a reaction and its argument. -/
theorem outcome_send_argument {chip : Chip} {opcode : UInt8}
    (h : (chip.addressed [opcode]).react opcode 0 opcode = chip.addressed [opcode])
    (argument : UInt8) :
    (Bus.send [opcode, argument]).outcome device chip.begin =
      (.ok (), (chip.addressed [opcode, argument]).react opcode 1 argument) := by
  have ho : (Bus.exchange opcode).outcome device chip.begin = (.ok 0, chip.addressed [opcode]) :=
    (outcome_exchange_addressed chip [] opcode).trans (congrArg (Prod.mk _) h)
  rw [Bus.send, outcome_bind_ok ho]
  exact outcome_bind_ok (outcome_exchange_addressed chip [opcode] argument)

/-- From its byte `first` on, a command with this opcode finds no more reaction. -/
def Silent (opcode : UInt8) (first : Nat) : Prop :=
  ∀ (chip : Chip) (index : Nat) (byte : UInt8), first ≤ index → chip.react opcode index byte = chip

theorem silent_two (opcode : UInt8) : Silent opcode 2 := by
  intro chip index byte hi
  obtain ⟨index, rfl⟩ := Nat.exists_eq_add_of_le' hi
  unfold react
  cases Command.ofOpcode? opcode with
  | none => rfl
  | some command => cases command <;> rfl

theorem silent_one {command : Command} (h : command ∈ [.status, .readBuffer, .writeBuffer]) :
    Silent command.opcode 1 := by
  intro chip index byte hi
  obtain ⟨index, rfl⟩ := Nat.exists_eq_add_of_le' hi
  unfold react
  rw [Command.ofOpcode?_opcode]
  simp only [List.mem_cons, List.not_mem_nil, or_false] at h
  rcases h with rfl | rfl | rfl <;> rfl

/-- The chip after it received bytes without a reaction: it sent of what it had ready. -/
def heard (chip : Chip) (bytes : List UInt8) : Chip :=
  { chip with
    responses := chip.responses.drop bytes.length
    received := chip.received ++ bytes }

theorem core_heard (chip : Chip) (bytes : List UInt8) : (chip.heard bytes).core = chip.core := rfl

theorem heard_nil (chip : Chip) : chip.heard [] = chip := by
  unfold heard
  rw [List.append_nil]
  rfl

theorem heard_cons (chip : Chip) (byte : UInt8) (rest : List UInt8) :
    chip.heard (byte :: rest) = (chip.heard [byte]).heard rest := by
  simp [heard]

section Silent

variable {opcode : UInt8} {first : Nat} (hs : Silent opcode first) (chip : Chip)
  (hi : chip.inTransaction = true)

include hs hi

/-- A byte past the last reaction is received, while the chip sends what it has ready. -/
theorem outcome_exchange_silent (byte : UInt8)
    (ho : (chip.received ++ [byte]).head? = some opcode) (hl : first ≤ chip.received.length) :
    (Bus.exchange byte).outcome device chip =
      (.ok (chip.responses.head?.getD 0), chip.heard [byte]) := by
  have he := exchange_eq hi byte
  rw [ho, Option.getD_some, hs _ _ _ hl] at he
  unfold Bus.exchange
  rw [outcome_ask]
  simp only [device, he, heard, List.length_singleton, List.drop_one]
  rfl

theorem outcome_send_silent (bytes : List UInt8)
    (ho : (chip.received ++ bytes).head? = some opcode) (hl : first ≤ chip.received.length) :
    (Bus.send bytes).outcome device chip = (.ok (), chip.heard bytes) := by
  induction bytes generalizing chip with
  | nil =>
    rw [heard_nil]
    rfl
  | cons byte rest ih =>
    rw [List.append_cons] at ho
    have hb : (chip.received ++ [byte]).head? = some opcode := by
      rw [List.head?_append] at ho
      simpa using ho
    have hl' : first ≤ (chip.heard [byte]).received.length := Nat.le_trans hl (by simp [heard])
    rw [Bus.send, outcome_bind_ok (outcome_exchange_silent hs chip hi byte hb hl),
      ih (chip.heard [byte]) hi ho hl', ← heard_cons]

/-- What the chip has ready is received. -/
theorem outcome_receiveMany (ho : chip.received.head? = some opcode)
    (hl : first ≤ chip.received.length) (count : Nat) (hc : count ≤ chip.responses.length) :
    (Bus.receiveMany count).outcome device chip =
      (.ok (chip.responses.take count), chip.heard (List.replicate count Command.filler)) := by
  induction count generalizing chip with
  | zero =>
    rw [List.replicate_zero, heard_nil]
    rfl
  | succ count ih =>
    obtain ⟨byte, rest, hr⟩ := List.exists_cons_of_length_pos (Nat.lt_of_lt_of_le count.succ_pos hc)
    have hb : (chip.received ++ [Command.filler]).head? = some opcode := by
      rw [List.head?_append, ho, Option.some_or]
    have he := outcome_exchange_silent hs chip hi Command.filler hb hl
    have hn : (chip.heard [Command.filler]).responses = rest := by
      simp [heard, hr]
    have hc' : count ≤ (chip.heard [Command.filler]).responses.length := by
      rw [hr, List.length_cons] at hc
      rw [hn]
      omega
    have hl' : first ≤ (chip.heard [Command.filler]).received.length :=
      Nat.le_trans hl (by simp [heard])
    rw [Bus.receiveMany, Bus.receive, outcome_bind_ok he,
      outcome_bind_ok (ih (chip.heard [Command.filler]) hi hb hl' hc'), hn, hr,
      ← heard_cons]
    rfl

end Silent

/-- The chip answers nothing while a command with this opcode is sent. -/
def Quiet (opcode : UInt8) : Prop :=
  ∀ (chip : Chip) (index : Nat) (byte : UInt8), chip.react opcode index byte = chip

theorem quiet_of_isInterrupting {command : Command} (h : command.isInterrupting = true) :
    Quiet command.opcode := by
  intro chip index byte
  unfold react
  rw [Command.ofOpcode?_opcode]
  cases command with
  | version | reset | selfTest | routeInterrupt | fileSize | usbMode | status | readBuffer
  | writeBuffer | fileName => cases h
  | _ => rfl

theorem quiet_of_unanswered {command : Command}
    (h : command ∈ [.reset, .routeInterrupt, .fileName]) : Quiet command.opcode := by
  intro chip index byte
  unfold react
  rw [Command.ofOpcode?_opcode]
  simp only [List.mem_cons, List.not_mem_nil, or_false] at h
  rcases h with rfl | rfl | rfl <;> rfl

section Quiet

variable {opcode : UInt8} (hq : Quiet opcode)

include hq

theorem Quiet.silent : Silent opcode 0 := fun chip index byte _ => hq chip index byte

/-- While a quiet command is sent, the chip only receives it. -/
theorem outcome_send {chip : Chip} (hi : chip.inTransaction = true) (hr : chip.responses = [])
    {bytes : List UInt8} (ho : (chip.received ++ bytes).head? = some opcode) :
    (Bus.send bytes).outcome device chip =
      (.ok (), { chip with received := chip.received ++ bytes }) := by
  rw [outcome_send_silent hq.silent chip hi bytes ho (Nat.zero_le _), heard, hr, List.drop_nil,
    ← hr]

/-- A quiet command is carried out when its transaction ends. -/
theorem outcome_sendCommand (chip : Chip) (arguments : List UInt8) :
    (Bus.transaction (Bus.send (opcode :: arguments))).outcome device chip =
      (.ok (), chip.carryOut (opcode :: arguments)) :=
  outcome_transaction (outcome_send hq rfl rfl rfl)

end Quiet

/-! ## Statuses -/

theorem react_status (chip : Chip) (byte : UInt8) :
    chip.react Command.status.opcode 0 byte = chip.reportStatus := by
  unfold react
  rw [Command.ofOpcode?_opcode]
  rfl

/-- The chip after its pending status was read. -/
def acknowledged (chip : Chip) : Chip :=
  { chip.settled with
    pending := none
    transactions := [Command.status.opcode, Command.filler] :: chip.transactions }

theorem core_acknowledged (chip : Chip) : chip.acknowledged.core = chip.core := rfl

/-- The pending status is read, and cleared. -/
theorem outcome_pollStatus (chip : Chip) :
    Drive.pollStatus.outcome device chip =
      (.ok (Status.ofByte (chip.pending.getD 0)), chip.acknowledged) := by
  let asked := (chip.addressed [Command.status.opcode]).reportStatus
  have ho := outcome_send_opcode chip Command.status.opcode
  rw [react_status] at ho
  have hr : Bus.receive.outcome device asked =
      (.ok (chip.pending.getD 0), asked.heard [Command.filler]) :=
    outcome_exchange_silent (silent_one (by decide)) asked rfl Command.filler rfl (Nat.le_refl 1)
  rw [Drive.pollStatus, outcome_say_bind,
    outcome_bind_ok (outcome_transaction ((outcome_bind_ok ho).trans hr))]
  rfl

/-- A drive with some patience sees that a status is pending. -/
theorem outcome_awaitInterrupt {chip : Chip} (h : chip.pending.isSome = true) (patience : Nat) :
    (Drive.awaitInterrupt (patience + 1)).outcome device chip = (.ok (), chip) := by
  have hn : chip.pending.isNone = false := by simpa using h
  have hq : chip.poll = (true, chip) := by
    simp only [poll, hn, h, Bool.false_and, Bool.false_eq_true, if_false]
  rw [Drive.awaitInterrupt, Operation.ofBus, outcome_bind, outcome_mapFailure, Bus.poll,
    outcome_ask]
  simp only [device, hq]
  rfl

theorem outcome_status_pending {drive : Drive}
    (hp : drive.config.statusMode = .interrupt → 0 < drive.patience) {chip : Chip} {byte : UInt8}
    (h : chip.pending = some byte) :
    drive.status.outcome device chip = (.ok (Status.ofByte byte), chip.acknowledged) := by
  have ho := outcome_pollStatus chip
  rw [h, Option.getD_some] at ho
  unfold Drive.status
  split
  · next hm =>
    obtain ⟨patience, hp⟩ := Nat.exists_eq_add_of_lt (hp hm)
    have hw := outcome_awaitInterrupt (Option.isSome_of_mem h) patience
    unfold Drive.waitStatus
    rw [outcome_say_bind, hp, Nat.zero_add, outcome_bind_ok hw, ho]
  · exact ho

/-- A drive that waits without patience learns nothing. -/
theorem outcome_status_impatient {drive : Drive} (hm : drive.config.statusMode = .interrupt)
    (hz : drive.patience = 0) (chip : Chip) :
    drive.status.outcome device chip = (.error .stalled, chip) := by
  rw [Drive.status, hm, Drive.waitStatus, outcome_say_bind, hz]
  rfl

/-- A drive learns a pending status, unless it has no patience. -/
theorem outcome_status (drive : Drive) {chip : Chip} {status : Status}
    (hs : Status.ofByte status.byte = status) (hp : chip.pending = some status.byte)
    (h : chip.Ready) :
    ∃ result last, drive.status.outcome device chip = (result, last) ∧
      (result = .ok status ∨ result = .error .stalled) ∧ last.contents = chip.contents ∧
      last.Ready := by
  have hr : chip.acknowledged.Ready := ⟨rfl, h.plain⟩
  by_cases hw : drive.config.statusMode = .interrupt ∧ drive.patience = 0
  · exact ⟨_, chip, outcome_status_impatient hw.1 hw.2 chip, .inr rfl, rfl, h⟩
  · have ho := outcome_status_pending
      (fun hm => Nat.pos_of_ne_zero fun hz => hw ⟨hm, hz⟩) hp
    rw [hs] at ho
    exact ⟨_, _, ho, .inl rfl, rfl, hr⟩

/-- A command is carried out, and the drive learns the status it raised. -/
theorem outcome_commandStatus (drive : Drive) {command : Command} {chip : Chip} {status : Status}
    (hq : Quiet command.opcode) (hs : Status.ofByte status.byte = status)
    (hp : (chip.carryOut [command.opcode]).pending = some status.byte)
    (h : (chip.carryOut [command.opcode]).Ready) :
    ∃ result last, (drive.commandStatus command []).outcome device chip = (result, last) ∧
      (result = .ok status ∨ result = .error .stalled) ∧
      last.contents = (chip.carryOut [command.opcode]).contents ∧ last.Ready := by
  have hc : (Drive.sendCommand command []).outcome device chip =
      (.ok (), chip.carryOut [command.opcode]) := by
    rw [Drive.sendCommand, outcome_say_bind]
    exact outcome_sendCommand hq chip []
  obtain ⟨result, last, ho, hr, hl⟩ := outcome_status drive hs hp h
  rw [Drive.commandStatus, outcome_bind_ok hc]
  rcases hr with rfl | rfl
  · rw [outcome_bind_ok ho]
    exact ⟨_, last, rfl, .inl rfl, hl⟩
  · rw [outcome_bind_error ho]
    exact ⟨_, last, rfl, .inr rfl, hl⟩

/-- No status is injected for a command. -/
def Unforced (chip : Chip) (command : Command) : Prop :=
  ∀ status, (command.opcode, status) ∉ chip.injected

theorem takeInjected_of_not_mem {opcode : UInt8} {injected : List (UInt8 × UInt8)}
    (h : ∀ status, (opcode, status) ∉ injected) :
    takeInjected opcode injected = (none, injected) := by
  induction injected with
  | nil => rfl
  | cons entry rest ih =>
    have hk : entry.1 ≠ opcode := by
      rintro rfl
      exact h entry.2 List.mem_cons_self
    simp only [takeInjected, if_neg hk, ih fun status hm => h status (List.mem_cons_of_mem _ hm)]

/-- The status computed for a command is reported, unless another is injected for it. -/
theorem statusFor_unforced {chip : Chip} {command : Command} (h : chip.Unforced command)
    (status : UInt8) : chip.statusFor command.opcode status = (status, chip) := by
  simp only [statusFor, takeInjected_of_not_mem h, Option.getD_none]

theorem raise_unforced {chip : Chip} {command : Command} (h : chip.Unforced command)
    (status : Status) : chip.raise command status = { chip with pending := some status.byte } := by
  simp only [Chip.raise, statusFor_unforced h]

theorem unforced_of_plain {chip : Chip} (h : chip.injected = []) (command : Command) :
    chip.Unforced command := by
  simp [Unforced, h]

/-- A chip without injected statuses reports the status that a command computes. -/
theorem raise_plain {chip : Chip} (h : chip.injected = []) (command : Command) (status : Status) :
    chip.raise command status = { chip with pending := some status.byte } :=
  raise_unforced (unforced_of_plain h command) status

/-- The chip after the drive learnt the status of the command in `bytes`. -/
def reported (chip : Chip) (bytes : List UInt8) : Chip :=
  { chip with transactions := bytes :: chip.transactions }.acknowledged

theorem core_reported (chip : Chip) (bytes : List UInt8) :
    (chip.reported bytes).core = chip.core := by
  rw [reported, core_acknowledged]
  rfl

theorem inTransaction_reported (chip : Chip) (bytes : List UInt8) :
    (chip.reported bytes).inTransaction = false := rfl

section Raised

variable {drive : Drive} (hp : drive.config.statusMode = .interrupt → 0 < drive.patience)
  {command : Command} {arguments : List UInt8} {chip after : Chip} {status : Status}
  (hc : command.isInterrupting = true) (hs : Status.ofByte status.byte = status)
  (hx : chip.settled.complete (command.opcode :: arguments) = after.raise command status)
  (hj : after.Unforced command)

include hp hc hs hx hj

/-- A drive with some patience learns the status that a command raises. -/
theorem outcome_raised :
    (Drive.sendCommand command arguments >>= fun _ => drive.status).outcome device chip =
      (.ok status, after.reported (command.opcode :: arguments)) := by
  have ho : (Drive.sendCommand command arguments).outcome device chip =
      (.ok (), chip.carryOut (command.opcode :: arguments)) := by
    rw [Drive.sendCommand, outcome_say_bind]
    exact outcome_sendCommand (quiet_of_isInterrupting hc) chip arguments
  rw [carryOut_eq, hx, raise_unforced hj] at ho
  have hl := outcome_status_pending hp
    (show { after with
      pending := some status.byte
      transactions := (command.opcode :: arguments) :: after.transactions }.pending = _ from rfl)
  rw [outcome_bind_ok ho, hl, hs]
  rfl

end Raised

/-! ## Commands on the selected path -/

/-- The path that is selected. -/
def Contents.path (contents : Contents) : Path := contents.selected.getD []

/-- What a command on the selected path can do to the disk, and the status it raises. -/
inductive Effect (before : Contents) : Command → Status → Contents → Prop
  | entered : before.volume.isDirectory before.path = true →
      Effect before .fileOpen .openedDirectory
        { before with directory := before.path, openFile := none }
  | opened : (before.volume.file? before.path).isSome = true →
      Effect before .fileOpen .success { before with openFile := some before.path }
  | notOpened : before.volume.isDirectory before.path = false →
      Effect before .fileOpen .missing before
  | created :
      Effect before .fileCreate .success
        { before with
          volume := before.volume.insert before.path (.file [0])
          openFile := some before.path }
  | madeDirectory :
      Effect before .dirCreate .success
        { before with
          volume := before.volume.insert before.path .directory
          directory := before.path }
  | erased :
      Effect before .fileErase .success
        { before with
          volume := before.volume.erase before.path
          openFile := if before.openFile = some before.path then none else before.openFile }
  | refused {command : Command} {status : Status} : command ≠ .fileOpen → status ≠ .success →
      Effect before command status before

/-- How a command ends on a chip that reports the statuses it computes. -/
def Carries (before : Contents) (command : Command) (after : Chip) : Prop :=
  ∃ status, Effect before command status after.contents ∧ after.pending = some status.byte ∧
    after.injected = [] ∧ Status.ofByte status.byte = status

theorem Effect.raise {before : Contents} {chip : Chip} {command : Command} {status : Status}
    (he : Effect before command status chip.contents) (h : chip.injected = [])
    (hs : Status.ofByte status.byte = status) :
    Carries before command (chip.raise command status) := by
  rw [raise_plain h]
  exact ⟨status, he, rfl, h, hs⟩

section Effects

variable (chip : Chip) (h : chip.injected = [])

include h

theorem carries_open : Carries chip.contents .fileOpen chip.executeOpen := by
  rw [executeOpen]
  split
  · next hd => exact Effect.raise (.entered hd) h rfl
  · next hd =>
    split
    · next hf => exact Effect.raise (.opened hf) h rfl
    · exact Effect.raise (.notOpened (Bool.eq_false_iff.2 hd)) h rfl

theorem carries_create : Carries chip.contents .fileCreate chip.executeCreate := by
  rw [executeCreate]
  split
  · exact Effect.raise (.refused nofun nofun) h rfl
  · split
    · exact Effect.raise .created h rfl
    · exact Effect.raise (.refused nofun nofun) h rfl

theorem carries_createDirectory : Carries chip.contents .dirCreate chip.executeCreateDirectory := by
  rw [executeCreateDirectory]
  split
  · exact Effect.raise (.refused nofun nofun) h rfl
  · split
    · exact Effect.raise .madeDirectory h rfl
    · exact Effect.raise (.refused nofun nofun) h rfl

theorem carries_erase : Carries chip.contents .fileErase chip.executeErase := by
  rw [executeErase]
  split
  · exact Effect.raise .erased h rfl
  · exact Effect.raise (.refused nofun nofun) h rfl

end Effects

/-- The commands on the selected path. -/
def onSelected : List Command := [.fileOpen, .fileCreate, .dirCreate, .fileErase]

theorem carries_carryOut {command : Command} (hc : command ∈ onSelected) {chip : Chip}
    (h : chip.Ready) : Carries chip.contents command (chip.carryOut [command.opcode]) := by
  have hj : chip.settled.injected = [] := h.plain
  rw [carryOut_eq, complete, List.head?_cons, Option.bind_some, Command.ofOpcode?_opcode]
  simp only [onSelected, List.mem_cons, List.not_mem_nil, or_false] at hc
  rcases hc with rfl | rfl | rfl | rfl
  · exact carries_open chip.settled hj
  · exact carries_create chip.settled hj
  · exact carries_createDirectory chip.settled hj
  · exact carries_erase chip.settled hj

/-- A command on the selected path has its effect, and the drive learns the status of it. -/
theorem outcome_onSelected (drive : Drive) (command : Command) (hc : command ∈ onSelected)
    {chip : Chip} (h : chip.Ready) :
    ∃ result status last, (drive.commandStatus command []).outcome device chip = (result, last) ∧
      (result = .ok status ∨ result = .error .stalled) ∧
      Effect chip.contents command status last.contents ∧ last.Ready := by
  obtain ⟨status, he, hp, hj, hs⟩ := carries_carryOut hc h
  have hq : Quiet command.opcode := by
    apply quiet_of_isInterrupting
    simp only [onSelected, List.mem_cons, List.not_mem_nil, or_false] at hc
    rcases hc with rfl | rfl | rfl | rfl <;> rfl
  obtain ⟨result, last, ho, hr, hl, hd⟩ :=
    outcome_commandStatus drive hq hs hp ⟨inTransaction_finish _, hj⟩
  rw [← hl] at he
  exact ⟨result, status, last, ho, hr, he, hd⟩

end DiskBridge.Chip

import DiskBridge.Proofs.Courses
import DiskBridge.Proofs.RaisedStatuses
import DiskBridge.Proofs.Transactions

/-!
# What a chip signals

Interrupts depend on three things: whether a chip has a connection to report, what is queued on it,
and the status that is pending (`Signals`).

1. Inside a transaction the bytes received begin with the opcode of its command (`Receiving`), and
   the chip signals what it did before, unless the command reads the status or switches the mode.
2. At the end of a transaction an interrupting command leaves pending what is due for it, a reset
   clears everything but the queue, and the other commands change nothing (`signals_transactionOf`).
3. A poll in vain changes nothing, and what a poll raises is taken off the queue or is a connection
   (`poll_of_vain`, `poll_of_raised`).
4. A switch of the mode arms the chip only if it is accepted (`answers_modeCalls`), and the status
   that is read is the pending one (`answers_statusCalls`).
-/

namespace DiskBridge

open Dialogue Bus

/-! ## Calls of a transaction -/

/-- The calls of a transaction that begins with the opcode of a command. -/
def transactionOf (command : Command) (reply : UInt8) (rest : List (Event Bus)) :
    List (Event Bus) :=
  enclosed (⟨.exchange command.opcode, .ok reply⟩ :: rest)

/-- The same up to its end. -/
def openOf (command : Command) (reply : UInt8) (rest : List (Event Bus)) : List Chip.Entry :=
  Chip.called (⟨.begin, .ok ()⟩ :: ⟨.exchange command.opcode, .ok reply⟩ :: rest)

/-- The calls that switch the mode. -/
def modeCalls (mode answer reply reply' : UInt8) (span : Duration) : List (Event Bus) :=
  transactionOf .usbMode reply
    [⟨.exchange mode, .ok reply'⟩, ⟨.pause span, ()⟩, ⟨.exchange 0x00, .ok answer⟩]

/-- The calls that read the status. -/
def statusCalls (reply answer : UInt8) : List (Event Bus) :=
  transactionOf .status reply [⟨.exchange 0x00, .ok answer⟩]

theorem called_transactionOf (command : Command) (reply : UInt8) (rest : List (Event Bus)) :
    Chip.called (transactionOf command reply rest) =
      openOf command reply rest ++ [.call ⟨.finish, .ok ()⟩] := by
  simp [Chip.called, transactionOf, openOf, enclosed]

theorem Bus.Sent.exists_transactionOf {command : Command} {arguments : List UInt8}
    {body : List (Event Bus)} (h : Sent (command.opcode :: arguments) body) :
    ∃ reply rest, enclosed body = transactionOf command reply rest ∧
      ∀ event ∈ rest, Inner event := by
  obtain _ | @⟨_, reply, _, rest, hr⟩ := h
  exact ⟨reply, rest, rfl, hr.inner⟩

theorem inner_opcode {rest : List (Event Bus)} (hi : ∀ event ∈ rest, Inner event)
    (command : Command) (reply : UInt8) :
    ∀ event ∈ (⟨.exchange command.opcode, .ok reply⟩ :: rest : List (Event Bus)), Inner event :=
  List.forall_mem_cons.2 ⟨True.intro, hi⟩

namespace Chip

/-! ## Signals -/

/-- What of a chip interrupts depend on. -/
structure Signals where
  armed : Bool
  queued : List UInt8
  pending : Option UInt8

def signals (chip : Chip) : Signals where
  armed := chip.armed
  queued := chip.queued
  pending := chip.pending

theorem signals_nextChunk (chip : Chip) (left : Nat) :
    (chip.nextChunk left).2.signals = chip.signals := by
  unfold nextChunk
  split <;> rfl

/-- All that a byte of a transaction can change. -/
theorem exists_react (chip : Chip) (opcode : UInt8) (index : Nat) (byte : UInt8) :
    ∃ responses pending injected armed chunkScript cursor readLeft,
      chip.react opcode index byte =
        { chip with responses, pending, injected, armed, chunkScript, cursor, readLeft } := by
  have chunk (left : Nat) : ∃ chunkScript, (chip.nextChunk left).2 = { chip with chunkScript } := by
    unfold nextChunk
    split
    · exact ⟨_, rfl⟩
    · exact ⟨_, rfl⟩
  unfold react
  split
  case h_6 =>
    obtain ⟨chunkScript, h⟩ := chunk chip.readLeft
    simp only [offerChunk, h]
    exact ⟨_, _, _, _, _, _, _, rfl⟩
  case h_7 =>
    obtain ⟨chunkScript, h⟩ := chunk chip.writeLeft
    simp only [requestChunk, h]
    exact ⟨_, _, _, _, _, _, _, rfl⟩
  all_goals exact ⟨_, _, _, _, _, _, _, rfl⟩

theorem received_react (chip : Chip) (opcode : UInt8) (index : Nat) (byte : UInt8) :
    (chip.react opcode index byte).received = chip.received := by
  obtain ⟨_, _, _, _, _, _, _, h⟩ := chip.exists_react opcode index byte
  rw [h]

/-- The chip signals nothing else while a command is sent, unless that reads the status or switches
the mode. -/
theorem signals_react {command : Command} (hs : command ≠ .status) (hm : command ≠ .usbMode)
    (chip : Chip) (index : Nat) (byte : UInt8) :
    (chip.react command.opcode index byte).signals = chip.signals := by
  unfold react
  rw [Command.ofOpcode?_opcode]
  split
  case h_1 h => exact (hs (Option.some.inj h)).elim
  case h_4 h => exact (hm (Option.some.inj h)).elim
  case h_6 => exact signals_nextChunk chip _
  case h_7 => exact signals_nextChunk chip _
  all_goals rfl

/-- A chip in a transaction of a command. -/
structure Receiving (command : Command) (chip : Chip) : Prop where
  inTransaction : chip.inTransaction = true
  received : chip.received.head? = some command.opcode

section Receiving

variable {command : Command} {chip : Chip}

/-- A byte that is received, in a transaction of a command. -/
theorem Receiving.exchange_eq (h : Receiving command chip) (byte : UInt8) :
    (chip.exchange byte).2 =
      { chip with responses := chip.responses.tail, received := chip.received ++ [byte] }.react
        command.opcode chip.received.length byte := by
  rw [Chip.exchange_eq h.inTransaction, List.head?_append, h.received, Option.some_or,
    Option.getD_some]

theorem Receiving.inner (h : Receiving command chip) {event : Event Bus} (he : Inner event) :
    Receiving command (chip.undergo (.call event)) := by
  obtain ⟨request, reply⟩ := event
  cases request with
  | begin | finish | poll => exact he.elim
  | pause => exact h
  | exchange byte =>
    have hx : chip.undergo (.call ⟨.exchange byte, reply⟩) = (chip.exchange byte).2 := rfl
    rw [hx, h.exchange_eq]
    refine ⟨(inTransaction_react _ _ _ _).trans h.inTransaction, ?_⟩
    rw [received_react, List.head?_append, h.received, Option.some_or]

theorem signals_inner (hs : command ≠ .status) (hm : command ≠ .usbMode)
    (h : Receiving command chip) {event : Event Bus} (he : Inner event) :
    (chip.undergo (.call event)).signals = chip.signals := by
  obtain ⟨request, reply⟩ := event
  cases request with
  | begin | finish | poll => exact he.elim
  | pause => rfl
  | exchange byte =>
    have hx : chip.undergo (.call ⟨.exchange byte, reply⟩) = (chip.exchange byte).2 := rfl
    rw [hx, h.exchange_eq]
    exact signals_react hs hm _ _ _

theorem Receiving.body (h : Receiving command chip) {body : List (Event Bus)}
    (hi : ∀ event ∈ body, Inner event) :
    Receiving command (chip.through (called body)) ∧
      (command ≠ .status → command ≠ .usbMode →
        (chip.through (called body)).signals = chip.signals) := by
  induction body generalizing chip with
  | nil => exact ⟨h, fun _ _ => rfl⟩
  | cons event body ih =>
    obtain ⟨he, hb⟩ := List.forall_mem_cons.1 hi
    obtain ⟨hr, hl⟩ := ih (h.inner he) hb
    exact ⟨hr, fun hs hm => (hl hs hm).trans (signals_inner hs hm h he)⟩

theorem receiving_opcode (command : Command) (chip : Chip) :
    Receiving command (chip.begin.exchange command.opcode).2 ∧
      (command ≠ .status → command ≠ .usbMode →
        (chip.begin.exchange command.opcode).2.signals = chip.signals) := by
  rw [Chip.exchange_eq rfl]
  exact ⟨⟨inTransaction_react _ _ _ _, congrArg _ (received_react _ _ _ _)⟩,
    fun hs hm => signals_react hs hm _ _ _⟩

end Receiving

/-! ### The end of a transaction -/

theorem signals_complete_reset (chip : Chip) {bytes : List UInt8}
    (h : bytes.head? = some Command.reset.opcode) :
    (chip.complete bytes).signals = ⟨false, chip.queued, none⟩ := by
  rw [complete, h, Option.bind_some, Command.ofOpcode?_opcode]
  rfl

theorem signals_complete (chip : Chip) {command : Command} {bytes : List UInt8}
    (h : bytes.head? = some command.opcode) (hc : command.isInterrupting = false)
    (hr : command ≠ .reset) : (chip.complete bytes).signals = chip.signals := by
  rw [complete, h, Option.bind_some, Command.ofOpcode?_opcode]
  cases command with
  | reset => contradiction
  | routeInterrupt =>
    simp only [executeRoute]
    split <;> rfl
  | fileName | writeBuffer | version | selfTest | fileSize | usbMode | status | readBuffer => rfl
  | _ => cases hc

/-- An interrupting command leaves pending what is due, and signals nothing else. -/
theorem signals_complete_interrupting (chip : Chip) {command : Command} {bytes : List UInt8}
    (h : bytes.head? = some command.opcode) (hc : command.isInterrupting = true) :
    (chip.complete bytes).signals =
      { chip.signals with pending := some (chip.due command bytes) } := by
  obtain ⟨arguments, rfl⟩ : ∃ arguments, bytes = command.opcode :: arguments := by
    obtain _ | ⟨opcode, arguments⟩ := bytes
    · cases h
    · obtain rfl := Option.some.inj h
      exact ⟨arguments, rfl⟩
  rw [← pending_complete hc, complete, h, Option.bind_some, Command.ofOpcode?_opcode]
  cases command with
  | version | reset | selfTest | routeInterrupt | fileSize | usbMode | status | readBuffer
  | writeBuffer | fileName => cases hc
  | diskConnect | diskMount | fileClose | readMore | writeMore => rfl
  | fileOpen | fileCreate | dirCreate | fileErase | locate | write =>
    simp only [executeOpen, executeCreate, executeCreateDirectory, executeErase, executeLocate,
      executeWrite]
    split_ifs <;> rfl
  | read =>
    simp only [executeRead]
    cases chip.openData? <;> rfl

theorem Receiving.finish_eq {chip : Chip} {command : Command} (h : Receiving command chip) :
    chip.finish.signals =
      ({ chip with inTransaction := false, received := [] }.complete chip.received).signals := by
  rw [finish, if_pos h.inTransaction]
  rfl

/-! ## Polls -/

theorem poll_of_pending {chip : Chip} {status : UInt8} (h : chip.pending = some status) :
    chip.poll = (true, chip) := by
  simp [poll, h]

/-- A poll in vain changes nothing. -/
theorem poll_of_vain {chip : Chip} (h : chip.poll.1 = false) : chip.poll.2 = chip := by
  unfold poll at h ⊢
  dsimp only at h ⊢
  split
  · next hc =>
    rw [if_pos hc] at h
    split at h
    · cases h
    · split at h
      · next hq hl => rw [hq, if_pos hl]
      · cases h
  · rfl

/-- What a poll reports is taken off the queue, or else is a connection, and disarms the chip. -/
theorem poll_of_raised {chip : Chip} (hp : chip.pending = none) (h : chip.poll.1 = true) :
    (∃ status, chip.poll.2.pending = some status ∧ chip.queued = status :: chip.poll.2.queued ∧
        chip.poll.2.armed = chip.armed) ∨
      (chip.poll.2.pending = some 0x15 ∧ chip.queued = [] ∧ chip.poll.2.queued = [] ∧
        chip.armed = true ∧ chip.poll.2.armed = false) := by
  unfold poll at h ⊢
  dsimp only at h ⊢
  split at h
  · next hc =>
    rw [if_pos hc]
    split at h
    · next status rest hq =>
      rw [hq]
      exact .inl ⟨status, rfl, rfl, rfl⟩
    · next hq =>
      split at h
      · rw [hp] at h
        cases h
      · next hl =>
        rw [hq, if_neg hl]
        simp only [Bool.and_eq_true] at hc
        exact .inr ⟨rfl, rfl, rfl, hc.1.2, rfl⟩
  · rw [hp] at h
    cases h

/-! ## Whole transactions -/

section Transaction

variable {command : Command} (hs : command ≠ .status) (hm : command ≠ .usbMode)
  {rest : List (Event Bus)} (hi : ∀ event ∈ rest, Inner event)

include hi

theorem receiving_openOf (command : Command) (reply : UInt8) (chip : Chip) :
    Receiving command (chip.through (openOf command reply rest)) :=
  ((receiving_opcode command chip).1.body hi).1

include hs hm

theorem signals_openOf (reply : UInt8) (chip : Chip) :
    (chip.through (openOf command reply rest)).signals = chip.signals := by
  obtain ⟨hr, hl⟩ := receiving_opcode command chip
  exact ((hr.body hi).2 hs hm).trans (hl hs hm)

theorem signals_transactionOf (reply : UInt8) (chip : Chip) :
    let inside := chip.through (openOf command reply rest)
    (chip.through (called (transactionOf command reply rest))).signals =
      if command.isInterrupting then
        { chip.signals with pending := some (inside.due command inside.received) }
      else if command = .reset then ⟨false, chip.queued, none⟩
      else chip.signals := by
  intro inside
  have hr : Receiving command inside := receiving_openOf hi command reply chip
  have hl : inside.signals = chip.signals := signals_openOf hs hm hi reply chip
  have hf : chip.through (called (transactionOf command reply rest)) = inside.finish := by
    rw [called_transactionOf, through_append]
    rfl
  rw [hf, hr.finish_eq]
  split
  · next hc =>
    rw [signals_complete_interrupting _ hr.received hc, ← hl]
    rfl
  · next hc =>
    split
    · next he =>
      subst he
      rw [signals_complete_reset _ hr.received,
        ← show inside.queued = chip.queued from congrArg Signals.queued hl]
    · next he =>
      rw [signals_complete _ hr.received (Bool.eq_false_iff.2 hc) he, ← hl]
      rfl

end Transaction

theorem react_usbMode (chip : Chip) (byte : UInt8) :
    chip.react Command.usbMode.opcode 0 byte = chip ∧
      chip.react Command.usbMode.opcode 1 byte = chip.switchMode byte := by
  unfold react
  rw [Command.ofOpcode?_opcode]
  exact ⟨rfl, rfl⟩

theorem device_exchange {chip : Chip} (h : chip.inTransaction = true) (byte : UInt8) :
    device (.exchange byte) chip =
      { reply := .ok (chip.responses.head?.getD 0)
        state := { chip with
          responses := chip.responses.tail
          received := chip.received ++ [byte] }.react ((chip.received ++ [byte]).head?.getD byte)
            chip.received.length byte } := by
  simp only [device, exchange_eq h]

theorem state_exchange_addressed (chip : Chip) (bytes : List UInt8) (byte : UInt8) :
    (device (.exchange byte) (chip.addressed bytes)).state =
      (chip.addressed (bytes ++ [byte])).react ((bytes ++ [byte]).head?.getD byte)
        bytes.length byte := by
  rw [device_exchange rfl]
  rfl

/-- A switch of the mode arms the chip only if it is accepted. -/
theorem answers_modeCalls {chip last : Chip} {mode answer reply reply' : UInt8} {span : Duration}
    (h : Answers device chip (modeCalls mode answer reply reply' span) last) :
    last.signals = { chip.signals with
      armed := chip.armed || (answer = 0x51 && (mode = 0x05 || mode = 0x06)) } := by
  let asked := (chip.addressed [0x15, mode]).switchMode mode
  have hb : (device (.exchange Command.usbMode.opcode) chip.begin).state = chip.addressed [0x15] :=
    (state_exchange_addressed chip [] 0x15).trans (react_usbMode (chip.addressed [0x15]) 0x15).1
  have hm : (device (.exchange mode) (chip.addressed [0x15])).state = asked :=
    (state_exchange_addressed chip [0x15] mode).trans
      (react_usbMode (chip.addressed [0x15, mode]) mode).2
  have hx : device (.exchange 0x00) asked =
      { reply := .ok (asked.responses.head?.getD 0), state := asked.heard [0x00] } := by
    rw [device_exchange rfl]
    exact congrArg (Reaction.mk _ · []) (silent_two _ (asked.heard [0x00]) 2 0x00 (Nat.le_refl 2))
  simp only [modeCalls, transactionOf, enclosed, List.cons_append, List.nil_append,
    answers_cons_iff] at h
  obtain ⟨-, -, -, -, hr, -, hl⟩ := h
  rw [show (device .begin chip).state = chip.begin from rfl, hb, hm,
    show (device (.pause span) asked).state = asked from rfl, hx] at hr hl
  have ha : (chip.statusFor Command.usbMode.opcode Status.accepted.byte).1 = answer :=
    Except.ok.inj hr
  obtain rfl : (asked.heard [0x00]).finish = last := by
    cases hl
    rfl
  have hf : (asked.heard [0x00]).finish.signals = asked.signals := by
    rw [finish, if_pos (show (asked.heard [0x00]).inTransaction = true from rfl)]
    exact signals_complete _ (show _ = some Command.usbMode.opcode from rfl) rfl (by decide)
  rw [hf, ← ha]
  rfl

/-- The chip answers the pending status, which clears it. -/
theorem answers_statusCalls {chip last : Chip} {reply answer : UInt8}
    (h : Answers device chip (statusCalls reply answer) last) :
    answer = chip.pending.getD 0 ∧ last.signals = { chip.signals with pending := none } := by
  let asked := (chip.addressed [0x22]).reportStatus
  have hb : (device (.exchange Command.status.opcode) chip.begin).state = asked :=
    (state_exchange_addressed chip [] 0x22).trans (react_status (chip.addressed [0x22]) 0x22)
  have hx : device (.exchange 0x00) asked =
      { reply := .ok (chip.pending.getD 0), state := asked.heard [0x00] } := by
    rw [device_exchange rfl]
    exact congrArg (Reaction.mk _ · [])
      (silent_one (show Command.status ∈ _ by decide) (asked.heard [0x00]) 1 0x00 (Nat.le_refl 1))
  simp only [statusCalls, transactionOf, enclosed, List.cons_append, List.nil_append,
    answers_cons_iff] at h
  obtain ⟨-, -, hr, -, hl⟩ := h
  rw [show (device .begin chip).state = chip.begin from rfl, hb, hx] at hr hl
  have hf : (asked.heard [0x00]).finish.signals = asked.signals := by
    rw [finish, if_pos (show (asked.heard [0x00]).inTransaction = true from rfl)]
    exact signals_complete _ (show _ = some Command.status.opcode from rfl) rfl (by decide)
  obtain rfl : (asked.heard [0x00]).finish = last := by
    cases hl
    rfl
  rw [hf]
  exact ⟨(Except.ok.inj hr).symm, rfl⟩

end Chip

end DiskBridge

import DiskBridge.Proofs.Signals

/-!
# Observers of a history

Two observers follow the history of a chip.

1. The first follows the chip: which status is due for each interrupting command (`assignments`),
   and what a poll makes the chip report of its own accord (`notices`).
2. The second follows the calls alone: whom each status that was read is for (`readings`), and which
   switches of the mode were accepted (`acceptances`).

`Accounted` is the balance of both over a history at whose ends no status is pending. It holds of
histories one after the other if it holds of each (`Accounted.append`).
-/

namespace DiskBridge

open Dialogue Bus

/-! ## Observers -/

section Observed

variable {σ α : Type} {after : σ → Chip.Entry → σ} {note : σ → Chip.Entry → List α}

/-- What an observer notes along a history, going from state to state. -/
def observed (after : σ → Chip.Entry → σ) (note : σ → Chip.Entry → List α) :
    σ → List Chip.Entry → List α
  | _, [] => []
  | state, entry :: rest => note state entry ++ observed after note (after state entry) rest

theorem observed_append (state : σ) (before rest : List Chip.Entry) :
    observed after note state (before ++ rest) =
      observed after note state before ++ observed after note (before.foldl after state) rest := by
  induction before generalizing state with
  | nil => rfl
  | cons entry before ih =>
    rw [List.cons_append, observed, ih, observed, List.append_assoc, List.foldl_cons]

theorem observed_called (state : σ) (event : Event Bus) (events : List (Event Bus)) :
    observed after note state (Chip.called (event :: events)) =
      note state (.call event) ++
        observed after note (after state (.call event)) (Chip.called events) := rfl

/-- An observer that notes nothing of the beginning of a transaction and of what stands in it. -/
def Patient (note : σ → Chip.Entry → List α) : Prop :=
  ∀ state event, Inner event ∨ event.request = .begin → note state (.call event) = []

theorem Patient.observed_inner (hn : Patient note) {body : List (Event Bus)}
    (hi : ∀ event ∈ body, Inner event) (state : σ) :
    observed after note state (Chip.called body) = [] := by
  induction body generalizing state with
  | nil => rfl
  | cons event body ih =>
    obtain ⟨he, hb⟩ := List.forall_mem_cons.1 hi
    have hs : observed after note (after state (.call event)) (Chip.called body) = [] := ih hb _
    rw [Chip.called, List.map_cons, observed, hn state event (.inl he), List.nil_append]
    exact hs

/-- Of a transaction such an observer notes what it does at its end. -/
theorem Patient.observed_enclosed (hn : Patient note) {body : List (Event Bus)}
    (hi : ∀ event ∈ body, Inner event) (state : σ) :
    observed after note state (Chip.called (enclosed body)) =
      note ((Chip.called (⟨.begin, .ok ()⟩ :: body)).foldl after state)
        (.call ⟨.finish, .ok ()⟩) := by
  have he : Chip.called (enclosed body) =
      Chip.called (⟨.begin, .ok ()⟩ :: body) ++ [.call ⟨.finish, .ok ()⟩] := by
    simp [Chip.called, enclosed]
  have hb : observed after note state (Chip.called (⟨.begin, .ok ()⟩ :: body)) = [] := by
    rw [Chip.called, List.map_cons, observed, hn state _ (.inr rfl), List.nil_append]
    exact hn.observed_inner hi _
  rw [he, observed_append, hb, List.nil_append, observed, observed, List.append_nil]

end Observed

/-! ### The chip -/

namespace Chip

/-- The status that is due for an interrupting command, at the end of its transaction. -/
def assignment (chip : Chip) : Entry → List (Command × UInt8)
  | .call ⟨.finish, _⟩ =>
    match chip.received.head?.bind Command.ofOpcode? with
    | some command =>
      if chip.inTransaction ∧ command.isInterrupting then
        [(command, chip.due command chip.received)]
      else []
    | none => []
  | _ => []

/-- The statuses that are due for interrupting commands. -/
def assignments (chip : Chip) (history : List Entry) : List (Command × UInt8) :=
  observed undergo assignment chip history

/-- What a chip reports of its own accord. -/
inductive Notice where
  | queued (status : UInt8)
  | connection
  deriving DecidableEq

namespace Notice

def byte : Notice → UInt8
  | .queued status => status
  | .connection => 0x15

def queued? : Notice → Option UInt8
  | .queued status => some status
  | .connection => none

end Notice

/-- A chip without a pending status that has one after a poll reports something of its own accord:
the status that its queue has lost, or else a connection. -/
def noticed (chip : Chip) : Entry → List Notice
  | .call ⟨.poll, _⟩ =>
    match chip.pending, chip.poll.2.pending with
    | none, some status =>
      if chip.queued = status :: chip.poll.2.queued then [.queued status] else [.connection]
    | _, _ => []
  | _ => []

/-- What a chip reports of its own accord. -/
def notices (chip : Chip) (history : List Entry) : List Notice :=
  observed undergo noticed chip history

/-- The statuses that were queued. -/
def enqueued (history : List Entry) : List UInt8 :=
  history.filterMap fun
    | .prepared (.queueStatus status) => some status
    | _ => none

end Chip

/-! ### The calls -/

/-- Whom a status is for that is read: the interrupting command before it, a wait that has seen the
interrupt, or a caller who just asks. -/
inductive Recipient where
  | command (command : Command)
  | wait
  | caller
  deriving DecidableEq

structure Reading where
  recipient : Recipient
  status : UInt8
  deriving DecidableEq

namespace Reading

def ofCommand? : Reading → Option (Command × UInt8)
  | ⟨.command command, status⟩ => some (command, status)
  | _ => none

def ofWait? : Reading → Option UInt8
  | ⟨.wait, status⟩ => some status
  | _ => none

end Reading

/-- What is remembered of the calls. -/
structure Ear where
  /-- The command of the last transaction, if it is an interrupting one. -/
  command : Option Command := none
  /-- The interrupt was raised since the last transaction. -/
  raised : Bool := false
  /-- The bytes of the open transaction. -/
  block : Block := []

namespace Ear

def hear (ear : Ear) : Chip.Entry → Ear
  | .call ⟨.begin, _⟩ => { ear with block := [] }
  | .call ⟨.exchange byte, reply⟩ =>
    { ear with block := ear.block ++ (exchanged? ⟨.exchange byte, reply⟩).toList }
  | .call ⟨.finish, _⟩ => { command := (command? ear.block).filter Command.isInterrupting }
  | .call ⟨.poll, .ok true⟩ => { ear with raised := true }
  | _ => ear

def recipient (ear : Ear) : Recipient :=
  match ear.command with
  | some command => .command command
  | none => if ear.raised then .wait else .caller

def learnt (ear : Ear) : Chip.Entry → List Reading
  | .call ⟨.finish, _⟩ => (status? ear.block).toList.map (Reading.mk ear.recipient)
  | _ => []

end Ear

/-- The mode of a switch that was accepted, if it has the connection reported again. -/
def rearming? : Block → Option UInt8
  | [(opcode, _), (mode, _), (_, answer)] =>
    if opcode = 0x15 ∧ (mode = 0x05 ∨ mode = 0x06) ∧ answer = 0x51 then some mode else none
  | _ => none

def Ear.accepted (ear : Ear) : Chip.Entry → List UInt8
  | .call ⟨.finish, _⟩ => (rearming? ear.block).toList
  | _ => []

/-- The statuses that were read. -/
def readings (history : List Chip.Entry) : List Reading := observed Ear.hear Ear.learnt {} history

/-- The modes that were accepted and have the connection reported again. -/
def acceptances (history : List Chip.Entry) : List UInt8 :=
  observed Ear.hear Ear.accepted {} history

/-! ## The balance -/

/-- The balance of a history at whose ends no status is pending. -/
structure Accounted (chip : Chip) (history : List Chip.Entry) (last : Chip) : Prop where
  through : chip.through history = last
  idle : last.pending = none
  rest : history.foldl Ear.hear {} = {}
  commands : (readings history).filterMap Reading.ofCommand? = chip.assignments history
  waits : (readings history).filterMap Reading.ofWait? = (chip.notices history).map Chip.Notice.byte
  callers : ∀ status, ⟨.caller, status⟩ ∈ readings history → status = 0
  queue : (chip.notices history).filterMap Chip.Notice.queued? ++ last.queued =
    chip.queued ++ Chip.enqueued history
  connections : (chip.notices history).count .connection + last.armed.toNat ≤
    (acceptances history).length + chip.armed.toNat

theorem accounted_nil {chip : Chip} (h : chip.pending = none) : Accounted chip [] chip where
  through := rfl
  idle := h
  rest := rfl
  commands := rfl
  waits := rfl
  callers _ hm := by cases hm
  queue := (List.append_nil _).symm
  connections := by simp [Chip.notices, observed]

/-- After calls that leave nothing to be remembered, what is read does not depend on them. -/
theorem readings_append {before : List Chip.Entry} (h : before.foldl Ear.hear {} = {})
    (after : List Chip.Entry) : readings (before ++ after) = readings before ++ readings after := by
  rw [readings, observed_append, h]
  rfl

theorem Accounted.append {chip middle last : Chip} {before after : List Chip.Entry}
    (hb : Accounted chip before middle) (ha : Accounted middle after last) :
    Accounted chip (before ++ after) last := by
  have hr := readings_append hb.rest after
  have hc : acceptances (before ++ after) = acceptances before ++ acceptances after := by
    rw [acceptances, observed_append, hb.rest]
    rfl
  have hn : chip.notices (before ++ after) = chip.notices before ++ middle.notices after := by
    rw [Chip.notices, observed_append, ← hb.through]
    rfl
  have hs : chip.assignments (before ++ after) =
      chip.assignments before ++ middle.assignments after := by
    rw [Chip.assignments, observed_append, ← hb.through]
    rfl
  have hq : Chip.enqueued (before ++ after) = Chip.enqueued before ++ Chip.enqueued after :=
    List.filterMap_append
  constructor
  case through => rw [Chip.through_append, hb.through, ha.through]
  case idle => exact ha.idle
  case rest => rw [List.foldl_append, hb.rest, ha.rest]
  case commands => rw [hr, hs, List.filterMap_append, hb.commands, ha.commands]
  case waits => rw [hr, hn, List.filterMap_append, hb.waits, ha.waits, List.map_append]
  case callers =>
    intro status hm
    rw [hr, List.mem_append] at hm
    exact hm.elim (hb.callers status) (ha.callers status)
  case queue =>
    rw [hn, hq, List.filterMap_append, List.append_assoc, ha.queue, ← List.append_assoc, hb.queue,
      List.append_assoc]
  case connections =>
    have := hb.connections
    have := ha.connections
    rw [hn, hc, List.count_append, List.length_append]
    omega

theorem accounted_prepared {chip : Chip} (h : chip.pending = none)
    (preparation : Chip.Preparation) :
    Accounted chip [.prepared preparation] (chip.prepare preparation) where
  through := rfl
  idle := by cases preparation <;> exact h
  rest := rfl
  commands := rfl
  waits := rfl
  callers _ hm := by cases hm
  queue := by
    cases preparation with
    | queueStatus status => rfl
    | _ => exact (List.append_nil _).symm
  connections := by
    have ha : (chip.prepare preparation).armed = chip.armed := by cases preparation <;> rfl
    rw [ha]
    exact Nat.le_refl _

/-! ## What is observed of a transaction -/

namespace Chip

/-- The chip reports that of its own accord, and nothing else. -/
theorem noticed_of_raised {chip : Chip} (hp : chip.pending = none) (h : chip.poll.1 = true)
    (reply : Except Error Bool) :
    ∃ notice, chip.noticed (.call ⟨.poll, reply⟩) = [notice] ∧
      chip.poll.2.pending = some notice.byte ∧
      notice.queued?.toList ++ chip.poll.2.queued = chip.queued ∧
      [notice].count .connection + chip.poll.2.armed.toNat ≤ chip.armed.toNat := by
  rcases poll_of_raised hp h with ⟨status, hs, hq, ha⟩ | ⟨hs, hq, hq', ha, ha'⟩
  · refine ⟨.queued status, ?_, hs, hq.symm, ?_⟩
    · simp only [noticed, hp, hs]
      rw [if_pos hq]
    · rw [ha]
      exact Nat.le_of_eq (Nat.zero_add _)
  · refine ⟨.connection, ?_, hs, ?_, ?_⟩
    · simp only [noticed, hp, hs, hq]
      exact if_neg nofun
    · rw [hq, hq']
      rfl
    · rw [ha, ha']
      exact Nat.le_refl 1

theorem noticed_of_pending {chip : Chip} {status : UInt8} (h : chip.pending = some status)
    (reply : Except Error Bool) : chip.noticed (.call ⟨.poll, reply⟩) = [] := by
  simp only [noticed, h]

theorem noticed_of_vain {chip : Chip} (h : chip.poll.1 = false) (reply : Except Error Bool) :
    chip.noticed (.call ⟨.poll, reply⟩) = [] := by
  have hp : chip.poll.2.pending = none := Option.not_isSome_iff_eq_none.1 (Bool.eq_false_iff.1 h)
  simp only [noticed, hp]
  split
  · contradiction
  · rfl

theorem patient_assignment : Patient assignment := by
  rintro chip ⟨request, reply⟩ h
  cases request with
  | finish => cases h with | inl h => exact h.elim | inr h => cases h
  | _ => rfl

theorem patient_noticed : Patient noticed := by
  rintro chip ⟨request, reply⟩ h
  cases request with
  | poll => cases h with | inl h => exact h.elim | inr h => cases h
  | _ => rfl

end Chip

namespace Ear

theorem patient_learnt : Patient learnt := by
  rintro ear ⟨request, reply⟩ h
  cases request with
  | finish => cases h with | inl h => exact h.elim | inr h => cases h
  | _ => rfl

theorem hear_inner (ear : Ear) {body : List (Event Bus)} (hi : ∀ event ∈ body, Inner event) :
    (Chip.called body).foldl hear ear =
      { ear with block := ear.block ++ body.filterMap exchanged? } := by
  induction body generalizing ear with
  | nil =>
    rw [List.filterMap_nil, List.append_nil]
    rfl
  | cons event body ih =>
    obtain ⟨he, hb⟩ := List.forall_mem_cons.1 hi
    rw [Chip.called, List.map_cons, List.foldl_cons]
    obtain ⟨request, reply⟩ := event
    cases request with
    | begin | finish | poll => exact he.elim
    | pause => exact ih ear hb
    | exchange byte =>
      refine (ih _ hb).trans ?_
      simp only [hear, List.append_assoc]
      cases reply <;> rfl

end Ear

theorem command?_opcode (command : Command) (reply : UInt8) (block : Block) :
    command? ((command.opcode, reply) :: block) = some command :=
  Command.ofOpcode?_opcode command

theorem rearming?_switch (reply mode reply' filler answer : UInt8) :
    rearming? [(0x15, reply), (mode, reply'), (filler, answer)] =
      if (mode = 0x05 ∨ mode = 0x06) ∧ answer = 0x51 then some mode else none := by
  simp [rearming?]

section Transaction

variable {command : Command} (hs : command ≠ .status) {rest : List (Event Bus)}
  (hi : ∀ event ∈ rest, Inner event)

include hi

theorem hear_openOf (command : Command) (reply : UInt8) (ear : Ear) :
    (openOf command reply rest).foldl Ear.hear ear =
      { ear with block := (command.opcode, reply) :: rest.filterMap exchanged? } :=
  Ear.hear_inner { ear with block := [] } (inner_opcode hi command reply)

theorem hear_transactionOf (command : Command) (reply : UInt8) (ear : Ear) :
    (Chip.called (transactionOf command reply rest)).foldl Ear.hear ear =
      { command := (some command).filter Command.isInterrupting } := by
  rw [called_transactionOf, List.foldl_append, hear_openOf hi,
    ← command?_opcode command reply (rest.filterMap exchanged?)]
  rfl

theorem notices_transactionOf (command : Command) (reply : UInt8) (chip : Chip) :
    chip.notices (Chip.called (transactionOf command reply rest)) = [] :=
  Chip.patient_noticed.observed_enclosed (inner_opcode hi command reply) chip

include hs in
theorem learnt_transactionOf (reply : UInt8) (ear : Ear) :
    observed Ear.hear Ear.learnt ear (Chip.called (transactionOf command reply rest)) = [] := by
  refine (Ear.patient_learnt.observed_enclosed (inner_opcode hi command reply) ear).trans ?_
  change Ear.learnt ((openOf command reply rest).foldl Ear.hear ear) _ = []
  rw [hear_openOf hi]
  exact congrArg _ (congrArg _ (status?_of_command (command?_opcode command reply _) hs))

theorem assignments_transactionOf (command : Command) (reply : UInt8) (chip : Chip) :
    chip.assignments (Chip.called (transactionOf command reply rest)) =
      if command.isInterrupting then
        let inside := chip.through (openOf command reply rest)
        [(command, inside.due command inside.received)]
      else [] := by
  have hr := Chip.receiving_openOf hi command reply chip
  refine (Chip.patient_assignment.observed_enclosed (inner_opcode hi command reply) chip).trans ?_
  change Chip.assignment (chip.through (openOf command reply rest)) _ = _
  rw [Chip.assignment, hr.received, Option.bind_some, Command.ofOpcode?_opcode]
  simp only [hr.inTransaction, true_and]

end Transaction

section StatusCalls

variable (reply answer : UInt8) (chip : Chip) (ear : Ear)

theorem hear_statusCalls : (Chip.called (statusCalls reply answer)).foldl Ear.hear ear = {} := rfl

theorem learnt_statusCalls :
    observed Ear.hear Ear.learnt ear (Chip.called (statusCalls reply answer)) =
      [⟨ear.recipient, answer⟩] := rfl

/-- A status that is read after the interrupt was raised is for the wait that saw it. -/
theorem readings_raised :
    readings (Chip.called (⟨.poll, .ok true⟩ :: statusCalls reply answer)) = [⟨.wait, answer⟩] :=
  rfl

theorem notices_statusCalls : chip.notices (Chip.called (statusCalls reply answer)) = [] := rfl

theorem assignments_statusCalls :
    chip.assignments (Chip.called (statusCalls reply answer)) = [] := rfl

end StatusCalls

end DiskBridge

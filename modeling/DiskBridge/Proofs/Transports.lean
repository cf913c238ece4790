import DiskBridge.Proofs.AdapterTransparency
import DiskBridge.Proofs.Recovery
import DiskBridge.Proofs.ShownInterrupts
import DiskBridge.Proofs.Transfers
import DiskBridge.Proofs.Transparency

/-!
# Chips behind a transport

A drive seldom has the chip at hand: there is an adapter in between, or a bridge. `Transport` is
what such a bus has to do for the chip to be used through it. It passes calls on and replies back,
as long as the calls are bracketed and the interrupt is polled only while it is routed. The chip
itself is a transport, and so are a bridge (`Transport.bridge`) and a healthy adapter
(`Transport.adapter`).

1. The operations of a drive make such calls, apart from a bare reset (`conducted_of_perform`).
2. No call makes a chip less obliging (`obliging_call`), so it obliges to the end
   (`obliging_answers`).
3. Whatever an operation does to the core of a chip, it does through a transport to the chip behind
   it (`Linked.follow`), once a bring-up has put that in order (`linked_bringUp`).
-/

namespace DiskBridge

open Dialogue Bus Chip

/-! ## Transports -/

/-- A bus through which a chip is reached. -/
structure Transport (τ : Type) where
  bus : Machine Bus τ
  /-- The bus is at rest and reaches the chip. -/
  reaches : τ → Chip → Prop
  /-- Calls through it are calls of the chip, with the same replies. -/
  carries {used : τ} {chip last : Chip} {events : List (Event Bus)} :
    reaches used chip → chip.inTransaction = false → Bracketed events → chip.PollsRouted events →
      Answers Chip.device chip events last →
        ∃ next, Answers bus used events next ∧ reaches next last

namespace Remote

open Server

variable {τ : Type}

/-- The replies of a device that fails no call are short. -/
theorem fits_of_granted {event : Event Bus} (h : Granted event) : Fits event := by
  obtain ⟨_ | _ | _ | _ | _, reply⟩ := event
  case begin | finish =>
    cases h
    decide
  case exchange =>
    obtain ⟨byte, rfl⟩ := h
    show 9 ≤ maxMessage
    decide
  case poll =>
    obtain ⟨raised, rfl⟩ := h
    cases raised <;> decide
  case pause =>
    show 4 ≤ maxMessage
    decide

/-- A record of what is sent over a connection does not change what is sent. -/
theorem device_recorded (stream : Machine Stream τ) (call : Bus.Call) (state : τ)
    (events : List (Event Stream)) :
    (Client.device stream.recorded call (state, events)).reply =
        (Client.device stream call state).reply ∧
      (Client.device stream.recorded call (state, events)).state.1 =
        (Client.device stream call state).state := by
  have h {ε α : Type} (dialogue : Dialogue Stream ε α) :
      (dialogue.run stream.recorded (state, events) []).result =
          (dialogue.run stream state []).result ∧
        (dialogue.run stream.recorded (state, events) []).state.1 =
          (dialogue.run stream state []).state := by
    have ho := outcome_recorded stream dialogue state events
    rw [outcome_run _ _ _ [], outcome_run _ _ _ []] at ho
    exact Prod.mk.inj ho
  cases call with
  | begin | finish | exchange | poll => exact h _
  | pause => exact ⟨rfl, (h _).2⟩

theorem answers_of_recorded {stream : Machine Stream τ} {first last : τ × List (Event Stream)}
    {events : List (Event Bus)} (h : Answers (Client.device stream.recorded) first events last) :
    Answers (Client.device stream) first.1 events last.1 := by
  induction h with
  | nil state => exact .nil _
  | @cons call first last events _ ih =>
    obtain ⟨hr, hs⟩ := device_recorded stream call first.1 first.2
    rw [hs] at ih
    exact answers_cons_iff.2 ⟨hr.symm, ih⟩

end Remote

namespace Transport

/-- The chip at hand. -/
def direct : Transport Chip where
  bus := Chip.device
  reaches used chip := used = chip
  carries := by
    rintro _ chip last events rfl - - - ha
    exact ⟨last, ha, rfl⟩

/-- A connection to a bridge that serves the chip. -/
def bridge : Transport (Remote.Server.Peer Chip) where
  bus := Remote.Client.device (Remote.Server.peer Chip.device)
  reaches used chip := used = { device := chip }
  carries := by
    rintro _ chip last events rfl - hb - ha
    have hf : ∀ event ∈ events, Remote.Fits event :=
      fun event he => Remote.fits_of_granted (granted_of_device ha event he)
    obtain ⟨traffic, -, hn⟩ := Remote.answers_bridge ha hf false []
    rw [Remote.openAfter_bracketed hb] at hn
    exact ⟨_, Remote.answers_of_recorded hn, rfl⟩

/-- An adapter on a host on which every transfer completes, its interrupt pin, if any, among those
there are. -/
def adapter {τ : Type} {wired : Option UInt8} {host : Machine Usb τ}
    {pins : τ → Adapter.Pins Adapter.Watched} {ready : τ → List UInt8}
    (healthy : Adapter.Healthy wired host pins ready) (wiring : ∀ pin, wired = some pin → pin ≤ 7) :
    Transport (Adapter × τ) where
  bus := Adapter.device host
  reaches used chip := ∃ record, Adapter.Reaches wired pins false (chip, record) used
  carries := by
    rintro used chip last events ⟨record, hr⟩ - hb hp ha
    obtain ⟨next, hn, hr⟩ := Adapter.answers_adapter healthy wiring hb ha (fun _ => hp) hr
    exact ⟨next, hn, _, hr⟩

end Transport

/-! ## Operations -/

/-- Calls that a transport carries to a chip on which the interrupt is routed. -/
def Conducted (events : List (Event Bus)) : Prop :=
  Bracketed events ∧ ((∀ event ∈ events, Granted event) → KeepsRoute events)

theorem conducted : Concatenative Conducted where
  nil := ⟨.nil, fun _ => keepsRoute.nil⟩
  append hb ha := by
    refine ⟨bracketed.append hb.1 ha.1, fun hg => ?_⟩
    obtain ⟨hg, hg'⟩ := List.forall_mem_append.1 hg
    exact keepsRoute.append (hb.2 hg) (ha.2 hg')

/-- What an action performs, other than a bare reset, is so conducted. -/
theorem conducted_of_perform {ε α : Type} {operation : Dialogue Bus ε α}
    {next : Except ε α → Dialogue Bus Empty Drive.Report} (drive : Drive) (action : Drive.Action)
    (ha : action ≠ .reset) (he : drive.perform action = operation.attempt >>= next)
    (hn : ∀ ending, ∃ report, next ending = done report) : Always Conducted operation := by
  intro events result ht
  obtain ⟨report, hr⟩ := hn result
  have hp : Transcript (drive.perform action : Dialogue Bus Empty Drive.Report) events
      (.ok report) := by
    rw [he, ← List.append_nil events]
    exact ht.attempt.bind (hr ▸ .done report)
  refine ⟨Drive.disciplined_perform drive action _ _ hp, fun hg => ?_⟩
  obtain ⟨_, -, hd⟩ := Drive.recounted_perform drive ha events _ hp
  obtain ⟨deeds, hd, hr, -⟩ := hd hg
  exact hd.keepsRoute hr

/-- A conversation with the chip at hand is one through a transport that carries its calls. -/
theorem Transport.outcome_of_carried {τ ε α : Type} (transport : Transport τ)
    {dialogue : Dialogue Bus ε α} {used : τ} {chip last : Chip} {events : List (Event Bus)}
    {result : Except ε α} (hr : transport.reaches used chip) (hi : chip.inTransaction = false)
    (hb : Bracketed events) (hp : chip.PollsRouted events) (ht : Transcript dialogue events result)
    (ha : Answers Chip.device chip events last) :
    ∃ next, dialogue.outcome transport.bus used = (result, next) ∧
      transport.reaches next last := by
  obtain ⟨next, hn, hr⟩ := transport.carries hr hi hb hp ha
  exact ⟨next, outcome_of_transcript ht hn, hr⟩

/-! ## Obliging chips -/

/-- What a chip is prepared with from outside its bus. -/
structure Terms where
  attached : Bool
  connectLimit : Option Nat
  queued : List UInt8
  injected : List (UInt8 × UInt8)
  chunkScript : List Nat

def Chip.terms (chip : Chip) : Terms where
  attached := chip.attached
  connectLimit := chip.connectLimit
  queued := chip.queued
  injected := chip.injected
  chunkScript := chip.chunkScript

/-- A disk is plugged in, its connection may be reported any number of times, after at most
`backlog` other statuses, and statuses and the sizes of chunks are left to the chip. -/
structure Terms.Obliging (backlog : Nat) (terms : Terms) : Prop where
  attached : terms.attached = true
  connectLimit : terms.connectLimit = none
  queued : terms.queued.length ≤ backlog
  injected : terms.injected = []
  chunkScript : terms.chunkScript = []

/-- The terms of the chip are such. -/
abbrev Chip.Obliging (backlog : Nat) (chip : Chip) : Prop := chip.terms.Obliging backlog

namespace Chip

variable {backlog : Nat} {chip : Chip} (h : chip.Obliging backlog)

include h

theorem takeInjected_obliging (opcode : UInt8) : (takeInjected opcode chip.injected).2 = [] := by
  rw [show chip.injected = [] from h.injected]
  rfl

theorem obliging_raise (command : Command) (status : Status) :
    (chip.raise command status).Obliging backlog :=
  { h with injected := takeInjected_obliging h _ }

/-- A command changes at most what the chip has to report. -/
theorem obliging_complete (bytes : List UInt8) : (chip.complete bytes).Obliging backlog := by
  unfold complete
  split
  case h_5 => exact obliging_raise h .diskMount chip.diskStatus
  all_goals try exact h
  -- The other commands raise a status, whatever they find.
  all_goals simp only [executeRoute, executeConnect, executeOpen, executeCreate,
    executeCreateDirectory, executeErase, executeClose, executeLocate, executeRead, executeReadMore,
    executeWrite, executeWriteMore]
  all_goals repeat' split
  all_goals first
    | exact h
    | apply obliging_raise
      exact h

theorem obliging_react (opcode : UInt8) (index : Nat) (byte : UInt8) :
    (chip.react opcode index byte).Obliging backlog := by
  have hs : chip.chunkScript = [] := h.chunkScript
  unfold react
  split
  case h_4 => exact { h with injected := takeInjected_obliging h _ }
  case h_6 =>
    rw [offerChunk, nextChunk_plain hs]
    exact h
  case h_7 =>
    rw [requestChunk, nextChunk_plain hs]
    exact h
  all_goals exact h

/-- A poll takes a status off the queue, or leaves it as it is. -/
theorem obliging_poll : chip.poll.2.Obliging backlog := by
  unfold poll
  split
  · split
    · next status rest hq =>
      have hl : chip.queued.length ≤ backlog := h.queued
      rw [hq, List.length_cons] at hl
      exact { h with queued := Nat.le_of_succ_le hl }
    · split
      · exact h
      · refine { h with connectLimit := ?_ }
        show chip.connectLimit.map (· - 1) = none
        rw [show chip.connectLimit = none from h.connectLimit]
        rfl
  · exact h

/-- No call makes a chip less obliging. -/
theorem obliging_call (call : Bus.Call) : (device call chip).state.Obliging backlog := by
  cases call with
  | begin => exact h
  | finish =>
    show chip.finish.Obliging backlog
    unfold finish
    split
    · have hd : { chip with inTransaction := false, received := [] }.Obliging backlog := h
      exact obliging_complete hd chip.received
    · exact h
  | exchange byte =>
    have hd : { chip with
        overlapped := chip.overlapped || !chip.inTransaction
        responses := chip.responses.tail
        received := chip.received ++ [byte] }.Obliging backlog := h
    exact obliging_react hd ((chip.received ++ [byte]).head?.getD byte) chip.received.length byte
  | poll => exact obliging_poll h
  | pause => exact h

theorem obliging_answers {events : List (Event Bus)} {last : Chip}
    (ha : Answers device chip events last) : last.Obliging backlog := by
  induction ha with
  | nil => exact h
  | cons call _ ih => exact ih (obliging_call h call)

end Chip

/-! ## Through a transport -/

/-- The bus reaches an obliging chip that shows its interrupt. -/
structure Transport.Linked {τ : Type} (transport : Transport τ) (backlog : Nat) (used : τ)
    (chip : Chip) : Prop where
  reaches : transport.reaches used chip
  shows : chip.Shows
  obliging : chip.Obliging backlog

section Linked

variable {τ : Type} {transport : Transport τ} {backlog : Nat} {used : τ} {chip : Chip}

/-- A step of the core is taken through a transport. -/
theorem Transport.Linked.follow (h : transport.Linked backlog used chip) {ε α : Type}
    {dialogue : Dialogue Bus ε α} (hc : Always Conducted dialogue) {result : Except ε α}
    {after : Core} (ht : Takes dialogue chip.core result after) :
    ∃ next last, dialogue.outcome transport.bus used = (result, next) ∧
      transport.Linked backlog next last ∧ last.core = after := by
  obtain ⟨last, ho, hl, hi⟩ := ht chip rfl
  obtain ⟨events, ht, ha⟩ := transcript_of_outcome ho
  obtain ⟨hb, hk⟩ := hc events result ht
  obtain ⟨hp, hr⟩ := hk (granted_of_device ha) chip h.shows.routed
  rw [through_of_answers ha] at hr
  obtain ⟨next, hn, hr'⟩ := transport.outcome_of_carried h.reaches h.shows.idle hb hp ht ha
  exact ⟨next, last, hn, ⟨hr', ⟨hr, hi h.shows.idle⟩, obliging_answers h.obliging ha⟩, hl⟩

/-- A bring-up puts an obliging chip in order through a transport. -/
theorem Transport.linked_bringUp (hr : transport.reaches used chip)
    (hi : chip.inTransaction = false) (ho : chip.Obliging backlog) {drive : Drive}
    (hp : backlog < drive.patience) :
    ∃ next last, drive.bringUp.outcome transport.bus used = (.ok (), next) ∧
      transport.Linked backlog next last ∧ last.volume = chip.volume := by
  have hu : ∀ command : Command, chip.Unforced command := unforced_of_plain ho.injected
  obtain ⟨armed, hf, hs, ha, hq, hc⟩ := outcome_initialise hi (hu .usbMode)
  have hl : ∀ count, armed.connectLimit = some count → 2 ≤ count := by
    rw [hc, show chip.connectLimit = none from ho.connectLimit]
    exact nofun
  obtain ⟨last, hn, hs, -⟩ := outcome_connectDisk hs ho.attached ha hl fun command _ => hu command
  have hb : drive.bringUp.outcome Chip.device chip = (.ok (), last) := by
    rw [Drive.bringUp, outcome_say_bind, outcome_bind_ok (hf drive),
      outcome_bind_ok (hn drive (by rw [hq]; exact Nat.lt_of_le_of_lt ho.queued hp))]
    rfl
  obtain ⟨events, ht, ha⟩ := transcript_of_outcome hb
  obtain ⟨hp, -⟩ := (Drive.starts_bringUp drive events _ ht).routes (granted_of_device ha) chip
  obtain ⟨next, hn, hr⟩ := transport.outcome_of_carried hr hi
    (Drive.always_bringUp transferring_bracketed.toCommanding drive events _ ht) hp ht ha
  exact ⟨next, last, hn, ⟨hr, ⟨hs.routed, hs.idle⟩, obliging_answers ho ha⟩, hs.volume⟩

end Linked

end DiskBridge

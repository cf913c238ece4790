import DiskBridge.Adapter.Pins
import DiskBridge.Proofs.ChipSelect
import DiskBridge.Proofs.RoutedPolls
import Mathlib.Data.Nat.Bitwise

/-!
# An adapter is transparent

A drive that reaches a chip through a USB adapter gets the same answers as one that has it at hand,
and the chip gets the same calls, as long as every transfer completes.

1. `Healthy` says what a host with such an adapter does: the select pin opens and closes
   transactions, bytes are exchanged bit-reversed, and an input pin shows the interrupt.
2. The adapter and the select pin agree on whether a transaction is open (`Reaches`), and each call
   of the bus is one call of the chip (`Healthy.begin`, `Healthy.finish`, `Healthy.exchange`,
   `Healthy.poll`). A call inside a transaction is only carried while one is open, and a poll of the
   data line only outside, while the interrupt is routed there.
3. The calls of a session are such (`answers_adapter`): they are bracketed, and in a session that
   routes the interrupt first, it is routed at each poll.

`adapter_transparent` states it for every chip and every session.
-/

namespace DiskBridge.Adapter

open Dialogue Bus

/-- A byte has the bits of another in the opposite order. -/
def Mirrored (byte other : UInt8) : Prop :=
  ∀ index < 8, other.toNat.testBit index = byte.toNat.testBit (7 - index)

theorem mirrored_iff {byte other : UInt8} : Mirrored byte other ↔ other = reverseBits byte := by
  constructor
  · intro h
    apply eq_of_testBit_eq
    intro index hi
    rw [h index hi, testBit_reverseBits byte hi]
  · rintro rfl index hi
    exact testBit_reverseBits byte hi

/-- A chip with a record of the calls on it. -/
abbrev Watched := Chip × List (Event Bus)

variable {τ : Type}

/-- A USB host with an adapter on which every transfer completes in full, and a chip behind its
pins. The interrupt is wired to an input pin, or else shows on the data line; `ready` is what there
is to read. -/
structure Healthy (wired : Option UInt8) (host : Machine Usb τ) (pins : τ → Pins Watched)
    (ready : τ → List UInt8) : Prop where
  /-- A stream that drives the pins sets the select pin. -/
  selecting (outputs : UInt8) (rest : List UInt8) (state : τ) :
    let reaction := host (.bulkWrite (pinStream :: outputs :: rest)) state
    reaction.reply = .ok (rest.length + 2) ∧
      pins reaction.state = (pins state).select Chip.device.recorded outputs
  /-- A byte is exchanged with the chip with its bits in the opposite order, both ways. -/
  exchanging {byte sent : UInt8} (mirrored : Mirrored byte sent) (state : τ) :
    let reaction := host (.bulkWrite [exchangeStream, byte]) state
    let answer := Chip.device.recorded (.exchange sent) (pins state).behind
    reaction.reply = .ok 2 ∧ pins reaction.state = { pins state with behind := answer.state } ∧
      ∀ received, answer.reply = .ok received →
        ∃ shown, Mirrored received shown ∧ ready reaction.state = [shown]
  /-- The pins are answered in six bytes. The bit of the pin that carries the interrupt is clear
  while the interrupt is raised; on the data line, only if the chip is deselected and drives it. -/
  sampling (state : τ) :
    let reaction := host (.bulkWrite [readPins]) state
    let answer := Chip.device.recorded .poll (pins state).behind
    reaction.reply = .ok 1 ∧ pins reaction.state = { pins state with behind := answer.state } ∧
      ∃ levels others, ready reaction.state = levels :: others ∧ others.length = 5 ∧
        (levels.toNat.testBit (wired.getD dataPin).toNat = false ↔
          answer.reply = .ok true ∧ (wired = none →
            (pins state).low = false ∧ (pins state).behind.1.interruptRouted = true))
  /-- What is ready is read. -/
  reading (state : τ) :
    let reaction := host (.bulkRead (ready state).length) state
    reaction.reply = .ok (ready state) ∧ pins reaction.state = pins state

/-! ## Transfers -/

section Transfers

variable {host : Machine Usb τ} {state : τ}

theorem outcome_writeAll_ok {bytes : List UInt8}
    (h : (host (.bulkWrite bytes) state).reply = .ok bytes.length) :
    (writeAll bytes).outcome host state = (.ok (), (host (.bulkWrite bytes) state).state) := by
  rw [outcome_writeAll, written_eq_ok_iff.2 h]

theorem outcome_readExact {count : Nat} {bytes : List UInt8} (hl : bytes.length = count)
    (h : (host (.bulkRead count) state).reply = .ok bytes) :
    (readExact count).outcome host state = (.ok bytes, (host (.bulkRead count) state).state) := by
  rw [readExact, outcome_ask, h]
  show (if _ then _ else _ : Dialogue Usb Error (List UInt8)).outcome _ _ = _
  rw [if_neg (not_not_intro hl)]
  rfl

end Transfers

/-- A pin is low if its bit is clear. -/
theorem mask_eq_zero_iff (levels : UInt8) {pin : UInt8} (h : pin ≤ 7) :
    levels &&& (1 <<< pin) = 0 ↔ levels.toNat.testBit pin.toNat = false := by
  have hp : pin.toNat < 8 := Nat.lt_succ_of_le (UInt8.le_iff_toNat_le.1 h)
  have hm : ((1 : UInt8) <<< pin).toNat = 2 ^ pin.toNat := by
    rw [UInt8.toNat_shiftLeft, Nat.mod_eq_of_lt hp, UInt8.toNat_one, Nat.one_shiftLeft]
    exact Nat.mod_eq_of_lt (Nat.pow_lt_pow_right (by decide) hp)
  rw [← UInt8.toNat_inj, UInt8.toNat_and, hm, Nat.and_two_pow]
  cases levels.toNat.testBit pin.toNat <;> simp

/-! ## Calls -/

/-- An adapter in use on a host, which reaches a chip behind it. Its select pin is low exactly while
the adapter takes a transaction for open. -/
structure Reaches (wired : Option UInt8) (pins : τ → Pins Watched) (opened : Bool)
    (behind : Watched) (used : Adapter × τ) : Prop where
  adapter : used.1 = { intPin := wired, inTransaction := opened }
  pins : pins used.2 = ⟨opened, behind⟩

section Calls

variable {wired : Option UInt8} {host : Machine Usb τ} {pins : τ → Pins Watched}
  {ready : τ → List UInt8} (healthy : Healthy wired host pins ready) {behind : Watched}
  {used : Adapter × τ}

include healthy

theorem Healthy.outcome_selectChip (select : Bool) (state : τ) :
    ∃ next, (selectChip select).outcome host state = (.ok (), next) ∧
      pins next = (pins state).select Chip.device.recorded
        (pinsOut ||| if select then selected else deselected) := by
  obtain ⟨hr, hp⟩ := healthy.selecting (pinsOut ||| if select then selected else deselected)
    [pinsDirection ||| directions, pinsEnd] state
  exact ⟨_, outcome_writeAll_ok hr, hp⟩

theorem Healthy.begin (h : Reaches wired pins false behind used) :
    let reaction := Adapter.device host .begin used
    reaction.reply = .ok () ∧
      Reaches wired pins true (Chip.device.recorded .begin behind).state reaction.state := by
  obtain ⟨adapter, state⟩ := used
  obtain ⟨rfl, hp⟩ := h
  obtain ⟨next, ho, hn⟩ := healthy.outcome_selectChip true state
  obtain ⟨hr, hs⟩ := run_of_outcome ho []
  refine ⟨hr, ?_, ?_⟩
  · show Adapter.mk wired (false || ((selectChip true).run host state []).result.toBool) = _
    rw [hr]
    rfl
  · show pins ((selectChip true).run host state []).state = _
    rw [hs, hn, hp]
    rfl

theorem Healthy.finish (h : Reaches wired pins true behind used) :
    let reaction := Adapter.device host .finish used
    reaction.reply = .ok () ∧
      Reaches wired pins false (Chip.device.recorded .finish behind).state reaction.state := by
  obtain ⟨adapter, state⟩ := used
  obtain ⟨rfl, hp⟩ := h
  obtain ⟨next, ho, hn⟩ := healthy.outcome_selectChip false state
  obtain ⟨hr, hs⟩ := run_of_outcome ho []
  refine ⟨hr, rfl, ?_⟩
  show pins ((selectChip false).run host state []).state = _
  rw [hs, hn, hp]
  rfl

/-- A command that leaves something ready, and the reading of it. -/
theorem Healthy.outcome_converse {α : Type} {bytes answer : List UInt8} {state : τ}
    (hw : (host (.bulkWrite bytes) state).reply = .ok bytes.length)
    (ha : ready (host (.bulkWrite bytes) state).state = answer) {count : Nat}
    (hl : answer.length = count) (next : List UInt8 → Dialogue Usb Error α) :
    ∃ last, (writeAll bytes >>= fun _ => readExact count >>= next).outcome host state =
        (next answer).outcome host last ∧
      pins last = pins (host (.bulkWrite bytes) state).state := by
  obtain ⟨hr, hp⟩ := healthy.reading (host (.bulkWrite bytes) state).state
  rw [ha, hl] at hr hp
  refine ⟨_, ?_, hp⟩
  rw [outcome_bind_ok (outcome_writeAll_ok hw), outcome_bind_ok (outcome_readExact hl hr)]

/-- The bits of a byte are reversed on the way to the chip and back. -/
theorem Healthy.exchange (h : Reaches wired pins true behind used) (byte : UInt8) :
    let reaction := Adapter.device host (.exchange byte) used
    let answer := Chip.device.recorded (.exchange byte) behind
    reaction.reply = answer.reply ∧ Reaches wired pins true answer.state reaction.state := by
  intro reaction answer
  obtain ⟨adapter, state⟩ := used
  obtain ⟨rfl, hp⟩ := h
  have hm : Mirrored (reverseBits byte) byte := mirrored_iff.2 (reverseBits_reverseBits byte).symm
  obtain ⟨hr, hs, ha⟩ := healthy.exchanging hm state
  rw [hp] at hs ha
  obtain ⟨received, hx⟩ : ∃ received, answer.reply = .ok received := ⟨_, rfl⟩
  obtain ⟨shown, hm, ha⟩ := ha received hx
  obtain rfl := mirrored_iff.1 hm
  obtain ⟨last, ho, hl⟩ := healthy.outcome_converse hr ha rfl
    fun answer => (done (reverseBits (answer.headD 0)) : Dialogue Usb Error UInt8)
  have he : (Adapter.exchange ⟨wired, true⟩ byte).outcome host state = (.ok received, last) := by
    refine ho.trans ?_
    rw [List.headD_cons, reverseBits_reverseBits]
    rfl
  obtain ⟨hr, hn⟩ := run_of_outcome he []
  refine ⟨hr.trans hx.symm, rfl, ?_⟩
  show pins ((Adapter.exchange ⟨wired, true⟩ byte).run host state []).state = _
  rw [hn, hl, hs]

/-- The pin that carries the interrupt is low while it is raised. -/
theorem Healthy.poll (hw : ∀ pin, wired = some pin → pin ≤ 7)
    (hc : wired = none → behind.1.interruptRouted = true)
    (h : Reaches wired pins false behind used) :
    let reaction := Adapter.device host .poll used
    let answer := Chip.device.recorded .poll behind
    reaction.reply = answer.reply ∧ Reaches wired pins false answer.state reaction.state := by
  intro reaction answer
  obtain ⟨adapter, state⟩ := used
  obtain ⟨rfl, hp⟩ := h
  obtain ⟨hr, hs, levels, others, ha, hl, hb⟩ := healthy.sampling state
  rw [hp] at hs hb
  obtain ⟨raised, hx⟩ : ∃ raised, answer.reply = .ok raised := ⟨_, rfl⟩
  have hm : decide (levels &&& (1 <<< wired.getD dataPin) = 0) = raised := by
    have hv : wired.getD dataPin ≤ 7 := by
      cases wired with
      | none => decide
      | some pin => exact hw pin rfl
    rw [Bool.eq_iff_iff, decide_eq_true_iff, mask_eq_zero_iff levels hv, hb,
      show (Chip.device.recorded .poll behind).reply = _ from hx]
    exact ⟨fun h => Except.ok.inj h.1, fun h => ⟨congrArg _ h, fun hn => ⟨rfl, hc hn⟩⟩⟩
  obtain ⟨last, ho, hl⟩ := healthy.outcome_converse hr ha (congrArg (· + 1) hl)
    fun levels =>
      (done (levels.headD 0 &&& (1 <<< wired.getD dataPin) = 0) : Dialogue Usb Error Bool)
  have he : (Adapter.poll ⟨wired, false⟩).outcome host state = (.ok raised, last) := by
    rw [Adapter.poll, if_neg (by simp)]
    refine ho.trans ?_
    rw [List.headD_cons, hm]
    rfl
  obtain ⟨hr, hn⟩ := run_of_outcome he []
  refine ⟨hr.trans hx.symm, rfl, ?_⟩
  show pins ((Adapter.poll ⟨wired, false⟩).run host state []).state = _
  rw [hn, hl, hs]

end Calls

/-! ## Sessions -/

/-- The call reaches the chip: the adapter spends a pause itself. -/
def forwarded (event : Event Bus) : Bool :=
  match event.request with
  | .pause _ => false
  | .begin | .finish | .exchange _ | .poll => true

/-- The record of a chip after some calls on the bus. -/
def entered (events record : List (Event Bus)) : List (Event Bus) :=
  (events.filter forwarded).reverse ++ record

theorem entered_append (before after record : List (Event Bus)) :
    entered (before ++ after) record = entered after (entered before record) := by
  simp [entered]

theorem entered_cons {event : Event Bus} (h : forwarded event = true)
    (events record : List (Event Bus)) :
    entered (event :: events) record = entered events (event :: record) := by
  simp [entered, h]

section Sessions

variable {wired : Option UInt8} {host : Machine Usb τ} {pins : τ → Pins Watched}
  {ready : τ → List UInt8} (healthy : Healthy wired host pins ready) {chip last : Chip}
  {record : List (Event Bus)} {used : Adapter × τ}

theorem Reaches.pause {opened : Bool} {behind : Watched} (h : Reaches wired pins opened behind used)
    (span : Duration) :
    Reaches wired pins opened behind (Adapter.device host (.pause span) used).state :=
  ⟨h.adapter, h.pins⟩

include healthy

/-- What stands inside a transaction. -/
theorem answers_inner {body : List (Event Bus)} (hi : ∀ event ∈ body, Inner event)
    (ha : Answers Chip.device chip body last) (h : Reaches wired pins true (chip, record) used) :
    ∃ next, Answers (Adapter.device host) used body next ∧
      Reaches wired pins true (last, entered body record) next := by
  induction body generalizing chip record used with
  | nil =>
    cases ha
    exact ⟨used, .nil used, h⟩
  | cons event body ih =>
    obtain ⟨he, hb⟩ := List.forall_mem_cons.1 hi
    obtain ⟨request, reply⟩ := event
    obtain ⟨rfl, hn⟩ := answers_cons_iff.1 ha
    cases request with
    | begin | finish | poll => exact he.elim
    | exchange byte =>
      obtain ⟨hr, h⟩ := healthy.exchange h byte
      obtain ⟨next, ha, h⟩ := ih hb hn h
      rw [entered_cons rfl]
      exact ⟨next, answers_cons_iff.2 ⟨hr, ha⟩, h⟩
    | pause span =>
      obtain ⟨next, ha, h⟩ := ih hb hn (h.pause span)
      exact ⟨next, answers_cons_iff.2 ⟨rfl, ha⟩, h⟩

/-- Calls through the adapter are calls of the chip, with the same replies. -/
theorem answers_adapter (hw : ∀ pin, wired = some pin → pin ≤ 7) {events : List (Event Bus)}
    (hb : Bracketed events) (ha : Answers Chip.device chip events last)
    (hc : wired = none → chip.PollsRouted events)
    (h : Reaches wired pins false (chip, record) used) :
    ∃ next, Answers (Adapter.device host) used events next ∧
      Reaches wired pins false (last, entered events record) next := by
  induction hb generalizing chip record used with
  | nil =>
    cases ha
    exact ⟨used, .nil used, h⟩
  | pause span _ ih =>
    obtain ⟨-, hn⟩ := answers_cons_iff.1 ha
    obtain ⟨next, ha, h⟩ := ih hn (fun hw => (hc hw).2) (h.pause span)
    exact ⟨next, answers_cons_iff.2 ⟨rfl, ha⟩, h⟩
  | poll reply _ ih =>
    obtain ⟨rfl, hn⟩ := answers_cons_iff.1 ha
    obtain ⟨hr, h⟩ := healthy.poll hw (fun hw => (hc hw).1 rfl) h
    obtain ⟨next, ha, h⟩ := ih hn (fun hw => (hc hw).2) h
    rw [entered_cons rfl]
    exact ⟨next, answers_cons_iff.2 ⟨hr, ha⟩, h⟩
  | refused error _ _ =>
    obtain ⟨hr, -⟩ := answers_cons_iff.1 ha
    cases hr
  | @block reply body rest hi _ ih =>
    obtain ⟨-, hn⟩ := answers_cons_iff.1 ha
    obtain ⟨inside, hi', hf⟩ := answers_append_iff.1 hn
    obtain ⟨rfl, hl⟩ := answers_cons_iff.1 hf
    have hc : wired = none → (Chip.device .finish inside).state.PollsRouted rest := by
      intro hw
      have hp := (Chip.pollsRouted_append.1 (hc hw).2).2.2
      rw [show (chip.undergo (.call ⟨.begin, .ok ()⟩)).through (Chip.called body) = inside from
        Chip.through_of_answers hi'] at hp
      exact hp
    obtain ⟨hb, h⟩ := healthy.begin h
    obtain ⟨middle, hm, h⟩ := answers_inner healthy hi hi' h
    obtain ⟨he, h⟩ := healthy.finish h
    obtain ⟨next, hn, h⟩ := ih hl hc h
    refine ⟨next, answers_cons_iff.2 ⟨hb, answers_append_iff.2 ⟨middle, hm,
      answers_cons_iff.2 ⟨he, hn⟩⟩⟩, ?_⟩
    rw [entered_cons rfl, entered_append, entered_cons rfl]
    exact h

/-- **Transparency.** Take a host on which every transfer completes, and any chip behind the pins of
its adapter. If no pin is wired to the interrupt, the session begins with an action that routes the
interrupt to the data line, and has no bare reset. Through the adapter a session gives the same
reports, and the chip gets the same calls, the pauses apart, and ends in the same state,
deselected. -/
theorem adapter_transparent (drive : Drive) (actions : List Drive.Action)
    (wiring : ∀ pin, wired = some pin → pin ≤ 7) (route : wired = none → Drive.Initialised actions)
    {state : τ} (start : pins state = ⟨false, chip, []⟩) (journal : Journal) :
    let session : Dialogue Bus Empty (List Drive.Report) := drive.session actions
    let direct := session.run Chip.device.recorded (chip, []) journal
    let carried := session.run (Adapter.device host) ({ intPin := wired }, state) journal
    carried.result = direct.result ∧ carried.state.1 = { intPin := wired } ∧
      pins carried.state.2 = ⟨false, direct.state.1, direct.state.2.filter forwarded⟩ := by
  intro session direct carried
  obtain ⟨ht, ha⟩ := transcript_recorded Chip.device session chip journal
  have ha : Answers Chip.device chip direct.state.2.reverse direct.state.1 := ha.of_recorded
  have hb : Bracketed direct.state.2.reverse := by
    obtain ⟨reports, traces, -, he, hd⟩ := Drive.transcript_session drive ht
    rw [he]
    exact .flatten hd.bracketed
  have hc : wired = none → chip.PollsRouted direct.state.2.reverse := fun hw =>
    Drive.session_pollsRouted (route hw) ht (Chip.granted_of_device ha) chip
  have hs : Reaches wired pins false (chip, []) ({ intPin := wired }, state) := ⟨rfl, start⟩
  -- The adapter gives the answers of the chip, so the session goes the same way.
  obtain ⟨next, hn, h⟩ := answers_adapter healthy wiring hb ha hc hs
  obtain ⟨hr, hl⟩ := run_of_transcript ht hn journal
  refine ⟨hr, ?_, ?_⟩
  · rw [show carried.state = next from hl]
    exact h.adapter
  · rw [show carried.state = next from hl, h.pins, entered, List.append_nil, List.filter_reverse,
      List.reverse_reverse]

end Sessions

/-! ## A healthy host -/

/-- The chip as the input pins show it: without a wired pin, its interrupt is hidden while the chip
is selected or does not drive the data line. -/
def shown (wired : Option UInt8) (low : Bool) : Machine Bus Watched
  | .poll, watched =>
    let reaction := Chip.device.recorded .poll watched
    let visible := wired.isSome || !low && watched.1.interruptRouted
    { reaction with reply := reaction.reply.map (· && visible) }
  | call, watched => Chip.device.recorded call watched

/-- The least host: the pins of one adapter, and what there is to read. -/
def steady (wired : Option UInt8) : Machine Usb (Pins Watched × List UInt8)
  | .bulkWrite bytes, (pins, _) =>
    let (answers, next) := pins.obey (shown wired pins.low) (wired.getD dataPin) bytes
    { reply := .ok bytes.length, state := (next, answers.flatten) }
  | .bulkRead _, (pins, ready) => { reply := .ok ready, state := (pins, []) }
  | .prepare, state | .openDevice _, state | .detachDriver, state | .claim, state
  | .release, state => { reply := .ok (), state }
  | .logLevel _, state | .close, state => { reply := (), state }
  | .list, state => { reply := .ok [⟨1, 2⟩], state }
  | .descriptor _, state => { reply := .ok identity, state }

theorem testBit_inputs {pin : UInt8} (h : pin ≤ 7) (raised : Bool) :
    ((Pins.inputs pin raised).headD 0).toNat.testBit pin.toNat = !raised := by
  have all : ∀ k : Fin 8, ((Pins.inputs (UInt8.ofNat k) raised).headD 0).toNat.testBit k =
      !raised := by
    cases raised <;> decide
  have hp : pin.toNat < 8 := Nat.lt_succ_of_le (UInt8.le_iff_toNat_le.1 h)
  simpa using all ⟨pin.toNat, hp⟩

theorem healthy_steady {wired : Option UInt8} (h : wired.getD dataPin ≤ 7) :
    Healthy wired (steady wired) Prod.fst Prod.snd where
  selecting outputs rest state := ⟨rfl, rfl⟩
  exchanging {byte sent} mirrored state := by
    obtain rfl := mirrored_iff.1 mirrored
    refine ⟨rfl, rfl, fun received hr => ⟨_, mirrored_iff.2 rfl, ?_⟩⟩
    cases hr
    rfl
  sampling state := by
    let raised := state.1.behind.1.poll.1
    let visible := wired.isSome || !state.1.low && state.1.behind.1.interruptRouted
    refine ⟨rfl, rfl, _, _, rfl, rfl, ?_⟩
    show ((Pins.inputs (wired.getD dataPin) (raised && visible)).headD 0).toNat.testBit
        (wired.getD dataPin).toNat = false ↔
      (Except.ok raised : Except Error Bool) = .ok true ∧ (wired = none →
        state.1.low = false ∧ state.1.behind.1.interruptRouted = true)
    rw [testBit_inputs h]
    cases wired with
    | none => simp [visible]
    | some pin => simp [visible]
  reading state := ⟨rfl, rfl⟩

/-- A disk is brought up and a file on it opened and read, with the interrupt on the data line. -/
theorem adapter_transparent_dataLine :
    let drive : Drive := { config := {}, patience := 3 }
    let actions : List Drive.Action := [.bringUp, .openPath "/A", .read [0, 0, 0]]
    let chip : Chip := .stocked true [] [("/A".toList, [7, 8])]
    let start : Pins Watched × List UInt8 := (⟨false, chip, []⟩, [])
    let session : Dialogue Bus Empty (List Drive.Report) := drive.session actions
    let direct := session.run Chip.device.recorded (chip, []) []
    let carried := session.run (Adapter.device (steady none)) ({ intPin := none }, start) []
    Drive.Initialised actions ∧ carried.result = direct.result ∧
      carried.state.1 = { intPin := none } ∧
      carried.state.2.1 = ⟨false, direct.state.1, direct.state.2.filter forwarded⟩ := by
  intro drive actions chip start
  have hh : Healthy none (steady none) Prod.fst Prod.snd := healthy_steady (by decide)
  have ha : Drive.Initialised actions := by
    refine ⟨.inr rfl, ?_⟩
    decide
  have hs : start.1 = ⟨false, chip, []⟩ := rfl
  exact ⟨ha, adapter_transparent hh drive actions (by simp) (fun _ => ha) hs []⟩

end DiskBridge.Adapter

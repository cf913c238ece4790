import DiskBridge.Proofs.Deeds
import DiskBridge.Proofs.Observers

/-!
# Interrupts are accounted for

A chip has one place for the status that raises its interrupt. Commands put their statuses there,
and so does a poll of a chip that has a status queued or a connection to report. A drive reads the
statuses from there. Nothing is lost, read twice or taken for something else.

1. The status of a command is read while it is pending, so that a poll before it changes nothing
   (`readFor_of_learnt`).
2. The balance holds of every deed of a drive (`Told.accounted`), so of every action.
3. A wait or a poll for a status reports the one status that its own calls read
   (`Completes.told`).

`interrupts_accounted` states it for every course.
-/

namespace DiskBridge

open Dialogue Bus

theorem Script.StatusRead.calls {answer : UInt8} {events : List (Event Bus)}
    (h : Script.StatusRead answer events) : ∃ reply, events = statusCalls reply answer := by
  obtain @⟨body, hs⟩ := h
  obtain _ | @⟨_, reply, _, _, ⟨⟩⟩ := hs
  exact ⟨reply, rfl⟩

/-- The status of a command is read while it is pending: a poll before it changes nothing. -/
structure ReadFor (command : Command) (status : UInt8) (chip : Chip) (events : List (Event Bus))
    (last : Chip) : Prop where
  signals : last.signals = { chip.signals with pending := none }
  notices : chip.notices (Chip.called events) = []
  assignments : chip.assignments (Chip.called events) = []
  learnt (raised : Bool) :
    observed Ear.hear Ear.learnt ⟨some command, raised, []⟩ (Chip.called events) =
      [⟨.command command, status⟩]
  rest (raised : Bool) : (Chip.called events).foldl Ear.hear ⟨some command, raised, []⟩ = {}

theorem readFor_statusCalls (command : Command) {reply answer status : UInt8} {chip last : Chip}
    (hp : chip.pending = some status)
    (ha : Answers Chip.device chip (statusCalls reply answer) last) :
    ReadFor command status chip (statusCalls reply answer) last := by
  obtain ⟨rfl, hl⟩ := Chip.answers_statusCalls ha
  rw [hp, Option.getD_some]
  exact {
    signals := hl
    notices := notices_statusCalls _ _ chip
    assignments := assignments_statusCalls _ _ chip
    learnt := fun _ => learnt_statusCalls _ _ _
    rest := fun _ => hear_statusCalls _ _ _ }

theorem ReadFor.polled {command : Command} {status : UInt8} {chip last : Chip}
    {events : List (Event Bus)} (h : ReadFor command status chip events last)
    (hp : chip.pending = some status) :
    ReadFor command status chip (⟨.poll, .ok true⟩ :: events) last := by
  have hs : chip.undergo (.call ⟨.poll, .ok true⟩) = chip :=
    congrArg Prod.snd (Chip.poll_of_pending hp)
  exact {
    signals := h.signals
    notices := by
      rw [Chip.notices, observed_called, Chip.noticed_of_pending hp, hs]
      exact h.notices
    assignments := by
      rw [Chip.assignments, observed_called, hs]
      exact h.assignments
    learnt := fun _ => h.learnt true
    rest := fun _ => h.rest true }

theorem readFor_of_learnt (command : Command) {status answer : UInt8} {mode : StatusMode}
    {chip last : Chip} {events : List (Event Bus)} (hp : chip.pending = some status)
    (hl : Script.Learnt answer mode events) (ha : Answers Chip.device chip events last) :
    ReadFor command status chip events last := by
  have hv : chip.poll = (true, chip) := Chip.poll_of_pending hp
  cases hl with
  | poll hr =>
    obtain ⟨reply, rfl⟩ := hr.calls
    exact readFor_statusCalls command hp ha
  | interrupt polls hr =>
    obtain ⟨reply, rfl⟩ := hr.calls
    -- The first poll finds the interrupt raised, so none is in vain.
    cases polls with
    | succ polls =>
      have hf : chip.poll.1 = false := Except.ok.inj (answers_cons_iff.1 ha).1
      rw [hv] at hf
      cases hf
    | zero =>
      have ha := (answers_cons_iff.1 ha).2
      rw [show (Chip.device .poll chip).state = chip from congrArg Prod.snd hv] at ha
      exact (readFor_statusCalls command hp ha).polled hp

/-! ## Deeds -/

theorem enqueued_called (events : List (Event Bus)) : Chip.enqueued (Chip.called events) = [] := by
  simp [Chip.enqueued, Chip.called]

/-- Calls by which nothing is read, and nothing reported. -/
theorem accounted_silent {chip last : Chip} {events : List (Event Bus)}
    (ha : Answers Chip.device chip events last) (hp : last.pending = none)
    (hq : last.queued = chip.queued)
    (hc : last.armed.toNat ≤ (acceptances (Chip.called events)).length + chip.armed.toNat)
    (hr : (Chip.called events).foldl Ear.hear {} = {}) (hl : readings (Chip.called events) = [])
    (hs : chip.assignments (Chip.called events) = [])
    (hn : chip.notices (Chip.called events) = []) : Accounted chip (Chip.called events) last where
  through := Chip.through_of_answers ha
  idle := hp
  rest := hr
  commands := by rw [hl, hs, List.filterMap_nil]
  waits := by rw [hl, hn, List.filterMap_nil, List.map_nil]
  callers status hm := by
    rw [hl] at hm
    cases hm
  queue := by rw [hn, enqueued_called, List.filterMap_nil, List.nil_append, List.append_nil, hq]
  connections := by rwa [hn, List.count_nil, Nat.zero_add]

section Deeds

variable {chip last : Chip} (hp : chip.pending = none)

include hp

theorem accounted_pause {span : Duration}
    (ha : Answers Chip.device chip [⟨.pause span, ()⟩] last) :
    Accounted chip (Chip.called [⟨.pause span, ()⟩]) last := by
  obtain ⟨-, _ | _⟩ := answers_cons_iff.1 ha
  exact accounted_silent ha hp rfl (Nat.le_add_left _ _) rfl rfl rfl rfl

/-- The transaction of a command that is not an interrupting one. -/
theorem accounted_plain {command : Command} (hc : command.isInterrupting = false)
    (hs : command ≠ .status) (hm : command ≠ .usbMode) {reply : UInt8} {rest : List (Event Bus)}
    (hi : ∀ event ∈ rest, Inner event)
    (ha : Answers Chip.device chip (transactionOf command reply rest) last) :
    Accounted chip (Chip.called (transactionOf command reply rest)) last := by
  have hl := Chip.signals_transactionOf hs hm hi reply chip
  simp only [hc, Bool.false_eq_true, if_false, Chip.through_of_answers ha] at hl
  have hx : last.pending = none ∧ last.queued = chip.queued ∧
      last.armed.toNat ≤ chip.armed.toNat := by
    split at hl
    · have ho : last.armed = false := congrArg Chip.Signals.armed hl
      rw [ho]
      exact ⟨congrArg Chip.Signals.pending hl, congrArg Chip.Signals.queued hl, Nat.zero_le _⟩
    · have ho : last.armed = chip.armed := congrArg Chip.Signals.armed hl
      rw [ho]
      exact ⟨(congrArg Chip.Signals.pending hl).trans hp, congrArg Chip.Signals.queued hl,
        Nat.le_refl _⟩
  obtain ⟨hx, hq, ho⟩ := hx
  refine accounted_silent ha hx hq (Nat.le_trans ho (Nat.le_add_left _ _)) ?_
    (learnt_transactionOf hs hi reply {}) ?_ (notices_transactionOf hi command reply chip)
  · rw [hear_transactionOf hi, Option.filter_some, hc]
    rfl
  · rw [assignments_transactionOf hi, hc]
    rfl

theorem accounted_modeCalls {mode answer reply reply' : UInt8} {span : Duration}
    (ha : Answers Chip.device chip (modeCalls mode answer reply reply' span) last) :
    Accounted chip (Chip.called (modeCalls mode answer reply reply' span)) last := by
  have hi : ∀ event ∈ ([⟨.exchange mode, .ok reply'⟩, ⟨.pause span, ()⟩,
      ⟨.exchange 0x00, .ok answer⟩] : List (Event Bus)), Inner event := by simp [Bus.Inner]
  have hl := Chip.answers_modeCalls ha
  refine accounted_silent ha ((congrArg Chip.Signals.pending hl).trans hp)
    (congrArg Chip.Signals.queued hl) ?_ (hear_transactionOf hi .usbMode reply {})
    (learnt_transactionOf (show Command.usbMode ≠ .status from nofun) hi reply {})
    (assignments_transactionOf hi .usbMode reply chip)
    (notices_transactionOf hi .usbMode reply chip)
  have ho : last.armed = _ := congrArg Chip.Signals.armed hl
  have hc : acceptances (Chip.called (modeCalls mode answer reply reply' span)) =
      (rearming? [(0x15, reply), (mode, reply'), (0x00, answer)]).toList := List.append_nil _
  rw [ho, hc, rearming?_switch]
  split
  · exact Nat.le_trans (Bool.toNat_le _) (Nat.le_add_right 1 _)
  · next hn =>
    have hf : (answer = (0x51 : UInt8) && (mode = 0x05 || mode = 0x06)) = false := by
      rw [Bool.eq_false_iff]
      intro h
      simp only [Bool.and_eq_true, Bool.or_eq_true, decide_eq_true_eq] at h
      exact hn h.symm
    simp only [hf, Bool.or_false]
    exact Nat.le_add_left _ _

/-- A status that is asked for when none is pending. -/
theorem accounted_statusCalls {reply answer : UInt8}
    (ha : Answers Chip.device chip (statusCalls reply answer) last) :
    Accounted chip (Chip.called (statusCalls reply answer)) last := by
  obtain ⟨hx, hl⟩ := Chip.answers_statusCalls ha
  obtain rfl : answer = 0 := by rw [hx, hp, Option.getD_none]
  exact {
    through := Chip.through_of_answers ha
    idle := congrArg Chip.Signals.pending hl
    rest := hear_statusCalls _ _ _
    commands := by rw [readings, learnt_statusCalls, assignments_statusCalls]; rfl
    waits := by rw [readings, learnt_statusCalls, notices_statusCalls]; rfl
    callers := fun status hm => by
      cases List.mem_singleton.1 hm
      rfl
    queue := by
      rw [show last.queued = _ from congrArg Chip.Signals.queued hl, enqueued_called]
      exact (List.append_nil _).symm
    connections := by
      rw [show last.armed = _ from congrArg Chip.Signals.armed hl]
      exact Nat.le_refl _ }

theorem accounted_vain {polls : Nat} (ha : Answers Chip.device chip (Script.vain polls) last) :
    Accounted chip (Chip.called (Script.vain polls)) last := by
  induction polls with
  | zero =>
    cases ha
    exact accounted_nil hp
  | succ polls ih =>
    obtain ⟨hv, ha⟩ := answers_cons_iff.1 ha
    have hv : chip.poll.1 = false := Except.ok.inj hv
    have hs : (Chip.device .poll chip).state = chip := Chip.poll_of_vain hv
    rw [hs] at ha
    have hf : Answers Chip.device chip [⟨.poll, .ok false⟩] chip :=
      answers_cons_iff.2 ⟨congrArg _ hv, by rw [hs]; exact .nil chip⟩
    refine .append (accounted_silent hf hp rfl (Nat.le_add_left _ _) rfl rfl rfl ?_) (ih ha)
    exact (List.append_nil _).trans (Chip.noticed_of_vain hv _)

/-- What the chip reports of its own accord is read by the wait that polled for it. -/
theorem accounted_raised {reply answer : UInt8}
    (ha : Answers Chip.device chip (⟨.poll, .ok true⟩ :: statusCalls reply answer) last) :
    Accounted chip (Chip.called (⟨.poll, .ok true⟩ :: statusCalls reply answer)) last := by
  obtain ⟨hr, hc⟩ := answers_cons_iff.1 ha
  obtain ⟨notice, hn, hs, hq, hk⟩ := Chip.noticed_of_raised hp (Except.ok.inj hr) (.ok true)
  obtain ⟨hx, hl⟩ := Chip.answers_statusCalls hc
  have hx : answer = notice.byte := by
    rw [hx, show (Chip.device .poll chip).state.pending = _ from hs, Option.getD_some]
  have hm : chip.notices (Chip.called (⟨.poll, .ok true⟩ :: statusCalls reply answer)) =
      [notice] := by
    rw [Chip.notices, observed_called, hn, ← Chip.notices, notices_statusCalls, List.append_nil]
  have hk' := readings_raised reply answer
  have hy :
      chip.assignments (Chip.called (⟨.poll, .ok true⟩ :: statusCalls reply answer)) = [] := by
    rw [Chip.assignments, observed_called, ← Chip.assignments, assignments_statusCalls]
    rfl
  exact {
    through := Chip.through_of_answers ha
    idle := congrArg Chip.Signals.pending hl
    rest := hear_statusCalls reply answer _
    commands := by rw [hk', hy]; rfl
    waits := by rw [hk', hm, hx]; rfl
    callers := fun status hs => by
      rw [hk', List.mem_singleton] at hs
      cases hs
    queue := by
      rw [hm, enqueued_called, List.append_nil, ← hq,
        show last.queued = _ from congrArg Chip.Signals.queued hl]
      cases notice <;> rfl
    connections := by
      rw [hm, show last.armed = _ from congrArg Chip.Signals.armed hl]
      exact Nat.le_trans hk (Nat.le_add_left _ _) }

/-- An interrupting command, and the status that is learnt for it. -/
theorem accounted_commanded {command : Command} (hc : command.isInterrupting = true)
    {reply answer : UInt8} {rest events : List (Event Bus)} (hi : ∀ event ∈ rest, Inner event)
    {mode : StatusMode} (hl : Script.Learnt answer mode events)
    (ha : Answers Chip.device chip (transactionOf command reply rest ++ events) last) :
    Accounted chip (Chip.called (transactionOf command reply rest ++ events)) last := by
  have hs : command ≠ .status := by
    rintro rfl
    cases hc
  have hm : command ≠ .usbMode := by
    rintro rfl
    cases hc
  obtain ⟨middle, hb, hr⟩ := answers_append_iff.1 ha
  let inside := chip.through (openOf command reply rest)
  let status := inside.due command inside.received
  have ht : chip.through (Chip.called (transactionOf command reply rest)) = middle :=
    Chip.through_of_answers hb
  have hx : middle.signals = { chip.signals with pending := some status } := by
    rw [← ht, Chip.signals_transactionOf hs hm hi, if_pos hc]
  have hf := readFor_of_learnt command (congrArg Chip.Signals.pending hx) hl hr
  have he := hear_transactionOf hi command reply {}
  rw [Option.filter_some, hc] at he
  have hk : readings (Chip.called (transactionOf command reply rest ++ events)) =
      [⟨.command command, status⟩] := by
    rw [readings, Chip.called_append, observed_append, learnt_transactionOf hs hi, he]
    exact hf.learnt false
  have hn : chip.notices (Chip.called (transactionOf command reply rest ++ events)) = [] := by
    rw [Chip.notices, Chip.called_append, observed_append, ← Chip.notices, ← Chip.through, ht,
      notices_transactionOf hi]
    exact hf.notices
  have hy : chip.assignments (Chip.called (transactionOf command reply rest ++ events)) =
      [(command, status)] := by
    rw [Chip.assignments, Chip.called_append, observed_append, ← Chip.assignments,
      ← Chip.through, ht, assignments_transactionOf hi, if_pos hc]
    exact congrArg _ hf.assignments
  have hl : last.signals = chip.signals := by
    rw [hf.signals, hx]
    exact congrArg (Chip.Signals.mk chip.armed chip.queued) hp.symm
  exact {
    through := Chip.through_of_answers ha
    idle := congrArg Chip.Signals.pending hf.signals
    rest := by
      rw [Chip.called_append, List.foldl_append, he]
      exact hf.rest false
    commands := by rw [hk, hy]; rfl
    waits := by rw [hk, hn]; rfl
    callers := fun status hs => by
      rw [hk, List.mem_singleton] at hs
      cases hs
    queue := by
      rw [hn, enqueued_called, List.append_nil]
      exact congrArg Chip.Signals.queued hl
    connections := by
      rw [hn, show last.armed = _ from congrArg Chip.Signals.armed hl]
      exact Nat.le_trans (Nat.le_of_eq (Nat.zero_add _)) (Nat.le_add_left _ _) }

omit hp in
theorem talk_plain {command : Command} (h : command ∈ Drive.talk) :
    command.isInterrupting = false ∧ command ≠ .status ∧ command ≠ .usbMode := by
  simp only [Drive.talk, List.mem_cons, List.not_mem_nil, or_false] at h
  rcases h with rfl | rfl | rfl | rfl | rfl | rfl <;> decide

/-- Every deed that is finished is accounted for. -/
theorem Drive.Told.accounted {deed : Drive.Deed} {events : List (Event Bus)}
    (h : Drive.Told deed events) (hf : deed.finished = true)
    (ha : Answers Chip.device chip events last) : Accounted chip (Chip.called events) last := by
  have plain (command : Command) {arguments : List UInt8} {body : List (Event Bus)}
      (hc : command.isInterrupting = false ∧ command ≠ .status ∧ command ≠ .usbMode)
      (hs : Sent (command.opcode :: arguments) body)
      (ha : Answers Chip.device chip (enclosed body) last) :
      Accounted chip (Chip.called (enclosed body)) last := by
    obtain ⟨reply, rest, he, hi⟩ := hs.exists_transactionOf
    rw [he] at ha ⊢
    exact accounted_plain hp hc.1 hc.2.1 hc.2.2 hi ha
  cases h with
  | paused span => exact accounted_pause hp ha
  | reset hs => exact plain .reset (by decide) hs ha
  | routed hs => exact plain .routeInterrupt (by decide) hs ha
  | switched span hs =>
    obtain _ | @⟨_, reply, _, _, _ | @⟨_, reply', _, _, ⟨⟩⟩⟩ := hs
    exact accounted_modeCalls hp ha
  | @talked command reply rest hc hi =>
    obtain ⟨hc, hs, hm⟩ := talk_plain hc
    obtain ⟨byte, rfl⟩ : ∃ byte, reply = .ok byte :=
      Chip.granted_of_device ha ⟨.exchange command.opcode, reply⟩ (by simp [enclosed])
    exact accounted_plain hp hc hs hm hi ha
  | commanded hc hs hl =>
    obtain ⟨reply, rest, he, hi⟩ := hs.exists_transactionOf
    rw [he] at ha ⊢
    exact accounted_commanded hp hc hi hl ha
  | waited hl =>
    obtain _ | ⟨polls, hr⟩ := hl
    obtain ⟨reply, rfl⟩ := hr.calls
    obtain ⟨middle, hv, hr⟩ := answers_append_iff.1 ha
    have hb := accounted_vain hp hv
    rw [Chip.called_append]
    exact hb.append (accounted_raised hb.idle hr)
  | asked hr =>
    obtain ⟨reply, rfl⟩ := hr.calls
    exact accounted_statusCalls hp ha
  | unanswered | unheard => cases hf

theorem Drive.Recounts.accounted {deeds : List Drive.Deed} {events : List (Event Bus)}
    (h : Drive.Recounts deeds events) (hf : ∀ deed ∈ deeds, deed.finished = true)
    (ha : Answers Chip.device chip events last) : Accounted chip (Chip.called events) last := by
  induction h generalizing chip with
  | nil =>
    cases ha
    exact accounted_nil hp
  | cons ht _ ih =>
    obtain ⟨hd, hf⟩ := List.forall_mem_cons.1 hf
    obtain ⟨middle, hb, ha⟩ := answers_append_iff.1 ha
    have hb := ht.accounted hp hd hb
    rw [Chip.called_append]
    exact hb.append (ih hb.idle hf ha)

end Deeds

/-! ## Courses -/

namespace Drive

theorem Completes.accounted {config : Config} {chip last : Chip} {action : Action}
    {report : Report} {events : List (Event Bus)} (hp : chip.pending = none)
    (h : Completes config chip action report events last) :
    Accounted chip (Chip.called events) last := by
  obtain ⟨drive, ht, ha, hn⟩ := h.conversation
  have hg := Chip.granted_of_device ha
  by_cases hr : action = .reset
  · subst hr
    obtain ⟨_, -, hd⟩ := recounts_reset drive _ _ ht
    exact (hd hg).accounted hp (by decide) ha
  · obtain ⟨_, ⟨⟩, hd⟩ := recounted_perform drive hr _ _ ht
    obtain ⟨deeds, hd, -, hf⟩ := hd hg
    exact hd.accounted hp (hf (ended_ne_stalled hn)) ha

/-- For whom the status is that an action reports. -/
def Action.recipient? : Action → Option Recipient
  | .waitStatus => some .wait
  | .pollStatus => some .caller
  | _ => none

theorem readings_vain (polls : Nat) (events : List (Event Bus)) :
    readings (Chip.called (Script.vain polls ++ events)) = readings (Chip.called events) := by
  induction polls with
  | zero => rfl
  | succ polls ih => exact ih

/-- An action that reports a status has read that one and no other. -/
theorem Completes.told {config : Config} {chip last : Chip} {action : Action} {report : Report}
    {events : List (Event Bus)} (h : Completes config chip action report events last)
    {recipient : Recipient} (hr : action.recipient? = some recipient) :
    ∃ status, readings (Chip.called events) = [⟨recipient, status⟩] ∧
      report.result = .ok (.status (.ofByte status)) := by
  obtain ⟨drive, ht, ha, hn⟩ := h.conversation
  have hg := Chip.granted_of_device ha
  cases action with
  | waitStatus =>
    cases hr
    obtain ⟨_, ⟨⟩, hl | _⟩ := (Script.speaks_waitStatus drive).report .status _ _ ht hg
    · obtain _ | ⟨polls, hr⟩ := hl
      obtain ⟨reply, rfl⟩ := hr.calls
      exact ⟨_, (readings_vain polls _).trans (readings_raised reply _), rfl⟩
    · cases hn
  | pollStatus =>
    cases hr
    obtain ⟨_, ⟨⟩, _, rfl, answer, rfl, hs⟩ := Script.yields_pollStatus.report .status _ _ ht hg
    obtain ⟨reply, rfl⟩ := hs.calls
    exact ⟨answer, learnt_statusCalls reply answer {}, rfl⟩
  | _ => cases hr

theorem Course.accounted {config : Config} {chip last : Chip} {turns : List Turn}
    {results : List (Report × Chip)} {history : List Chip.Entry}
    (h : Course config chip turns results history last) (hp : chip.pending = none) :
    Accounted chip history last ∧ ∀ result ∈ results, result.2.pending = none := by
  induction h with
  | nil chip => exact ⟨accounted_nil hp, by simp⟩
  | act hc _ ih =>
    have hb := hc.accounted hp
    obtain ⟨ha, hr⟩ := ih hb.idle
    exact ⟨hb.append ha, List.forall_mem_cons.2 ⟨hb.idle, hr⟩⟩
  | @prepare _ _ preparation _ _ _ _ ih =>
    have hb := accounted_prepared hp preparation
    obtain ⟨ha, hr⟩ := ih hb.idle
    exact ⟨hb.append ha, hr⟩

/-- **Interrupts.** Over every course of a chip that starts without a pending status: no status is
pending after an action. Each interrupting command is told the status that was due for it. The waits
are told, in order, what the chip reported of its own accord, which is what was queued, the oldest
first and each once, and connections. Who asks without either is told 0. No more connections are
reported than mode switches that arm the chip were accepted, and one if it was armed at the start.
And wherever a wait or a poll for a status stands in the course, what it reports is the one status
that its own calls read. -/
theorem interrupts_accounted {config : Config} {chip last : Chip} {turns : List Turn}
    {results : List (Report × Chip)} {history : List Chip.Entry}
    (h : Course config chip turns results history last) (hp : chip.pending = none) :
    (∀ result ∈ results, result.2.pending = none) ∧
      (readings history).filterMap Reading.ofCommand? = chip.assignments history ∧
      (readings history).filterMap Reading.ofWait? = (chip.notices history).map Chip.Notice.byte ∧
      (∀ status, ⟨.caller, status⟩ ∈ readings history → status = 0) ∧
      (chip.notices history).filterMap Chip.Notice.queued? ++ last.queued =
        chip.queued ++ Chip.enqueued history ∧
      (chip.notices history).count .connection ≤
        (acceptances history).length + (if chip.armed then 1 else 0) ∧
      ∀ before action after recipient, turns = before ++ .act action :: after →
        action.recipient? = some recipient →
        ∃ middle report events next earlier later past future status,
          Course config chip before earlier past middle ∧
          Completes config middle action report events next ∧
          Course config next after later future last ∧
          results = earlier ++ (report, next) :: later ∧
          history = past ++ (Chip.called events ++ future) ∧
          readings (Chip.called events) = [⟨recipient, status⟩] ∧
          readings history = readings past ++ ⟨recipient, status⟩ :: readings future ∧
          report.result = .ok (.status (.ofByte status)) := by
  obtain ⟨ha, hr⟩ := h.accounted hp
  refine ⟨hr, ha.commands, ha.waits, ha.callers, ha.queue, ?_, ?_⟩
  · have hc := ha.connections
    cases hk : chip.armed with
    | true =>
      rw [hk, Bool.toNat_true] at hc
      exact Nat.le_trans (Nat.le_add_right _ _) hc
    | false =>
      rw [hk, Bool.toNat_false] at hc
      exact Nat.le_trans (Nat.le_add_right _ _) hc
  · rintro before action after recipient rfl hs
    obtain ⟨middle, earlier, _, past, _, rfl, rfl, hb, hl⟩ := h.split
    obtain _ | @⟨_, next, _, _, _, report, events, later, future, hc, hl⟩ := hl
    obtain ⟨status, hk, hv⟩ := hc.told hs
    have hb' := (hb.accounted hp).1
    have hc' := hc.accounted hb'.idle
    refine ⟨middle, report, events, next, earlier, later, past, future, status, hb, hc, hl, rfl,
      rfl, hk, ?_, hv⟩
    rw [readings_append hb'.rest, readings_append hc'.rest, hk]
    rfl

/-- A queued status is reported by a wait. One queued before a bring-up is told to its first wait,
ahead of the connection, and one queued after it stays in the queue while a command is told what was
injected for it. -/
theorem interrupts_accounted_queued :
    let chip : Chip := { attached := true, armed := true }
    let turns : List Turn :=
      [.prepare (.queueStatus 0x16), .act .waitStatus, .prepare (.queueStatus 0x42), .act .bringUp,
        .prepare (.inject 0x32 0x1f), .prepare (.queueStatus 0x17), .act .openSelected]
    ∃ results history last, Course {} chip turns results history last ∧ chip.pending = none ∧
      (∀ result ∈ results, result.2.pending = none) ∧
      chip.assignments history = [(.diskConnect, 0x14), (.diskMount, 0x14), (.fileOpen, 0x1f)] ∧
      (chip.notices history).map Chip.Notice.byte = [0x16, 0x42, 0x15, 0x15] ∧
      (chip.notices history).filterMap Chip.Notice.queued? ++ last.queued = [0x16, 0x42, 0x17] ∧
      (chip.notices history).count .connection ≤ 3 ∧
      results.head?.map (·.1.result) = some (.ok (.status .disconnected)) := by
  intro chip turns
  obtain ⟨⟨results, history, last⟩, hp⟩ := Option.isSome_iff_exists.1
    (show ((Drive.mk {} 2).play chip turns).isSome = true by decide +kernel)
  have hr : ((Drive.mk {} 2).play chip turns).map (fun course => (readings course.2.1,
      Chip.enqueued course.2.1, (acceptances course.2.1).length)) =
        some ([⟨.wait, 0x16⟩, ⟨.wait, 0x42⟩, ⟨.wait, 0x15⟩, ⟨.wait, 0x15⟩,
          ⟨.command .diskConnect, 0x14⟩, ⟨.command .diskMount, 0x14⟩,
          ⟨.command .fileOpen, 0x1f⟩], [0x16, 0x42, 0x17], 2) := by
    decide +kernel
  rw [hp, Option.map_some, Option.some.injEq, Prod.mk.injEq, Prod.mk.injEq] at hr
  obtain ⟨hr, he, hl⟩ := hr
  have hc := course_play hp
  obtain ⟨hx, hs, hw, -, hq, hn, ht⟩ := interrupts_accounted hc rfl
  rw [hr] at hs hw
  rw [he] at hq
  rw [hl] at hn
  refine ⟨results, history, last, hc, rfl, hx, hs.symm, hw.symm, hq, hn, ?_⟩
  obtain ⟨_, report, _, _, _, _, _, _, status, hb, -, -, rfl, -, -, hf, hv⟩ :=
    ht [.prepare (.queueStatus 0x16)] .waitStatus _ .wait rfl rfl
  -- Nothing is read before the wait, so its status is the first that is.
  obtain _ | _ | hb := hb
  cases hb
  rw [hr] at hf
  obtain rfl : 0x16 = status := congrArg Reading.status (List.cons.inj hf).1
  exact congrArg some hv

end Drive

end DiskBridge

import DiskBridge.Adapter.Basic
import DiskBridge.Bench.UsbScript
import DiskBridge.Proofs.Courses

/-!
# The select pin and the adapter

An adapter takes a transaction for open from the moment it selected the chip, and for closed from
the moment it tries to deselect it. If the write that deselects the chip fails, the pin stays low:
the chip is left in a transaction that the adapter takes for closed (`Stranded`), and the next call
that begins one succeeds without any change of the pin.

1. `Drives` says what a host does to the select pin: only a command that is accepted whole moves it.
2. `Moves` says once what a call can do to the pin and to what the adapter takes for open
   (`moves_device`), however the transfers end.
3. So the pin is low exactly while a transaction is open or the chip is stranded (`Tracked`).

`freshly_selected_iff` states when a transaction that is begun is a new one, and
`begin_of_stranded` shows one that is not.
-/

namespace DiskBridge.Adapter

open Dialogue

variable {τ : Type}

/-! ## Transfers -/

/-- How a write of some bytes ends that the host answers in a certain way. -/
def written (bytes : List UInt8) : Except Usb.Fault Nat → Except Error Unit
  | .ok count =>
    if count ≠ bytes.length then
      .error (.traffic (.shortTransfer (UInt64.ofNat bytes.length) (UInt64.ofNat count)))
    else .ok ()
  | .error fault => .error fault.toError

theorem written_eq_ok_iff {bytes : List UInt8} {reply : Except Usb.Fault Nat} :
    written bytes reply = .ok () ↔ reply = .ok bytes.length := by
  cases reply with
  | error fault => simp [written]
  | ok count =>
    by_cases h : count = bytes.length <;> simp [written, h]

/-- A write never fails the way a call outside a transaction does. -/
theorem written_ne_noTransaction (bytes : List UInt8) (reply : Except Usb.Fault Nat) :
    written bytes reply ≠ .error (.traffic .noTransaction) := by
  cases reply with
  | error fault => cases fault <;> simp [written, Usb.Fault.toError]
  | ok count => by_cases h : count = bytes.length <;> simp [written, h]

theorem toBool_written {bytes : List UInt8} {reply : Except Usb.Fault Nat} :
    (written bytes reply).toBool = true ↔ reply = .ok bytes.length := by
  rw [← written_eq_ok_iff]
  cases written bytes reply <;> simp [Except.toBool]

theorem outcome_writeAll (host : Machine Usb τ) (bytes : List UInt8) (state : τ) :
    (writeAll bytes).outcome host state =
      (written bytes (host (.bulkWrite bytes) state).reply,
        (host (.bulkWrite bytes) state).state) := by
  rw [writeAll, call, ask_bind, outcome_ask]
  cases (host (.bulkWrite bytes) state).reply with
  | error fault => rfl
  | ok count =>
    show (if _ then _ else _ : Dialogue Usb Error Unit).outcome _ _ = _
    by_cases h : count = bytes.length
    · rw [if_neg (not_not_intro h), written, if_neg (not_not_intro h)]
      rfl
    · rw [if_pos h, written, if_pos h]
      rfl

/-! ## The select pin -/

/-- What a host does to the select pin of its adapter, `low` saying whether that is low: a command
to the pins that is accepted whole sets it, and everything else leaves it as it was. -/
structure Drives (host : Machine Usb τ) (low : τ → Bool) : Prop where
  accepted {outputs : UInt8} {rest : List UInt8} {state : τ} :
    let bytes := pinStream :: outputs :: rest
    (host (.bulkWrite bytes) state).reply = .ok bytes.length →
      low (host (.bulkWrite bytes) state).state = decide (outputs &&& 1 = 0)
  failed {bytes : List UInt8} {state : τ} :
    (host (.bulkWrite bytes) state).reply ≠ .ok bytes.length →
      low (host (.bulkWrite bytes) state).state = low state
  other {request : Usb.Request} {state : τ} :
    (∀ outputs rest, request ≠ .bulkWrite (pinStream :: outputs :: rest)) →
      low (host request state).state = low state

/-- A dialogue that leaves the pin as it is. -/
def Still (host : Machine Usb τ) (low : τ → Bool) (dialogue : Dialogue Usb Error α) : Prop :=
  ∀ state, low (dialogue.outcome host state).2 = low state

section Still

variable {host : Machine Usb τ} {low : τ → Bool} {α β : Type}

theorem still_done (value : α) : Still host low (done value) := fun _ => rfl

theorem still_failed (error : Error) : Still host low (failed error : Dialogue Usb Error α) :=
  fun _ => rfl

theorem still_say_bind {level : Level} {text : String} {next : Unit → Dialogue Usb Error α}
    (h : Still host low (next ())) : Still host low (say level text >>= next) := h

theorem Still.bind {first : Dialogue Usb Error α} {next : α → Dialogue Usb Error β}
    (hf : Still host low first) (hn : ∀ value, Still host low (next value)) :
    Still host low (first >>= next) := by
  intro state
  have hs := hf state
  rw [outcome_bind]
  split
  · next value middle ho =>
    rw [hn value middle]
    rwa [ho] at hs
  · next cause middle ho => rwa [ho] at hs

theorem Still.run {dialogue : Dialogue Usb Error α} (h : Still host low dialogue) (state : τ)
    (journal : Journal) : low (dialogue.run host state journal).state = low state := by
  have hs := h state
  rwa [outcome_run host dialogue state journal] at hs

end Still

section Pin

variable {host : Machine Usb τ} {low : τ → Bool} (drives : Drives host low)

include drives

theorem Drives.still_writeAll {bytes : List UInt8} (h : bytes.head? ≠ some pinStream) :
    Still host low (writeAll bytes) := by
  intro state
  rw [outcome_writeAll]
  refine drives.other fun outputs rest he => ?_
  cases he
  exact h rfl

theorem Drives.still_readExact (count : Nat) : Still host low (readExact count) := by
  intro state
  have hs : low (host (.bulkRead count) state).state = low state := drives.other nofun
  rw [readExact, outcome_ask, ← hs]
  split
  · rfl
  · rfl
  · next bytes _ =>
    show low (Dialogue.outcome host (if _ then _ else _ : Dialogue Usb Error (List UInt8)) _).2 = _
    split <;> rfl

theorem Drives.still_exchange (adapter : Adapter) (byte : UInt8) :
    Still host low (adapter.exchange byte) := by
  unfold exchange
  split
  · refine (drives.still_writeAll (by simp [exchangeStream, pinStream])).bind fun _ => ?_
    exact (drives.still_readExact 1).bind fun _ => still_done _
  · exact still_failed _

theorem Drives.still_poll (adapter : Adapter) : Still host low adapter.poll := by
  unfold poll
  split
  · exact still_say_bind (still_failed _)
  · refine (drives.still_writeAll (by simp [readPins, pinStream])).bind fun _ => ?_
    exact (drives.still_readExact _).bind fun _ => still_done _

/-- The pin follows a selection that succeeds, and stays as it was if the write fails. -/
theorem Drives.selectChip (select : Bool) (state : τ) (journal : Journal) :
    let ran := (selectChip select).run host state journal
    ran.result = .ok () ∧ low ran.state = select ∨
      ∃ error, ran.result = .error error ∧ error ≠ .traffic .noTransaction ∧
        low ran.state = low state := by
  intro ran
  obtain ⟨hr, hs⟩ := run_of_outcome (outcome_writeAll host _ state) journal
  change ran.result = _ at hr
  change ran.state = _ at hs
  rw [hs]
  cases he : ran.result with
  | ok _ =>
    refine .inl ⟨rfl, ?_⟩
    rw [drives.accepted (written_eq_ok_iff.1 (hr.symm.trans he))]
    cases select <;> rfl
  | error error =>
    rw [he] at hr
    refine .inr ⟨error, rfl, ?_, drives.failed fun ha => ?_⟩
    · rintro rfl
      exact written_ne_noTransaction _ _ hr.symm
    · rw [written_eq_ok_iff.2 ha] at hr
      cases hr

end Pin

/-! ## What a call can do -/

/-- Whether the adapter takes a transaction for open, and whether the select pin is low. -/
structure Standing where
  opened : Bool
  low : Bool

def standing (low : τ → Bool) (used : Adapter × τ) : Standing := ⟨used.1.inTransaction, low used.2⟩

/-- What a call can do. -/
inductive Moves : Standing → Event Bus → Standing → Prop
  | begun (low : Bool) : Moves ⟨false, low⟩ ⟨.begin, .ok ()⟩ ⟨true, true⟩
  | refused (error : Error) (standing : Standing) : Moves standing ⟨.begin, .error error⟩ standing
  | ended (low : Bool) : Moves ⟨true, low⟩ ⟨.finish, .ok ()⟩ ⟨false, false⟩
  /-- The write fails that would release the chip. -/
  | stranded (low : Bool) {error : Error} : error ≠ .traffic .noTransaction →
      Moves ⟨true, low⟩ ⟨.finish, .error error⟩ ⟨false, low⟩
  | outside (low : Bool) :
      Moves ⟨false, low⟩ ⟨.finish, .error (.traffic .noTransaction)⟩ ⟨false, low⟩
  | other {call : Bus.Call} (reply : call.Reply) (standing : Standing) :
      call ≠ .begin → call ≠ .finish → Moves standing ⟨call, reply⟩ standing

theorem Moves.of_begun {first next : Standing} (h : Moves first ⟨.begin, .ok ()⟩ next) :
    first.opened = false ∧ next = ⟨true, true⟩ := by
  cases h with
  | begun low => exact ⟨rfl, rfl⟩
  | other _ _ hb _ => exact (hb rfl).elim

theorem moves_device {host : Machine Usb τ} {low : τ → Bool} (drives : Drives host low)
    (call : Bus.Call) (used : Adapter × τ) :
    Moves (standing low used) ⟨call, (device host call used).reply⟩
      (standing low (device host call used).state) := by
  obtain ⟨⟨pin, opened⟩, state⟩ := used
  cases call with
  | begin =>
    cases opened with
    | true => exact .refused _ _
    | false =>
      let ran := (selectChip true).run host state []
      show Moves ⟨false, low state⟩ ⟨.begin, ran.result⟩ ⟨false || ran.result.toBool, low ran.state⟩
      rcases drives.selectChip true state [] with ⟨hr, hl⟩ | ⟨error, hr, -, hl⟩
      · rw [hr, hl]
        exact .begun _
      · rw [hr, hl]
        exact .refused _ _
  | finish =>
    cases opened with
    | true =>
      let ran := (selectChip false).run host state []
      show Moves ⟨true, low state⟩ ⟨.finish, ran.result⟩ ⟨false, low ran.state⟩
      rcases drives.selectChip false state [] with ⟨hr, hl⟩ | ⟨error, hr, hn, hl⟩
      · rw [hr, hl]
        exact .ended _
      · rw [hr, hl]
        exact .stranded _ hn
    | false => exact .outside _
  | exchange byte =>
    let ran := (Adapter.exchange ⟨pin, opened⟩ byte).run host state []
    show Moves ⟨opened, low state⟩ ⟨.exchange byte, ran.result⟩ ⟨opened, low ran.state⟩
    rw [(drives.still_exchange _ byte).run]
    exact .other _ _ nofun nofun
  | poll =>
    let ran := (Adapter.poll ⟨pin, opened⟩).run host state []
    show Moves ⟨opened, low state⟩ ⟨.poll, ran.result⟩ ⟨opened, low ran.state⟩
    rw [(drives.still_poll _).run]
    exact .other _ _ nofun nofun
  | pause span => exact .other _ _ nofun nofun

/-! ## Stranded chips -/

/-- A call failed that should have ended a transaction, not for want of one, and none was begun
since. -/
def Stranded (events : List (Event Bus)) : Prop :=
  ∃ before error after, events = before ++ ⟨.finish, .error error⟩ :: after ∧
    error ≠ .traffic .noTransaction ∧ ⟨.begin, .ok ()⟩ ∉ after

theorem stranded_concat {events : List (Event Bus)} {event : Event Bus} :
    Stranded (events ++ [event]) ↔
      (∃ error, event = ⟨.finish, .error error⟩ ∧ error ≠ .traffic .noTransaction) ∨
        Stranded events ∧ event ≠ ⟨.begin, .ok ()⟩ := by
  constructor
  · rintro ⟨before, error, after, he, hn, hb⟩
    rcases List.eq_nil_or_concat after with rfl | ⟨after, last, rfl⟩
    · obtain ⟨-, he⟩ := List.append_inj' he rfl
      exact .inl ⟨error, (List.cons.inj he).1, hn⟩
    · rw [List.concat_eq_append] at he hb
      rw [← List.cons_append, ← List.append_assoc] at he
      obtain ⟨rfl, hl⟩ := List.append_inj' he rfl
      obtain ⟨rfl, -⟩ := List.cons.inj hl
      simp only [List.mem_append, List.mem_singleton, not_or] at hb
      exact .inr ⟨⟨before, error, after, rfl, hn, hb.1⟩, Ne.symm hb.2⟩
  · rintro (⟨error, rfl, hn⟩ | ⟨⟨before, error, after, rfl, hn, hb⟩, he⟩)
    · exact ⟨events, error, [], rfl, hn, by simp⟩
    · exact ⟨before, error, after ++ [event], by simp, hn, by simp [hb, Ne.symm he]⟩

/-- Other calls neither strand the chip nor rescue it. -/
theorem stranded_concat_of_ne {events : List (Event Bus)} {event : Event Bus}
    (hf : ∀ error, error ≠ .traffic .noTransaction → event ≠ ⟨.finish, .error error⟩)
    (hb : event ≠ ⟨.begin, .ok ()⟩) : Stranded (events ++ [event]) ↔ Stranded events := by
  rw [stranded_concat]
  constructor
  · rintro (⟨error, he, hn⟩ | ⟨hs, -⟩)
    · exact (hf error hn he).elim
    · exact hs
  · exact fun hs => .inr ⟨hs, hb⟩

/-- The pin is low exactly while a transaction is open or the chip is stranded, and it is never
both. -/
structure Tracked (events : List (Event Bus)) (standing : Standing) : Prop where
  opened : standing.opened = true → standing.low = true ∧ ¬Stranded events
  closed : standing.opened = false → (standing.low = true ↔ Stranded events)

theorem Tracked.concat {events : List (Event Bus)} {event : Event Bus} {standing : Standing}
    (h : Tracked events standing) (hs : Stranded (events ++ [event]) ↔ Stranded events) :
    Tracked (events ++ [event]) standing :=
  ⟨fun ho => (h.opened ho).imp_right (mt hs.1), fun hc => (h.closed hc).trans hs.symm⟩

theorem Moves.tracked {events : List (Event Bus)} {event : Event Bus} {first next : Standing}
    (h : Moves first event next) (ht : Tracked events first) :
    Tracked (events ++ [event]) next := by
  cases h with
  | begun low =>
    refine ⟨fun _ => ⟨rfl, fun hs => ?_⟩, nofun⟩
    rcases stranded_concat.1 hs with ⟨error, he, -⟩ | ⟨-, he⟩
    · cases he
    · exact he rfl
  | refused error standing =>
    exact ht.concat (stranded_concat_of_ne (by simp) (by simp))
  | ended low =>
    refine ⟨nofun, fun _ => ?_⟩
    refine iff_of_false nofun fun hs => (ht.opened rfl).2 ?_
    exact (stranded_concat_of_ne (by simp) (by simp)).1 hs
  | stranded low hn =>
    refine ⟨nofun, fun _ => ?_⟩
    exact iff_of_true (ht.opened rfl).1 (stranded_concat.2 (.inl ⟨_, rfl, hn⟩))
  | outside low =>
    exact ht.concat (stranded_concat_of_ne (by simp [eq_comm]) (by simp))
  | other reply standing hb hf =>
    refine ht.concat (stranded_concat_of_ne (fun error _ he => ?_) fun he => ?_)
    · exact hf (congrArg Event.request he)
    · exact hb (congrArg Event.request he)

theorem tracked_answers {host : Machine Usb τ} {low : τ → Bool} (drives : Drives host low)
    {events before : List (Event Bus)} {first last : Adapter × τ}
    (h : Dialogue.Answers (device host) first events last)
    (ht : Tracked before (standing low first)) :
    Tracked (before ++ events) (standing low last) := by
  induction h generalizing before with
  | nil used => rwa [List.append_nil]
  | @cons call used last events _ ih =>
    have hm := (moves_device drives call used).tracked ht
    rw [List.append_cons]
    exact ih hm

/-- **Fresh transactions.** Take a host on which a write that fails leaves the pins as they were, an
adapter that starts with the chip deselected, and any calls on it, however they end. If a
transaction is then begun, the select pin is low; and just before it was high, so that the chip sees
a new transaction, exactly if the chip was not stranded. -/
theorem freshly_selected_iff {host : Machine Usb τ} {low : τ → Bool} (drives : Drives host low)
    {adapter : Adapter} {state : τ} (idle : adapter.inTransaction = false)
    (deselected : low state = false) {events : List (Event Bus)} {used : Adapter × τ}
    (calls : Dialogue.Answers (device host) (adapter, state) events used)
    (begun : (device host .begin used).reply = .ok ()) :
    low (device host .begin used).state.2 = true ∧ (low used.2 = false ↔ ¬Stranded events) := by
  have hs : Tracked [] (standing low (adapter, state)) := by
    refine ⟨fun ho => ?_, fun _ => ?_⟩
    · cases ho.symm.trans idle
    · refine iff_of_false (by simp [standing, deselected]) ?_
      rintro ⟨before, error, after, he, -⟩
      simp at he
  have ht : Tracked events (standing low used) := tracked_answers drives calls hs
  have hm := moves_device drives .begin used
  rw [begun] at hm
  obtain ⟨hc, hn⟩ := hm.of_begun
  refine ⟨congrArg Standing.low hn, ?_⟩
  rw [← ht.closed hc, Bool.not_eq_true]
  rfl

/-! ## A scripted host -/

open Bench

/-- What an entry of the log has done to the select pin: a command to the pins that was accepted
whole sets it. -/
def lowered? : UsbEntry → Option Bool
  | .bulk true (kind :: outputs :: rest) code _ moved =>
    if kind = pinStream &&
        (written (kind :: outputs :: rest) (UsbScript.transferVerdict code moved)).toBool then
      some (outputs &&& 1 = 0)
    else none
  | _ => none

/-- The select pin of a scripted host, which starts high. -/
def pinLow (state : UsbScript × Unit) : Bool := (state.1.log.findSome? lowered?).getD false

theorem lowered?_of_ne {bytes : List UInt8} {code : Int} {asked moved : Nat}
    (h : ∀ outputs rest, bytes = pinStream :: outputs :: rest →
      UsbScript.transferVerdict code moved ≠ .ok bytes.length) :
    lowered? (.bulk true bytes code asked moved) = none := by
  unfold lowered?
  split
  · next he =>
    cases he
    refine if_neg ?_
    rw [Bool.and_eq_true, decide_eq_true_iff, toBool_written]
    rintro ⟨rfl, ha⟩
    exact h _ _ rfl ha
  · rfl

/-- A write is entered in the log. -/
theorem exists_bulkWrite (bytes : List UInt8) (state : UsbScript × Unit) :
    let reaction := UsbScript.host UsbScript.noHardware (.bulkWrite bytes) state
    ∃ code moved, reaction.reply = UsbScript.transferVerdict code moved ∧
      reaction.state.1.log = .bulk true bytes code bytes.length moved :: state.1.log :=
  ⟨_, _, rfl, rfl⟩

theorem drives_script : Drives (UsbScript.host UsbScript.noHardware) pinLow where
  accepted := by
    intro outputs rest state bytes h
    obtain ⟨code, moved, hr, hl⟩ := exists_bulkWrite bytes state
    have hw : (written bytes (UsbScript.transferVerdict code moved)).toBool = true :=
      toBool_written.2 (hr.symm.trans h)
    have hs : lowered? (.bulk true bytes code bytes.length moved) =
        some (decide (outputs &&& 1 = 0)) :=
      if_pos (Bool.and_eq_true_iff.2 ⟨rfl, hw⟩)
    rw [pinLow, hl, List.findSome?_cons, hs]
    rfl
  failed := by
    intro bytes state h
    obtain ⟨code, moved, hr, hl⟩ := exists_bulkWrite bytes state
    rw [pinLow, hl, List.findSome?_cons, lowered?_of_ne fun _ _ _ => hr ▸ h]
    rfl
  other := by
    intro request state h
    cases request with
    | bulkWrite bytes =>
      obtain ⟨code, moved, hr, hl⟩ := exists_bulkWrite bytes state
      rw [pinLow, hl, List.findSome?_cons,
        lowered?_of_ne fun outputs rest he => (h outputs rest (congrArg _ he)).elim]
      rfl
    | _ => rfl

/-- A transaction is left open, the next is begun and ended, and with that the chip is deselected
again. -/
theorem freshly_selected_iff_recovered :
    let host := UsbScript.host UsbScript.noHardware
    let start : UsbScript × Unit := ({ outcomes := [⟨1, -1, 0⟩] }, ())
    let stranded := (device host .finish (device host .begin ({}, start)).state).state
    let used := (device host .finish (device host .begin stranded).state).state
    let events : List (Event Bus) := [⟨.begin, .ok ()⟩,
      ⟨.finish, .error (.usb "Input/Output Error")⟩, ⟨.begin, .ok ()⟩, ⟨.finish, .ok ()⟩]
    pinLow start = false ∧ Answers (device host) ({}, start) events used ∧
      (device host .begin used).reply = .ok () ∧
      pinLow (device host .begin used).state.2 = true ∧
      (pinLow used.2 = false ↔ ¬Stranded events) := by
  intro host start stranded used events
  have high : pinLow start = false := rfl
  -- From here on no outcome is prescribed, whatever the log holds.
  obtain ⟨log, hs⟩ : ∃ log, stranded =
      ({}, { outcomes := [⟨1, -1, 0⟩], transfers := 2, log }, ()) := ⟨_, rfl⟩
  have again : (device host .begin stranded).reply = .ok () := by
    rw [hs]
    rfl
  have ended : (device host .finish (device host .begin stranded).state).reply = .ok () := by
    rw [hs]
    rfl
  have begun : (device host .begin used).reply = .ok () := by
    unfold used
    rw [hs]
    rfl
  have calls : Answers (device host) ({}, start) events used :=
    answers_cons_iff.2 ⟨rfl, answers_cons_iff.2 ⟨rfl, answers_cons_iff.2 ⟨again,
      answers_cons_iff.2 ⟨ended, .nil used⟩⟩⟩⟩
  exact ⟨high, calls, begun, freshly_selected_iff drives_script rfl high calls begun⟩

/-- A transaction that is begun after another whose end failed goes on with that: the chip was never
deselected between the two. -/
theorem begin_of_stranded :
    let host := UsbScript.host UsbScript.noHardware
    let start : Adapter × UsbScript × Unit := ({}, { outcomes := [⟨1, -1, 0⟩] }, ())
    let open₁ := device host .begin start
    let end₁ := device host .finish open₁.state
    let open₂ := device host .begin end₁.state
    Drives host pinLow ∧ pinLow start.2 = false ∧ open₁.reply = .ok () ∧
      end₁.reply = .error (.usb "Input/Output Error") ∧ open₂.reply = .ok () ∧
      pinLow end₁.state.2 = true :=
  ⟨drives_script, rfl, rfl, rfl, rfl, rfl⟩

end DiskBridge.Adapter

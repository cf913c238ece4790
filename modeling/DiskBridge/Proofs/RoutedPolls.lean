import DiskBridge.Proofs.Deeds
import DiskBridge.Proofs.Signals

/-!
# The interrupt is polled only while it is routed

A chip drives the data line with its interrupt only while that is routed there, which a reset
undoes. `PollsRouted` says that the interrupt is routed at each poll.

1. Only a reset and the command that routes the interrupt change whether it is routed, and they do
   so when their transaction ends (`interruptRouted_complete`).
2. So every deed but a reset keeps it routed (`Told.keepsRoute`), and routing it again makes up for
   a reset (`Recounts.keepsRoute`).
3. An action that starts with a reset routes the interrupt before it polls (`Starts.routes`).

`session_pollsRouted` states it for sessions.
-/

namespace DiskBridge

open Dialogue Bus

namespace Chip

/-! ## What changes the route -/

section Route

variable (chip : Chip)

theorem interruptRouted_react (opcode : UInt8) (index : Nat) (byte : UInt8) :
    (chip.react opcode index byte).interruptRouted = chip.interruptRouted := by
  obtain ⟨_, _, _, _, _, _, _, h⟩ := chip.exists_react opcode index byte
  rw [h]

theorem interruptRouted_poll : chip.poll.2.interruptRouted = chip.interruptRouted := by
  unfold poll
  dsimp only
  split
  · split
    · rfl
    · split <;> rfl
  · rfl

theorem interruptRouted_raise (command : Command) (status : Status) :
    (chip.raise command status).interruptRouted = chip.interruptRouted := rfl

theorem interruptRouted_complete {command : Command} {bytes : List UInt8}
    (h : bytes.head? = some command.opcode) (hr : command ≠ .reset)
    (hn : command ≠ .routeInterrupt) :
    (chip.complete bytes).interruptRouted = chip.interruptRouted := by
  rw [complete, h, Option.bind_some, Command.ofOpcode?_opcode]
  cases command with
  | reset | routeInterrupt => contradiction
  | read =>
    simp only [executeRead]
    split <;> rfl
  | _ =>
    simp only [executeName, executeConnect, executeMount, executeOpen, executeCreate,
      executeCreateDirectory, executeErase, executeClose, executeLocate, executeReadMore,
      executeWrite, executeStore, executeWriteMore, apply_ite Chip.interruptRouted,
      interruptRouted_raise, ite_self]

end Route

/-- What stands inside a transaction does not change the route. -/
theorem interruptRouted_inner {body : List (Event Bus)} (hi : ∀ event ∈ body, Inner event)
    (chip : Chip) : (chip.through (called body)).interruptRouted = chip.interruptRouted := by
  induction body generalizing chip with
  | nil => rfl
  | cons event body ih =>
    obtain ⟨he, hb⟩ := List.forall_mem_cons.1 hi
    refine (ih hb _).trans ?_
    obtain ⟨request, reply⟩ := event
    cases request with
    | begin | finish | poll => exact he.elim
    | pause => rfl
    | exchange byte => exact interruptRouted_react _ _ _ _

theorem through_enclosed (chip : Chip) (body : List (Event Bus)) :
    chip.through (called (enclosed body)) = (chip.begin.through (called body)).finish := by
  rw [enclosed, ← List.cons_append, called_append, through_append]
  rfl

/-- A transaction of another command does not change the route. -/
theorem interruptRouted_enclosed {command : Command} (hr : command ≠ .reset)
    (hn : command ≠ .routeInterrupt) (reply : Except Error UInt8) {rest : List (Event Bus)}
    (hi : ∀ event ∈ rest, Inner event) (chip : Chip) :
    (chip.through (called (enclosed (⟨.exchange command.opcode, reply⟩ :: rest)))).interruptRouted =
      chip.interruptRouted := by
  let body : List (Event Bus) := ⟨.exchange command.opcode, reply⟩ :: rest
  let inside := chip.begin.through (called body)
  have hc : Receiving command inside := ((receiving_opcode command chip).1.body hi).1
  have hm : ∀ event ∈ body, Inner event := List.forall_mem_cons.2 ⟨True.intro, hi⟩
  have hb : inside.interruptRouted = chip.interruptRouted := interruptRouted_inner hm chip.begin
  rw [through_enclosed, finish, if_pos hc.inTransaction]
  exact (interruptRouted_complete _ hc.received hr hn).trans hb

theorem received_sent {bytes : List UInt8} {body : List (Event Bus)} (h : Sent bytes body)
    (chip : Chip) : (chip.through (called body)).received = chip.received ++ bytes := by
  induction h generalizing chip with
  | nil => exact (List.append_nil _).symm
  | @cons byte reply bytes events _ ih =>
    have hx : (chip.undergo (.call ⟨.exchange byte, .ok reply⟩)).received =
        chip.received ++ [byte] := received_react _ _ _ _
    refine (ih _).trans ?_
    rw [hx, List.append_assoc, List.singleton_append]

/-- The command that routes the interrupt does so. -/
theorem interruptRouted_route {body : List (Event Bus)} (h : Sent [0x0b, 0x16, 0x90] body)
    (chip : Chip) : (chip.through (called (enclosed body))).interruptRouted = true := by
  let inside := chip.begin.through (called body)
  have hb : inside.received = [0x0b, 0x16, 0x90] := received_sent h chip.begin
  have hi : inside.inTransaction = true := by
    obtain _ | ⟨h⟩ := h
    exact ((receiving_opcode .routeInterrupt chip).1.body h.inner).1.inTransaction
  rw [through_enclosed, finish, if_pos hi, hb]
  rfl

/-! ## Polls -/

/-- The interrupt is routed to the data line whenever it is polled. -/
def PollsRouted (chip : Chip) : List (Event Bus) → Prop
  | [] => True
  | event :: events =>
    (event.request = .poll → chip.interruptRouted = true) ∧
      PollsRouted (chip.undergo (.call event)) events

theorem pollsRouted_append {chip : Chip} {before after : List (Event Bus)} :
    chip.PollsRouted (before ++ after) ↔
      chip.PollsRouted before ∧ (chip.through (called before)).PollsRouted after := by
  induction before generalizing chip with
  | nil => exact (iff_of_eq (true_and _)).symm
  | cons event before ih => exact (and_congr_right fun _ => ih).trans and_assoc.symm

theorem pollsRouted_of_silent {events : List (Event Bus)}
    (h : ∀ event ∈ events, event.request ≠ .poll) (chip : Chip) : chip.PollsRouted events := by
  induction events generalizing chip with
  | nil => exact True.intro
  | cons event events ih =>
    obtain ⟨he, hr⟩ := List.forall_mem_cons.1 h
    exact ⟨fun hp => (he hp).elim, ih hr _⟩

theorem pollsRouted_enclosed {body : List (Event Bus)} (hi : ∀ event ∈ body, Inner event)
    (chip : Chip) : chip.PollsRouted (enclosed body) := by
  have hs : ∀ event ∈ body, event.request ≠ .poll := by
    intro event he hp
    have := hi event he
    rw [Bus.Inner, hp] at this
    exact this
  refine pollsRouted_of_silent (List.forall_mem_cons.2 ⟨by simp, ?_⟩) chip
  exact List.forall_mem_append.2 ⟨hs, by simp⟩

/-- Calls that route the interrupt on any chip, and do not poll before. -/
def Routes (events : List (Event Bus)) : Prop :=
  ∀ chip : Chip, chip.PollsRouted events ∧ (chip.through (called events)).interruptRouted = true

/-- Calls that do so on a chip on which the interrupt is routed already. -/
def KeepsRoute (events : List (Event Bus)) : Prop :=
  ∀ chip : Chip, chip.interruptRouted = true →
    chip.PollsRouted events ∧ (chip.through (called events)).interruptRouted = true

theorem keepsRoute : Concatenative KeepsRoute where
  nil _ hc := ⟨True.intro, hc⟩
  append hb ha chip hc := by
    obtain ⟨hp, hc⟩ := hb chip hc
    obtain ⟨hp', hc⟩ := ha _ hc
    rw [called_append, through_append]
    exact ⟨pollsRouted_append.2 ⟨hp, hp'⟩, hc⟩

theorem Routes.append {before after : List (Event Bus)} (hb : Routes before)
    (ha : KeepsRoute after) : Routes (before ++ after) := by
  intro chip
  obtain ⟨hp, hc⟩ := hb chip
  obtain ⟨hp', hc⟩ := ha _ hc
  rw [called_append, through_append]
  exact ⟨pollsRouted_append.2 ⟨hp, hp'⟩, hc⟩

/-- Whatever is done before, without a poll. -/
theorem Routes.after {before events : List (Event Bus)} (h : Routes events)
    (hb : ∀ chip : Chip, chip.PollsRouted before) : Routes (before ++ events) := by
  intro chip
  obtain ⟨hp, hc⟩ := h (chip.through (called before))
  rw [called_append, through_append]
  exact ⟨pollsRouted_append.2 ⟨hb chip, hp⟩, hc⟩

theorem keepsRoute_poll (reply : Except Error Bool) : KeepsRoute [⟨.poll, reply⟩] :=
  fun chip hc => ⟨⟨fun _ => hc, True.intro⟩, (interruptRouted_poll chip).trans hc⟩

theorem keepsRoute_vain (polls : Nat) : KeepsRoute (Script.vain polls) := by
  induction polls with
  | zero => exact keepsRoute.nil
  | succ polls ih => exact keepsRoute.append (keepsRoute_poll _) ih

theorem keepsRoute_enclosed {command : Command} (hr : command ≠ .reset)
    (hn : command ≠ .routeInterrupt) (reply : Except Error UInt8) {rest : List (Event Bus)}
    (hi : ∀ event ∈ rest, Inner event) :
    KeepsRoute (enclosed (⟨.exchange command.opcode, reply⟩ :: rest)) := by
  intro chip hc
  constructor
  · refine pollsRouted_enclosed ?_ chip
    exact List.forall_mem_cons.2 ⟨True.intro, hi⟩
  · rw [interruptRouted_enclosed hr hn reply hi, hc]

theorem keepsRoute_sent (command : Command) (hr : command ≠ .reset)
    (hn : command ≠ .routeInterrupt) {arguments : List UInt8} {body more : List (Event Bus)}
    (h : Sent (command.opcode :: arguments) body) (hi : ∀ event ∈ more, Inner event) :
    KeepsRoute (enclosed (body ++ more)) := by
  obtain _ | ⟨h⟩ := h
  exact keepsRoute_enclosed hr hn _ (List.forall_mem_append.2 ⟨h.inner, hi⟩)

end Chip

namespace Drive

open Chip Script

/-! ## Deeds -/

theorem keepsRoute_statusRead {answer : UInt8} {events : List (Event Bus)}
    (h : StatusRead answer events) : KeepsRoute events := by
  obtain ⟨h⟩ := h
  exact keepsRoute_sent .status nofun nofun h (by simp [Bus.Inner])

theorem keepsRoute_learnt {answer : UInt8} {mode : StatusMode} {events : List (Event Bus)}
    (h : Learnt answer mode events) : KeepsRoute events := by
  cases h with
  | poll hr => exact keepsRoute_statusRead hr
  | interrupt polls hr =>
    refine keepsRoute.append (keepsRoute_vain polls) ?_
    exact keepsRoute.append (keepsRoute_poll _) (keepsRoute_statusRead hr)

theorem keepsRoute_command {command : Command} (hc : command.isInterrupting = true)
    {arguments : List UInt8} {body : List (Event Bus)}
    (h : Sent (command.opcode :: arguments) body) : KeepsRoute (enclosed body) := by
  rw [← List.append_nil body]
  refine keepsRoute_sent command ?_ ?_ h (by simp)
  · rintro rfl
    cases hc
  · rintro rfl
    cases hc

theorem Told.routes {events : List (Event Bus)} (h : Told .routed events) : Routes events := by
  cases h with
  | routed h => exact fun chip => ⟨pollsRouted_enclosed h.inner chip, interruptRouted_route h chip⟩

/-- Every deed but a reset keeps the interrupt routed. -/
theorem Told.keepsRoute {deed : Deed} {events : List (Event Bus)} (h : Told deed events)
    (hd : deed ≠ .reset) : KeepsRoute events := by
  cases h with
  | paused span => exact fun chip hc => ⟨⟨nofun, True.intro⟩, hc⟩
  | reset => contradiction
  | routed h => exact fun chip _ => (Told.routed h).routes chip
  | switched span h => exact keepsRoute_sent .usbMode nofun nofun h (by simp [Bus.Inner])
  | talked hc hi =>
    refine keepsRoute_enclosed ?_ ?_ _ hi
    · rintro rfl
      exact absurd hc (by decide)
    · rintro rfl
      exact absurd hc (by decide)
  | commanded hc h hl =>
    exact Chip.keepsRoute.append (keepsRoute_command hc h) (keepsRoute_learnt hl)
  | waited hl => exact keepsRoute_learnt hl
  | asked hr => exact keepsRoute_statusRead hr
  | unanswered polls hc h =>
    exact Chip.keepsRoute.append (keepsRoute_command hc h) (keepsRoute_vain polls)
  | unheard polls => exact keepsRoute_vain polls

theorem Told.pollsRouted_paused {events : List (Event Bus)} (h : Told .paused events)
    (chip : Chip) : chip.PollsRouted events := by
  cases h with
  | paused span => exact ⟨nofun, True.intro⟩

/-- A reset, a pause and the routing of the interrupt do not poll. -/
theorem Recounts.routes_reset {deeds : List Deed} {events : List (Event Bus)}
    (h : Recounts (.reset :: .paused :: .routed :: deeds) events)
    (hk : ∀ rest, Recounts deeds rest → KeepsRoute rest) : Routes events := by
  obtain _ | ⟨ht, _ | ⟨hp, _ | ⟨hr, h⟩⟩⟩ := h
  have hp' : Routes _ := (hr.routes.append (hk _ h)).after hp.pollsRouted_paused
  refine hp'.after fun chip => ?_
  cases ht with
  | reset hs => exact pollsRouted_enclosed hs.inner chip

theorem Recounts.keepsRoute {deeds : List Deed} {events : List (Event Bus)}
    (h : Recounts deeds events) (hr : Rerouted deeds) : KeepsRoute events := by
  induction hr generalizing events with
  | nil =>
    cases h
    exact Chip.keepsRoute.nil
  | cons hn _ ih =>
    obtain _ | ⟨ht, h⟩ := h
    exact Chip.keepsRoute.append (ht.keepsRoute hn) (ih h)
  | reset _ ih => exact fun chip _ => h.routes_reset (fun _ => ih) chip

theorem Starts.routes {events : List (Event Bus)} {ending : Option Stop} (h : Starts events ending)
    (hg : ∀ event ∈ events, Granted event) : Routes events := by
  obtain ⟨deeds, hd, ht, -⟩ := h hg
  obtain _ | ⟨hp, hd⟩ := hd
  exact (hd.routes_reset fun _ h => h.keepsRoute ht).after hp.pollsRouted_paused

/-! ## Sessions -/

/-- Performing the first action of a session, then the others unless it stalls. -/
theorem transcript_session_cons {drive : Drive} {action : Action} {actions : List Action}
    {events : List (Event Bus)} {result : Except Empty (List Report)}
    (h : Transcript (drive.session (action :: actions)) events result) :
    ∃ report before after, events = before ++ after ∧
      Transcript (drive.perform action : Dialogue Bus Empty Report) before (.ok report) ∧
      (after = [] ∨ ∃ result : Except Empty (List Report),
        Transcript (drive.session actions) after result) := by
  rcases transcript_bind h with ⟨cause, -, -⟩ | ⟨report, before, after, rfl, hb, ha⟩
  · cases cause
  · refine ⟨report, before, after, rfl, hb, ?_⟩
    split at ha
    · cases ha
      exact .inl rfl
    · rcases transcript_bind ha with ⟨cause, -, -⟩ | ⟨_, _, _, rfl, hs, hd⟩
      · cases cause
      · cases hd
        rw [List.append_nil]
        exact .inr ⟨_, hs⟩

theorem session_keepsRoute {drive : Drive} {actions : List Action} (hr : .reset ∉ actions)
    {events : List (Event Bus)} {result : Except Empty (List Report)}
    (h : Transcript (drive.session actions) events result)
    (hg : ∀ event ∈ events, Granted event) : KeepsRoute events := by
  induction actions generalizing events result with
  | nil =>
    cases h
    exact Chip.keepsRoute.nil
  | cons action actions ih =>
    obtain ⟨hn, hr⟩ := not_or.1 (mt List.mem_cons.2 hr)
    obtain ⟨report, before, after, rfl, hb, ha⟩ := transcript_session_cons h
    obtain ⟨hg, hg'⟩ := List.forall_mem_append.1 hg
    obtain ⟨_, -, hp⟩ := recounted_perform drive (Ne.symm hn) before _ hb
    obtain ⟨deeds, hd, ht, -⟩ := hp hg
    refine Chip.keepsRoute.append (hd.keepsRoute ht) ?_
    rcases ha with rfl | ⟨_, ha⟩
    · exact Chip.keepsRoute.nil
    · exact ih hr ha hg'

/-- The actions begin with one that resets the chip and routes its interrupt, and leave the reset
to such actions. -/
def Initialised : List Action → Prop
  | [] => True
  | first :: rest => (first = .initialise ∨ first = .bringUp) ∧ .reset ∉ rest

/-- In such a session the interrupt is polled only while it is routed, if no call fails. -/
theorem session_pollsRouted {drive : Drive} {actions : List Action} (ha : Initialised actions)
    {events : List (Event Bus)} {result : Except Empty (List Report)}
    (h : Transcript (drive.session actions) events result)
    (hg : ∀ event ∈ events, Granted event) (chip : Chip) : chip.PollsRouted events := by
  cases actions with
  | nil =>
    cases h
    exact True.intro
  | cons first rest =>
    obtain ⟨hf, hr⟩ := ha
    obtain ⟨report, before, after, rfl, hb, ha⟩ := transcript_session_cons h
    obtain ⟨hg, hg'⟩ := List.forall_mem_append.1 hg
    obtain ⟨_, -, hp⟩ := starts_perform drive hf before _ hb
    have hk : KeepsRoute after := by
      rcases ha with rfl | ⟨_, ha⟩
      · exact Chip.keepsRoute.nil
      · exact session_keepsRoute hr ha hg'
    exact ((hp.routes hg).append hk chip).1

end Drive

end DiskBridge

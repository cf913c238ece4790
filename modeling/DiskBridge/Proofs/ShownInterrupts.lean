import DiskBridge.Proofs.RoutedPolls

/-!
# The interrupt is polled only where it shows

Without a wire of its own, the interrupt of a chip shows on the data line: while it is routed there
and the chip is deselected (`Shows`). A drive that begins with a bring-up polls at no other time,
whatever happens to the chip meanwhile, also when a bring-up breaks off.

1. Calls that are bracketed poll between transactions. A transaction leaves the chip deselected,
   whatever it was before (`shown_block`, `shown_of_bracketed`).
2. Nothing that prepares a chip changes what it shows (`Shows.prepare`), nor does an action other
   than a bare reset (`shown_perform`). The two actions that put the chip in order have it show the
   interrupt from any state (`shown_first`).
3. `Unfolds` plays turns one after the other, among them actions that would go on for ever.

`unfolds_pollsShown` states it for all turns.
-/

namespace DiskBridge

open Dialogue Bus

namespace Chip

/-! ## Showing the interrupt -/

/-- The data line shows the interrupt: it is routed there, and the chip is deselected. -/
structure Shows (chip : Chip) : Prop where
  routed : chip.interruptRouted = true
  idle : chip.inTransaction = false

theorem Shows.prepare {chip : Chip} (h : chip.Shows) (preparation : Preparation) :
    (chip.prepare preparation).Shows := by
  cases preparation <;> exact ⟨h.routed, h.idle⟩

def Entry.polls : Entry → Bool
  | .call ⟨.poll, _⟩ => true
  | _ => false

theorem Entry.eq_of_polls {entry : Entry} (h : entry.polls = true) :
    ∃ reply : Except Error Bool, entry = .call ⟨.poll, reply⟩ := by
  unfold polls at h
  split at h
  · exact ⟨_, rfl⟩
  · cases h

/-- Whenever the interrupt is polled, the data line shows it. -/
def PollsShown (chip : Chip) : List Entry → Prop
  | [] => True
  | entry :: rest => (entry.polls = true → chip.Shows) ∧ (chip.undergo entry).PollsShown rest

theorem pollsShown_append {chip : Chip} {before after : List Entry} :
    chip.PollsShown (before ++ after) ↔
      chip.PollsShown before ∧ (chip.through before).PollsShown after := by
  induction before generalizing chip with
  | nil => exact (iff_of_eq (true_and _)).symm
  | cons entry before ih => exact (and_congr_right fun _ => ih).trans and_assoc.symm

theorem pollsShown_inner {body : List (Event Bus)} (hi : ∀ event ∈ body, Inner event)
    (chip : Chip) : chip.PollsShown (called body) := by
  induction body generalizing chip with
  | nil => exact True.intro
  | cons event body ih =>
    obtain ⟨he, hb⟩ := List.forall_mem_cons.1 hi
    refine ⟨fun hp => ?_, ih hb _⟩
    obtain ⟨reply, ⟨⟩⟩ := Entry.eq_of_polls hp
    exact he.elim

/-! ## Bracketed calls -/

/-- Calls during which the interrupt is polled only where it shows, and which leave the chip
deselected. -/
def Shown (chip : Chip) (events : List (Event Bus)) : Prop :=
  chip.PollsShown (called events) ∧ (chip.through (called events)).inTransaction = false

/-- A transaction polls nothing and deselects the chip, whatever came before it. -/
theorem shown_block {chip : Chip} {reply : Except Error Unit} {body rest : List (Event Bus)}
    (hi : ∀ event ∈ body, Inner event)
    (hr : chip.PollsRouted (⟨.begin, .ok ()⟩ :: (body ++ ⟨.finish, reply⟩ :: rest)))
    (ih : ∀ next : Chip, next.inTransaction = false → next.PollsRouted rest → next.Shown rest) :
    chip.Shown (⟨.begin, .ok ()⟩ :: (body ++ ⟨.finish, reply⟩ :: rest)) := by
  let inside := chip.begin.through (called body)
  have hn : inside.finish.PollsRouted rest := (pollsRouted_append.1 hr.2).2.2
  obtain ⟨hp, hl⟩ := ih inside.finish (inTransaction_finish _) hn
  have hs : called (⟨.begin, .ok ()⟩ :: (body ++ ⟨.finish, reply⟩ :: rest)) =
      .call ⟨.begin, .ok ()⟩ :: (called body ++ .call ⟨.finish, reply⟩ :: called rest) := by
    simp [called]
  unfold Shown
  rw [hs]
  constructor
  · have hb := pollsShown_inner hi chip.begin
    exact ⟨Bool.noConfusion, pollsShown_append.2 ⟨hb, Bool.noConfusion, hp⟩⟩
  · show ((chip.undergo _).through _).inTransaction = false
    rw [through_append]
    exact hl

theorem shown_of_bracketed {events : List (Event Bus)} (hb : Bracketed events)
    (hg : ∀ event ∈ events, Granted event) {chip : Chip} (hi : chip.inTransaction = false)
    (hr : chip.PollsRouted events) : chip.Shown events := by
  induction hb generalizing chip with
  | nil => exact ⟨True.intro, hi⟩
  | pause span _ ih =>
    obtain ⟨hp, hl⟩ := ih (List.forall_mem_cons.1 hg).2 hi hr.2
    exact ⟨⟨nofun, hp⟩, hl⟩
  | poll reply _ ih =>
    have hn : (chip.undergo (.call ⟨.poll, reply⟩)).inTransaction = false :=
      (inTransaction_poll chip).trans hi
    obtain ⟨hp, hl⟩ := ih (List.forall_mem_cons.1 hg).2 hn hr.2
    exact ⟨⟨fun _ => ⟨hr.1 rfl, hi⟩, hp⟩, hl⟩
  | refused error _ _ => cases hg _ List.mem_cons_self
  | block reply hb _ ih =>
    have hg := (List.forall_mem_append.1 (List.forall_mem_cons.1 hg).2).2
    exact shown_block hb hr fun next hi hr => ih (List.forall_mem_cons.1 hg).2 hi hr

/-- Calls that begin with a transaction, after a pause, may start in the midst of another. -/
theorem shown_of_begun {span : Duration} {events : List (Event Bus)}
    (hb : Bracketed (⟨.pause span, ()⟩ :: ⟨.begin, .ok ()⟩ :: events))
    (hg : ∀ event ∈ events, Granted event) {chip : Chip}
    (hr : chip.PollsRouted (⟨.pause span, ()⟩ :: ⟨.begin, .ok ()⟩ :: events)) :
    chip.Shown (⟨.pause span, ()⟩ :: ⟨.begin, .ok ()⟩ :: events) := by
  obtain _ | ⟨_, _ | _ | _ | _ | ⟨reply, hi, hb⟩⟩ := hb
  have hg := (List.forall_mem_append.1 hg).2
  obtain ⟨hp, hl⟩ := shown_block hi hr.2 fun next hi hr =>
    shown_of_bracketed hb (List.forall_mem_cons.1 hg).2 hi hr
  exact ⟨⟨nofun, hp⟩, hl⟩

end Chip

namespace Drive

open Chip Script

/-! ## Actions -/

section Action

variable {drive : Drive} {action : Action} {events : List (Event Bus)} {report : Report}
  (ht : Transcript (drive.perform action : Dialogue Bus Empty Report) events (.ok report))
  (hg : ∀ event ∈ events, Granted event)

include ht hg

/-- An action other than a bare reset keeps the interrupt showing. -/
theorem shown_perform (ha : action ≠ .reset) {chip : Chip} (hs : chip.Shows) :
    chip.PollsShown (called events) ∧ (chip.through (called events)).Shows := by
  obtain ⟨_, -, hp⟩ := recounted_perform drive ha events _ ht
  obtain ⟨deeds, hd, ht', -⟩ := hp hg
  obtain ⟨hr, hc⟩ := hd.keepsRoute ht' chip hs.routed
  obtain ⟨hp, hi⟩ := shown_of_bracketed (disciplined_perform drive action _ _ ht) hg hs.idle hr
  exact ⟨hp, hc, hi⟩

/-- The actions that put the chip in order have the interrupt show before they poll it. -/
theorem shown_first (ha : action = .initialise ∨ action = .bringUp) (chip : Chip) :
    chip.PollsShown (called events) ∧ (chip.through (called events)).Shows := by
  have hb := disciplined_perform drive action _ _ ht
  obtain ⟨_, -, hp⟩ := starts_perform drive ha events _ ht
  obtain ⟨hr, hc⟩ := hp.routes hg chip
  -- The first two deeds are a pause and the transaction of the reset.
  obtain ⟨deeds, hd, -⟩ := hp hg
  obtain _ | ⟨⟨span⟩, _ | ⟨⟨hs⟩, hd⟩⟩ := hd
  obtain ⟨hp, hi⟩ := shown_of_begun hb
    (List.forall_mem_cons.1 (List.forall_mem_cons.1 hg).2).2 hr
  exact ⟨hp, hc, hi⟩

end Action

/-! ## Turns -/

/-- The action of a turn, if the drive acts. -/
def Turn.action? : Turn → Option Action
  | .act action => some action
  | .prepare _ => none

/-- The chip that an action leaves, and its calls. -/
def enact (drive : Drive) (action : Action) (chip : Chip) : Chip × List (Event Bus) :=
  let ran := (drive.perform action : Dialogue Bus Empty Report).run Chip.device.recorded (chip, []) []
  (ran.state.1, ran.state.2.reverse)

/-- The calls of an action are a conversation with the chip, and none of them fails. -/
theorem conversation_enact (drive : Drive) (action : Action) (chip : Chip) :
    ∃ report,
      Transcript (drive.perform action : Dialogue Bus Empty Report) (drive.enact action chip).2
        (.ok report) ∧
      (∀ event ∈ (drive.enact action chip).2, Granted event) ∧
      chip.through (called (drive.enact action chip).2) = (drive.enact action chip).1 := by
  obtain ⟨ht, ha⟩ := transcript_recorded Chip.device
    (drive.perform action : Dialogue Bus Empty Report) chip []
  have ha : Answers Chip.device chip (drive.enact action chip).2 (drive.enact action chip).1 :=
    ha.of_recorded
  cases hr : ((drive.perform action : Dialogue Bus Empty Report).run Chip.device.recorded (chip, [])
    []).result with
  | error cause => cases cause
  | ok report => exact ⟨report, hr ▸ ht, granted_of_device ha, through_of_answers ha⟩

/-- What happens to a chip over some turns. Each action has a patience of its own, and one that would
go on for ever is cut off where that ends. -/
inductive Unfolds (config : Config) : Chip → List Turn → List Chip.Entry → Prop
  | nil (chip : Chip) : Unfolds config chip [] []
  | act {chip : Chip} {action : Action} {turns : List Turn} {history : List Chip.Entry}
      (patience : Nat) :
      Unfolds config ((Drive.mk config patience).enact action chip).1 turns history →
        Unfolds config chip (.act action :: turns)
          (Chip.called ((Drive.mk config patience).enact action chip).2 ++ history)
  | prepare {chip : Chip} {preparation : Chip.Preparation} {turns : List Turn}
      {history : List Chip.Entry} :
      Unfolds config (chip.prepare preparation) turns history →
        Unfolds config chip (.prepare preparation :: turns) (.prepared preparation :: history)

section Unfolds

variable {config : Config} {chip : Chip} {turns : List Turn} {history : List Chip.Entry}

/-- Once the interrupt shows, it is polled only where it does. -/
theorem Unfolds.pollsShown_of_shows (h : Unfolds config chip turns history)
    (hr : .reset ∉ turns.filterMap Turn.action?) (hs : chip.Shows) : chip.PollsShown history := by
  induction h with
  | nil => exact True.intro
  | @act chip action _ _ patience _ ih =>
    obtain ⟨hn, hr⟩ := not_or.1 (mt List.mem_cons.2 hr)
    obtain ⟨report, ht, hg, hl⟩ := conversation_enact ⟨config, patience⟩ action chip
    obtain ⟨hp, hs⟩ := shown_perform ht hg (Ne.symm hn) hs
    rw [hl] at hs
    exact pollsShown_append.2 ⟨hp, hl ▸ ih hr hs⟩
  | @prepare _ preparation _ _ _ ih => exact ⟨nofun, ih hr (hs.prepare preparation)⟩

theorem Unfolds.pollsShown (h : Unfolds config chip turns history)
    (hi : Initialised (turns.filterMap Turn.action?)) : chip.PollsShown history := by
  induction h with
  | nil => exact True.intro
  | @act chip action _ _ patience hn _ =>
    obtain ⟨hf, hr⟩ := hi
    obtain ⟨report, ht, hg, hl⟩ := conversation_enact ⟨config, patience⟩ action chip
    obtain ⟨hp, hs⟩ := shown_first ht hg hf chip
    rw [hl] at hs
    exact pollsShown_append.2 ⟨hp, hl ▸ hn.pollsShown_of_shows hr hs⟩
  | prepare _ ih => exact ⟨nofun, ih hi⟩

/-- **Polls.** Whatever state a chip is in, whatever is done to it, and however the actions of the
drive end: if the first action puts the chip in order and none is a bare reset, then at every poll of
the interrupt it is routed to the data line, and the chip is in no transaction. -/
theorem unfolds_pollsShown (h : Unfolds config chip turns history)
    (hi : Initialised (turns.filterMap Turn.action?)) {before after : List Chip.Entry}
    {reply : Except Error Bool} (he : history = before ++ .call ⟨.poll, reply⟩ :: after) :
    (chip.through before).interruptRouted = true ∧ (chip.through before).inTransaction = false := by
  subst he
  have hs : (chip.through before).Shows := (pollsShown_append.1 (h.pollsShown hi)).2.1 rfl
  exact ⟨hs.routed, hs.idle⟩

end Unfolds

/-- A bring-up in the midst of a transaction breaks off when the disk refuses the connection, and the
file opened next polls for its status. -/
theorem unfolds_pollsShown_aborted :
    let chip : Chip := { attached := true, inTransaction := true }
    let refusal : Chip.Preparation := .inject 0x30 0x1f
    let tried := (Drive.mk {} 2).enact .bringUp (chip.prepare refusal)
    let aborted := .prepared refusal :: called tried.2
    ∃ before reply after,
      Unfolds {} chip [.prepare refusal, .act .bringUp, .act .openSelected]
        (aborted ++ before ++ .call ⟨.poll, reply⟩ :: after) ∧
      (chip.through (aborted ++ before)).interruptRouted = true ∧
      (chip.through (aborted ++ before)).inTransaction = false := by
  intro chip refusal tried aborted
  let opened := called ((Drive.mk {} 2).enact .openSelected tried.1).2
  have hp : (opened[3]?).any Entry.polls = true := by decide +kernel
  obtain ⟨entry, hn, hp⟩ := (Option.any_eq_true _ _).1 hp
  obtain ⟨reply, rfl⟩ := Entry.eq_of_polls hp
  have hs : opened = opened.take 3 ++ .call ⟨.poll, reply⟩ :: opened.drop 4 := by
    obtain ⟨hl, he⟩ := List.getElem?_eq_some_iff.1 hn
    rw [← he, List.getElem_cons_drop, List.take_append_drop]
  have hu : Unfolds {} chip [.prepare refusal, .act .bringUp, .act .openSelected]
      (.prepared refusal :: (called tried.2 ++ (opened ++ []))) :=
    .prepare (.act 2 (.act 2 (.nil _)))
  have he : .prepared refusal :: (called tried.2 ++ (opened ++ [])) =
      aborted ++ opened.take 3 ++ .call ⟨.poll, reply⟩ :: opened.drop 4 := by
    rw [List.append_assoc, ← hs, List.append_nil, List.cons_append]
  exact ⟨_, _, _, he ▸ hu, unfolds_pollsShown hu ⟨.inr rfl, by decide⟩ he⟩

end Drive

end DiskBridge

import DiskBridge.Chip.Device
import DiskBridge.Drive.Session
import DiskBridge.Proofs.GrantedCalls
import DiskBridge.Proofs.Outcome

/-!
# Courses of a chip

What can happen to a chip over time: a drive performs actions on it, and between them it is prepared
from outside its bus. `Course` is a course in which every action comes to an end. An action that
waits without a limit comes to an end if it does so with some patience (`Completes`).

The history of a course is every call on the bus and every preparation, so the state of the chip at
any moment is what the history up to then makes of it (`Chip.through`).
-/

namespace DiskBridge

open Dialogue

section Machine

variable {I : Interface} {σ : Type} {machine : Machine I σ}

/-- What a device does is not changed by a record of it. -/
theorem Dialogue.outcome_recorded {ε α : Type} (machine : Machine I σ) (dialogue : Dialogue I ε α)
    (state : σ) (events : List (Event I)) :
    ((dialogue.outcome machine.recorded (state, events)).1,
      (dialogue.outcome machine.recorded (state, events)).2.1) =
        dialogue.outcome machine state := by
  induction dialogue generalizing state events with
  | done | failed => rfl
  | note entry rest ih => exact ih state events
  | ask request rest ih => exact ih _ _ _

theorem Dialogue.Answers.of_recorded {first last : σ × List (Event I)} {events : List (Event I)}
    (h : Answers machine.recorded first events last) : Answers machine first.1 events last.1 := by
  induction h with
  | nil state => exact .nil _
  | cons request _ ih => exact .cons request ih

/-- An outcome is that of a conversation with the device. -/
theorem Dialogue.transcript_of_outcome {ε α : Type} {dialogue : Dialogue I ε α} {state last : σ}
    {result : Except ε α} (h : dialogue.outcome machine state = (result, last)) :
    ∃ events, Transcript dialogue events result ∧ Answers machine state events last := by
  obtain ⟨hr, hs⟩ := run_of_outcome h []
  rw [← hr, ← hs]
  exact transcript_run machine dialogue state []

theorem Dialogue.outcome_of_transcript {ε α : Type} {dialogue : Dialogue I ε α} {state last : σ}
    {events : List (Event I)} {result : Except ε α} (ht : Transcript dialogue events result)
    (ha : Answers machine state events last) :
    dialogue.outcome machine state = (result, last) := by
  obtain ⟨hr, hs⟩ := run_of_transcript ht ha []
  rw [outcome_run _ _ _ [], hr, hs]

theorem Dialogue.answers_cons_iff {request : I.Request} {reply : I.Reply request} {first last : σ}
    {events : List (Event I)} :
    Answers machine first (⟨request, reply⟩ :: events) last ↔
      (machine request first).reply = reply ∧
        Answers machine (machine request first).state events last := by
  constructor
  · generalize he : (⟨request, reply⟩ :: events : List (Event I)) = all
    intro h
    cases h with
    | nil => cases he
    | cons other h =>
      cases he
      exact ⟨rfl, h⟩
  · rintro ⟨rfl, h⟩
    exact .cons request h

/-- A device gives its answers piece by piece. -/
theorem Dialogue.answers_append_iff {first last : σ} {before after : List (Event I)} :
    Answers machine first (before ++ after) last ↔
      ∃ middle, Answers machine first before middle ∧ Answers machine middle after last := by
  constructor
  · intro h
    induction before generalizing first with
    | nil => exact ⟨first, .nil first, h⟩
    | cons event before ih =>
      obtain _ | ⟨request, h⟩ := h
      obtain ⟨middle, hb, ha⟩ := ih h
      exact ⟨middle, .cons request hb, ha⟩
  · rintro ⟨middle, hb, ha⟩
    induction hb with
    | nil => exact ha
    | cons request _ ih => exact .cons request (ih ha)

end Machine

namespace Chip

/-- Something done to a chip from outside its bus. -/
inductive Preparation where
  | attach
  | limitConnects (count : Nat)
  | allowConnect
  | queueStatus (status : UInt8)
  | inject (opcode status : UInt8)
  | scriptChunks (sizes : List Nat)
  | addDirectory (path : Path)
  | addFile (path : Path) (data : List UInt8)
  deriving DecidableEq

def prepare (chip : Chip) : Preparation → Chip
  | .attach => chip.attach
  | .limitConnects count => chip.limitConnects count
  | .allowConnect => chip.allowConnect
  | .queueStatus status => chip.queueStatus status
  | .inject opcode status => chip.inject opcode status
  | .scriptChunks sizes => chip.scriptChunks sizes
  | .addDirectory path => chip.addDirectory path
  | .addFile path data => chip.addFile path data

/-- One thing that happened to a chip. -/
inductive Entry where
  | call (event : Event Bus)
  | prepared (preparation : Preparation)

def undergo (chip : Chip) : Entry → Chip
  | .call event => (device event.request chip).state
  | .prepared preparation => chip.prepare preparation

/-- The chip after all that happened to it, the oldest first. -/
def through (chip : Chip) (history : List Entry) : Chip := history.foldl undergo chip

/-- Calls on the bus as a history. -/
def called (events : List (Event Bus)) : List Entry := events.map .call

theorem called_append (before after : List (Event Bus)) :
    called (before ++ after) = called before ++ called after := List.map_append

theorem through_append (chip : Chip) (before after : List Entry) :
    chip.through (before ++ after) = (chip.through before).through after := List.foldl_append

theorem through_of_answers {chip last : Chip} {events : List (Event Bus)}
    (h : Answers device chip events last) : chip.through (called events) = last := by
  induction h with
  | nil => rfl
  | cons request _ ih => exact ih

theorem granted_of_device {chip last : Chip} {events : List (Event Bus)}
    (h : Answers device chip events last) : ∀ event ∈ events, Bus.Granted event := by
  refine Bus.granted_of_answers (fun request state => ?_) h
  cases request with
  | begin | finish => rfl
  | exchange | poll => exact ⟨_, rfl⟩
  | pause => exact True.intro

end Chip

namespace Drive

/-- What happens next: the drive acts, or the chip is prepared. -/
inductive Turn where
  | act (action : Action)
  | prepare (preparation : Chip.Preparation)
  deriving DecidableEq

/-- The action comes to an end on the chip with a report, having made some calls. -/
def Completes (config : Config) (chip : Chip) (action : Action) (report : Report)
    (events : List (Event Bus)) (last : Chip) : Prop :=
  ∃ patience,
    let ran := ((Drive.mk config patience).perform action : Dialogue Bus Empty Report).run
      Chip.device.recorded (chip, []) []
    ran.result = .ok report ∧ ran.state = (last, events.reverse) ∧ report.stalled = false

/-- What completes is a conversation of the action with the chip. -/
theorem Completes.conversation {config : Config} {chip last : Chip} {action : Action}
    {report : Report} {events : List (Event Bus)}
    (h : Completes config chip action report events last) :
    ∃ drive : Drive, Transcript (drive.perform action : Dialogue Bus Empty Report) events
      (.ok report) ∧ Answers Chip.device chip events last ∧ report.stalled = false := by
  obtain ⟨patience, hr, hs, hn⟩ := h
  have ht := transcript_recorded Chip.device
    ((Drive.mk config patience).perform action : Dialogue Bus Empty Report) chip []
  simp only [hr, hs, List.reverse_reverse] at ht
  exact ⟨⟨config, patience⟩, ht.1, ht.2.of_recorded, hn⟩

/-- A course of a chip under a drive: the report of each action, with the chip it left, and the
history. -/
inductive Course (config : Config) :
    Chip → List Turn → List (Report × Chip) → List Chip.Entry → Chip → Prop
  | nil (chip : Chip) : Course config chip [] [] [] chip
  | act {chip next last : Chip} {action : Action} {turns : List Turn} {report : Report}
      {events : List (Event Bus)} {results : List (Report × Chip)} {history : List Chip.Entry} :
      Completes config chip action report events next →
        Course config next turns results history last →
        Course config chip (.act action :: turns) ((report, next) :: results)
          (Chip.called events ++ history) last
  | prepare {chip last : Chip} {preparation : Chip.Preparation} {turns : List Turn}
      {results : List (Report × Chip)} {history : List Chip.Entry} :
      Course config (chip.prepare preparation) turns results history last →
        Course config chip (.prepare preparation :: turns) results
          (.prepared preparation :: history) last

/-- A course splits where its turns do. -/
theorem Course.split {config : Config} {chip last : Chip} {before after : List Turn}
    {results : List (Report × Chip)} {history : List Chip.Entry}
    (h : Course config chip (before ++ after) results history last) :
    ∃ middle earlier later past future, results = earlier ++ later ∧ history = past ++ future ∧
      Course config chip before earlier past middle ∧
      Course config middle after later future last := by
  induction before generalizing chip results history with
  | nil => exact ⟨chip, [], results, [], history, rfl, rfl, .nil chip, h⟩
  | cons turn before ih =>
    cases h with
    | act hc h =>
      obtain ⟨middle, earlier, later, past, future, rfl, rfl, hb, ha⟩ := ih h
      refine ⟨middle, _, later, _, future, rfl, ?_, .act hc hb, ha⟩
      rw [List.append_assoc]
    | prepare h =>
      obtain ⟨middle, earlier, later, past, future, rfl, rfl, hb, ha⟩ := ih h
      exact ⟨middle, earlier, later, _, future, rfl, rfl, .prepare hb, ha⟩

/-- The results, the history and the last chip of a course, unless an action outlasts the patience
of the drive. -/
def play (drive : Drive) (chip : Chip) :
    List Turn → Option (List (Report × Chip) × List Chip.Entry × Chip)
  | [] => some ([], [], chip)
  | .act action :: turns =>
    match (drive.perform action : Dialogue Bus Empty Report).run Chip.device.recorded (chip, [])
      [] with
    | ⟨.error cause, _, _⟩ => nomatch cause
    | ⟨.ok report, (next, events), _⟩ =>
      if report.stalled then none
      else (drive.play next turns).map fun (results, history, last) =>
        ((report, next) :: results, Chip.called events.reverse ++ history, last)
  | .prepare preparation :: turns =>
    (drive.play (chip.prepare preparation) turns).map fun (results, history, last) =>
      (results, .prepared preparation :: history, last)

theorem course_play {drive : Drive} {chip last : Chip} {turns : List Turn}
    {results : List (Report × Chip)} {history : List Chip.Entry}
    (h : drive.play chip turns = some (results, history, last)) :
    Course drive.config chip turns results history last := by
  fun_induction play drive chip turns generalizing results history with
  | case1 chip =>
    cases h
    exact .nil _
  | case2 => cases h
  | case3 chip action turns report next events _ hr hs ih =>
    obtain ⟨⟨results, history, last⟩, hp, ⟨⟩⟩ := Option.map_eq_some_iff.1 h
    have hc : Completes drive.config chip action report events.reverse next := by
      refine ⟨drive.patience, ?_⟩
      rw [hr]
      exact ⟨rfl, congrArg _ (List.reverse_reverse events).symm, Bool.eq_false_iff.2 hs⟩
    exact .act hc (ih hp)
  | case4 chip preparation turns ih =>
    obtain ⟨⟨results, history, last⟩, hp, ⟨⟩⟩ := Option.map_eq_some_iff.1 h
    exact .prepare (ih hp)

end Drive

end DiskBridge

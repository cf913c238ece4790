import DiskBridge.Journal

/-!
# Dialogues

A dialogue asks questions of some device and goes on from the answers. It is plain data: a tree
whose branches are the possible replies, so one dialogue serves every device that answers the
same interface, and what holds on all branches holds for every device.

A `Machine` is a device: it answers each request from a state. `Dialogue.run` plays a dialogue
against a machine. `run_bind` says that a sequence of dialogues runs one after the other.
-/

namespace DiskBridge

/-- The requests a device accepts, and the type of the reply to each. -/
structure Interface where
  Request : Type
  Reply : Request → Type

/-- A conversation with a device that ends in a value or in a cause of failure. -/
inductive Dialogue (I : Interface) (ε α : Type) where
  | done (value : α)
  | failed (cause : ε)
  | note (entry : Note) (next : Dialogue I ε α)
  | ask (request : I.Request) (next : I.Reply request → Dialogue I ε α)

namespace Dialogue

variable {I : Interface} {ε δ α β : Type}

protected def bind (first : Dialogue I ε α) (next : α → Dialogue I ε β) : Dialogue I ε β :=
  match first with
  | done value => next value
  | failed cause => failed cause
  | note entry rest => note entry (rest.bind next)
  | ask request rest => ask request fun reply => (rest reply).bind next

instance : Monad (Dialogue I ε) where
  pure := done
  bind := Dialogue.bind

@[simp] theorem pure_eq (value : α) : (pure value : Dialogue I ε α) = done value := rfl

@[simp] theorem done_bind (value : α) (next : α → Dialogue I ε β) :
    done value >>= next = next value := rfl

@[simp] theorem failed_bind (cause : ε) (next : α → Dialogue I ε β) :
    (failed cause : Dialogue I ε α) >>= next = failed cause := rfl

@[simp] theorem note_bind (entry : Note) (rest : Dialogue I ε α) (next : α → Dialogue I ε β) :
    note entry rest >>= next = note entry (rest >>= next) := rfl

@[simp] theorem ask_bind (request : I.Request) (rest : I.Reply request → Dialogue I ε α)
    (next : α → Dialogue I ε β) :
    ask request rest >>= next = ask request fun reply => rest reply >>= next := rfl

theorem bind_done (first : Dialogue I ε α) : first >>= done = first := by
  induction first with
  | done | failed => rfl
  | note entry rest ih => rw [note_bind, ih]
  | ask request rest ih =>
    rw [ask_bind]
    exact congrArg _ (funext ih)

theorem bind_bind (first : Dialogue I ε α) (next : α → Dialogue I ε β)
    (last : β → Dialogue I ε γ) :
    first >>= next >>= last = first >>= fun value => next value >>= last := by
  induction first with
  | done | failed => rfl
  | note entry rest ih => simp only [note_bind, ih]
  | ask request rest ih =>
    simp only [ask_bind]
    exact congrArg _ (funext ih)

instance : LawfulMonad (Dialogue I ε) :=
  LawfulMonad.mk' _ bind_done (fun _ _ => rfl) bind_bind

/-- Asks one question and ends with the reply. -/
def request (request : I.Request) : Dialogue I ε (I.Reply request) := ask request done

/-- Ends as a result does. -/
def ofExcept : Except ε α → Dialogue I ε α
  | .ok value => done value
  | .error cause => failed cause

/-- Adds a note to the journal. -/
def say (level : Level) (text : String) : Dialogue I ε Unit := note ⟨level, text⟩ (done ())

/-- Ends well in every case, with the way the given dialogue ended. -/
def attempt : Dialogue I ε α → Dialogue I δ (Except ε α)
  | done value => done (.ok value)
  | failed cause => done (.error cause)
  | note entry rest => note entry rest.attempt
  | ask request rest => ask request fun reply => (rest reply).attempt

/-- Restates the cause of a failure. -/
def mapFailure (restate : ε → δ) : Dialogue I ε α → Dialogue I δ α
  | done value => done value
  | failed cause => failed (restate cause)
  | note entry rest => note entry (rest.mapFailure restate)
  | ask request rest => ask request fun reply => (rest reply).mapFailure restate

end Dialogue

/-- What a device does with a request: its reply, its next state, and what it has to say. -/
structure Reaction (σ ρ : Type) where
  reply : ρ
  state : σ
  journal : Journal := []

/-- A device with states `σ` that answers an interface. -/
def Machine (I : Interface) (σ : Type) : Type :=
  (request : I.Request) → σ → Reaction σ (I.Reply request)

/-- One question and its answer. -/
structure Event (I : Interface) where
  request : I.Request
  reply : I.Reply request

/-- A device that keeps all questions and answers, the newest first. -/
def Machine.recorded {I : Interface} (machine : Machine I σ) : Machine I (σ × List (Event I)) :=
  fun request (state, events) =>
    let reaction := machine request state
    { reply := reaction.reply
      state := (reaction.state, ⟨request, reaction.reply⟩ :: events)
      journal := reaction.journal }

/-- How a run ended: its result, the state it left the device in, and the journal. -/
structure Ran (ε α σ : Type) where
  result : Except ε α
  state : σ
  journal : Journal

namespace Dialogue

variable {I : Interface} {ε δ α β σ : Type}

/-- Plays a dialogue against a machine from a state, adding to a journal. -/
def run (machine : Machine I σ) : Dialogue I ε α → σ → Journal → Ran ε α σ
  | done value, state, journal => ⟨.ok value, state, journal⟩
  | failed cause, state, journal => ⟨.error cause, state, journal⟩
  | note entry rest, state, journal => rest.run machine state (entry :: journal)
  | ask request rest, state, journal =>
    let reaction := machine request state
    (rest reaction.reply).run machine reaction.state (reaction.journal ++ journal)

/-- A sequence runs one after the other: the second starts where the first left off, unless the
first failed. -/
theorem run_bind (machine : Machine I σ) (first : Dialogue I ε α) (next : α → Dialogue I ε β)
    (state : σ) (journal : Journal) :
    (first >>= next).run machine state journal =
      match (first.run machine state journal) with
      | ⟨.ok value, state, journal⟩ => (next value).run machine state journal
      | ⟨.error cause, state, journal⟩ => ⟨.error cause, state, journal⟩ := by
  induction first generalizing state journal with
  | done | failed => rfl
  | note entry rest ih => exact ih state _
  | ask request rest ih => exact ih _ _ _

theorem run_attempt (machine : Machine I σ) (dialogue : Dialogue I ε α) (state : σ)
    (journal : Journal) :
    (dialogue.attempt : Dialogue I δ (Except ε α)).run machine state journal =
      let ran := dialogue.run machine state journal
      ⟨.ok ran.result, ran.state, ran.journal⟩ := by
  induction dialogue generalizing state journal with
  | done | failed => rfl
  | note entry rest ih => exact ih state _
  | ask request rest ih => exact ih _ _ _

end Dialogue

end DiskBridge

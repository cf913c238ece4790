import DiskBridge.Dialogue

/-!
# Outcomes of runs

The journal of a run plays no part in how the run goes on. `outcome` is what remains of a run
without it: the result and the state of the device. `outcome_run` ties the two together, and the
other lemmas say how outcomes are put together as dialogues are.
-/

namespace DiskBridge.Dialogue

variable {I : Interface} {ε δ α β σ : Type}

theorem run_mapFailure (machine : Machine I σ) (restate : ε → δ) (dialogue : Dialogue I ε α)
    (state : σ) (journal : Journal) :
    (dialogue.mapFailure restate).run machine state journal =
      let ran := dialogue.run machine state journal
      ⟨ran.result.mapError restate, ran.state, ran.journal⟩ := by
  induction dialogue generalizing state journal with
  | done | failed => rfl
  | note entry rest ih => exact ih state _
  | ask request rest ih => exact ih _ _ _

theorem run_ofExcept (machine : Machine I σ) (result : Except ε α) (state : σ)
    (journal : Journal) :
    (ofExcept result : Dialogue I ε α).run machine state journal = ⟨result, state, journal⟩ := by
  cases result <;> rfl

section Run

variable {machine : Machine I σ} {first : Dialogue I ε α} {state state' : σ}
  {journal journal' : Journal} {value : α}
  (h : first.run machine state journal = ⟨.ok value, state', journal'⟩)

include h

theorem run_mapFailure_ok (restate : ε → δ) :
    (first.mapFailure restate).run machine state journal = ⟨.ok value, state', journal'⟩ := by
  rw [run_mapFailure, h]
  rfl

theorem run_bind_ok (next : α → Dialogue I ε β) :
    (first >>= next).run machine state journal = (next value).run machine state' journal' := by
  rw [run_bind, h]

end Run

/-- How a dialogue ends on a machine, and the state it leaves the machine in. -/
def outcome (machine : Machine I σ) : Dialogue I ε α → σ → Except ε α × σ
  | done value, state => (.ok value, state)
  | failed cause, state => (.error cause, state)
  | note _ rest, state => rest.outcome machine state
  | ask request rest, state =>
    (rest (machine request state).reply).outcome machine (machine request state).state

/-- The outcome of a run, whatever the journal before it. -/
theorem outcome_run (machine : Machine I σ) (dialogue : Dialogue I ε α) (state : σ)
    (journal : Journal) :
    dialogue.outcome machine state =
      ((dialogue.run machine state journal).result,
        (dialogue.run machine state journal).state) := by
  induction dialogue generalizing state journal with
  | done | failed => rfl
  | note entry rest ih => exact ih state _
  | ask request rest ih => exact ih _ _ _

theorem run_of_outcome {machine : Machine I σ} {dialogue : Dialogue I ε α} {state last : σ}
    {result : Except ε α} (h : dialogue.outcome machine state = (result, last))
    (journal : Journal) :
    (dialogue.run machine state journal).result = result ∧
      (dialogue.run machine state journal).state = last := by
  rw [outcome_run machine dialogue state journal] at h
  exact Prod.mk.inj h

section Machine

variable (machine : Machine I σ) (state : σ)

@[simp] theorem outcome_say_bind (level : Level) (text : String) (next : Unit → Dialogue I ε α) :
    (say level text >>= next).outcome machine state = (next ()).outcome machine state := rfl

theorem outcome_ask (request : I.Request) (next : I.Reply request → Dialogue I ε α) :
    (ask request next).outcome machine state =
      (next (machine request state).reply).outcome machine (machine request state).state := rfl

theorem outcome_bind (first : Dialogue I ε α) (next : α → Dialogue I ε β) :
    (first >>= next).outcome machine state =
      match first.outcome machine state with
      | (.ok value, state) => (next value).outcome machine state
      | (.error cause, state) => (.error cause, state) := by
  induction first generalizing state with
  | done | failed => rfl
  | note entry rest ih => exact ih state
  | ask request rest ih => exact ih _ _

theorem outcome_attempt (dialogue : Dialogue I ε α) :
    (dialogue.attempt : Dialogue I δ (Except ε α)).outcome machine state =
      (.ok (dialogue.outcome machine state).1, (dialogue.outcome machine state).2) := by
  induction dialogue generalizing state with
  | done | failed => rfl
  | note entry rest ih => exact ih state
  | ask request rest ih => exact ih _ _

theorem outcome_mapFailure (restate : ε → δ) (dialogue : Dialogue I ε α) :
    (dialogue.mapFailure restate).outcome machine state =
      ((dialogue.outcome machine state).1.mapError restate,
        (dialogue.outcome machine state).2) := by
  induction dialogue generalizing state with
  | done | failed => rfl
  | note entry rest ih => exact ih state
  | ask request rest ih => exact ih _ _

variable {machine state} {state' : σ}

/-- A sequence goes on where its first part left off. -/
theorem outcome_bind_ok {first : Dialogue I ε α} {next : α → Dialogue I ε β} {value : α}
    (h : first.outcome machine state = (.ok value, state')) :
    (first >>= next).outcome machine state = (next value).outcome machine state' := by
  rw [outcome_bind, h]

/-- A sequence ends where its first part fails. -/
theorem outcome_bind_error {first : Dialogue I ε α} {next : α → Dialogue I ε β} {cause : ε}
    (h : first.outcome machine state = (.error cause, state')) :
    (first >>= next).outcome machine state = (.error cause, state') := by
  rw [outcome_bind, h]

/-- A sequence that ends with a value has come through its first part. -/
theorem outcome_bind_eq_ok {first : Dialogue I ε α} {next : α → Dialogue I ε β} {value : β}
    (h : (first >>= next).outcome machine state = (.ok value, state')) :
    ∃ reply middle, first.outcome machine state = (.ok reply, middle) ∧
      (next reply).outcome machine middle = (.ok value, state') := by
  rw [outcome_bind] at h
  split at h
  · next reply middle hf => exact ⟨reply, middle, hf, h⟩
  · cases h

theorem outcome_mapFailure_ok {dialogue : Dialogue I ε α} {value : α} (restate : ε → δ)
    (h : dialogue.outcome machine state = (.ok value, state')) :
    (dialogue.mapFailure restate).outcome machine state = (.ok value, state') := by
  rw [outcome_mapFailure, h]
  rfl

end Machine

end DiskBridge.Dialogue

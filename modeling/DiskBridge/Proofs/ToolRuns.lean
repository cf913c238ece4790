import DiskBridge.Proofs.Outcome
import DiskBridge.Tool.Store

/-!
# Runs of tools

A tool runs on a bus with a console. What it does on the bus is what the operations in it do there
(`outcome_perform`), and what it prints stands in the console in the order of the prints
(`outcome_print`). So the tool that stores a file does what its operations do in sequence
(`outcome_storeFile`).
-/

namespace DiskBridge

open Dialogue

section WithFirst

variable {I J : Interface} {ε δ α β : Type}

theorem Dialogue.mapFailure_bind (restate : ε → δ) (first : Dialogue I ε α)
    (next : α → Dialogue I ε β) :
    (first >>= next).mapFailure restate =
      first.mapFailure restate >>= fun value => (next value).mapFailure restate := by
  induction first with
  | done | failed => rfl
  | note entry rest ih => exact congrArg (note entry) ih
  | ask request rest ih => exact congrArg (ask request) (funext ih)

theorem Dialogue.withFirst_bind (first : Dialogue I ε α) (next : α → Dialogue I ε β) :
    ((first >>= next).withFirst : Dialogue (I.sum J) ε β) =
      first.withFirst >>= fun value => (next value).withFirst := by
  induction first with
  | done | failed => rfl
  | note entry rest ih => exact congrArg (note entry) ih
  | ask request rest ih => exact congrArg (ask (I := I.sum J) (.inl request)) (funext ih)

end WithFirst

namespace Tool

variable {σ α β : Type}

theorem perform_bind (first : Operation α) (next : α → Operation β) :
    perform (first >>= next) = perform first >>= fun value => perform (next value) := by
  unfold perform
  rw [mapFailure_bind, withFirst_bind]

theorem outcome_withFirst {ε : Type} (machine : Machine Bus σ) (dialogue : Dialogue Bus ε α)
    (state : σ) (printed : List (List UInt8)) :
    dialogue.withFirst.outcome machine.withConsole (state, printed) =
      ((dialogue.outcome machine state).1, ((dialogue.outcome machine state).2, printed)) := by
  induction dialogue generalizing state with
  | done | failed => rfl
  | note entry rest ih => exact ih state
  | ask request rest ih => exact ih _ _

/-- An operation in a tool does on the bus what it does alone, and prints nothing. -/
theorem outcome_perform (machine : Machine Bus σ) (operation : Operation α) (state : σ)
    (printed : List (List UInt8)) :
    (perform operation).outcome machine.withConsole (state, printed) =
      ((operation.outcome machine state).1.mapError Failure.drive,
        ((operation.outcome machine state).2, printed)) := by
  unfold perform
  rw [outcome_withFirst, outcome_mapFailure]

theorem outcome_perform_ok {machine : Machine Bus σ} {operation : Operation α} {state last : σ}
    {value : α} (h : operation.outcome machine state = (.ok value, last))
    (printed : List (List UInt8)) :
    (perform operation).outcome machine.withConsole (state, printed) =
      (.ok value, (last, printed)) := by
  rw [outcome_perform, h]
  rfl

theorem outcome_print (machine : Machine Bus σ) (bytes : List UInt8) (state : σ)
    (printed : List (List UInt8)) :
    (print bytes).outcome machine.withConsole (state, printed) =
      (.ok (), (state, bytes :: printed)) := rfl

/-- What is printed when a file was stored. -/
def storedLine (path : String) (written : Nat) : List UInt8 :=
  Utf8.encode (s!"Wrote {written} bytes to " ++ path ++ "\n")

theorem outcome_storeFile (machine : Machine Bus σ) (drive : Drive) (path : String)
    (data : List UInt8) (parents : Bool) (state : σ) :
    (storeFile drive path data parents).outcome machine.withConsole (state, []) =
      match (drive.bringUp >>= fun _ => store drive path data parents).outcome machine state with
      | (.ok written, last) => (.ok (), (last, [storedLine path written]))
      | (.error stop, last) => (.error (.drive stop), (last, [])) := by
  have he : storeFile drive path data parents =
      perform (drive.bringUp >>= fun _ => store drive path data parents) >>= fun written =>
        print (storedLine path written) := by
    rw [perform_bind, bind_bind]
    rfl
  rw [he, outcome_bind, outcome_perform]
  cases (drive.bringUp >>= fun _ => store drive path data parents).outcome machine state with
  | mk result last => cases result <;> rfl

/-! ## The parts of storing a file -/

/-- Creates the directory that a path lies in, with `parents` and unless that is the root. -/
def makeParent (drive : Drive) (path : String) (parents : Bool) : Operation Unit :=
  match parents, parentOf? path with
  | true, some parent => drive.createDirectoryPath parent
  | true, none | false, _ => done ()

/-- Puts a file in the place of what is at a path. -/
def replace (drive : Drive) (path : String) (data : List UInt8) : Operation Nat := do
  eraseAnyway drive path
  drive.createPath path
  let written ← storePieces drive data 0
  drive.close
  return written

theorem store_eq (drive : Drive) (path : String) (data : List UInt8) (parents : Bool) :
    store drive path data parents =
      makeParent drive path parents >>= fun _ => replace drive path data := by
  unfold store makeParent
  cases parents with
  | false => rfl
  | true => cases parentOf? path <;> rfl

end Tool

end DiskBridge

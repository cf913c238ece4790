import DiskBridge.Drive.BringUp
import DiskBridge.Drive.Path
import DiskBridge.Drive.Transfer

/-!
# Tools

Small programs on a drive. A tool prints as it goes, so its dialogue is with a bus and with a
console.
-/

namespace DiskBridge

/-- Two devices side by side. -/
def Interface.sum (I J : Interface) : Interface where
  Request := I.Request ⊕ J.Request
  Reply
    | .inl request => I.Reply request
    | .inr request => J.Reply request

/-- A console, on which bytes are printed. -/
def Console : Interface where
  Request := List UInt8
  Reply _ := Unit

/-- A dialogue with the first of two devices. -/
def Dialogue.withFirst {I J : Interface} : Dialogue I ε α → Dialogue (I.sum J) ε α
  | done value => done value
  | failed cause => failed cause
  | note entry rest => note entry rest.withFirst
  | ask request rest => ask (.inl request) fun reply => (rest reply).withFirst

/-- A bus with a console, which keeps what was printed, the newest first. -/
def Machine.withConsole (machine : Machine Bus σ) :
    Machine (Bus.sum Console) (σ × List (List UInt8))
  | .inl call, (state, printed) =>
    let reaction := machine call state
    { reply := reaction.reply, state := (reaction.state, printed), journal := reaction.journal }
  | .inr bytes, (state, printed) => { reply := (), state := (state, bytes :: printed) }

namespace Tool

open Dialogue

/-- Why a tool ended early. -/
inductive Failure where
  | drive (stop : Stop)
  | tool (message : String)
  deriving DecidableEq

def Failure.message : Failure → String
  | drive (.error error) => "ch376 error: " ++ error.message
  | drive .stalled => "ch376 error: no answer"
  | tool message => "App error: " ++ message

/-- A file of this machine that is not there. -/
def Failure.noFile (path : String) : Failure :=
  tool ("Failed to read " ++ path ++ ": No such file or directory (os error 2)")

/-- A program on a bus with a console. -/
abbrev Program (α : Type) := Dialogue (Bus.sum Console) Failure α

/-- An operation of the drive, in a program. -/
def perform (operation : Operation α) : Program α :=
  (operation.mapFailure Failure.drive).withFirst

def print (bytes : List UInt8) : Program Unit :=
  ask (I := Bus.sum Console) (.inr bytes) fun _ => done ()

def printLine (text : String) : Program Unit := print (Utf8.encode (text ++ "\n"))

end Tool

end DiskBridge

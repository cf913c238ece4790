import DiskBridge.Assembly
import DiskBridge.Remote.Server
import DiskBridge.Tool.Basic

/-!
# Running a tool

On an adapter of this machine, which is opened before and let go of afterwards, or on a bridge at
the far end of a connection.
-/

namespace DiskBridge.Tool

open Dialogue

/-- Chooses how a drive is made on a USB host. -/
abbrev Choice := Dialogue Usb Failure Assembly

/-- The choice of the tools: all as usual. -/
def usualChoice : Choice := return {}

/-- The choice for greeting the chip: a host prepared beforehand, and polled statuses. -/
def greetingChoice : Choice := do
  match ← request (I := Usb) .prepare with
  | .error fault => failed (.tool ("Failed to create context: " ++ fault.message))
  | .ok () => ask (.logLevel Assembly.hostLogLevel) .done
  return { hasHost := true, config := { Config.standard with statusMode := .poll } }

/-- Opens the adapter that is chosen. -/
def openChosen (choice : Choice) : Dialogue Usb Failure (Adapter × Assembly) := do
  let assembly ← choice
  let (adapter, _) ← assembly.openAdapter.mapFailure fun error => .drive (.error error)
  return (adapter, assembly)

/-- Runs a tool on an adapter. The state keeps what was printed, the newest first. -/
def onAdapter (host : Machine Usb τ) (choice : Choice) (patience : Nat)
    (tool : Drive → Program α) (state : τ) : Ran Failure α (τ × List (List UInt8)) :=
  let opened := (openChosen choice).run host state []
  match opened.result with
  | .error failure => ⟨.error failure, (opened.state, []), opened.journal⟩
  | .ok (adapter, assembly) =>
    let bus := (Adapter.device host).withConsole
    let ran := (tool ⟨assembly.config, patience⟩).run bus ((adapter, opened.state), [])
      opened.journal
    let ((_, state), printed) := ran.state
    let dropped := (Adapter.drop : Dialogue Usb Empty Unit).run host state ran.journal
    ⟨ran.result, (dropped.state, printed), dropped.journal⟩

/-- Runs a tool on a bridge that serves a device, and ends the connection. The result comes with
the error with which the server saw the connection end. -/
def onBridge (device : Machine Bus δ) (assembly : Assembly) (patience : Nat)
    (tool : Drive → Program α) (state : δ) :
    Ran Failure α (δ × List (List UInt8)) × Error :=
  let bus := (Remote.Client.device (Remote.Server.peer device)).withConsole
  let ran := (tool ⟨assembly.config, patience⟩).run bus ({ device := state }, []) []
  let (peer, printed) := ran.state
  let ended := (Remote.Server.hangUp peer.progress).run device peer.device ran.journal
  (⟨ran.result, (ended.state, printed), ended.journal⟩, Remote.Server.succeeded ended.result)

end DiskBridge.Tool

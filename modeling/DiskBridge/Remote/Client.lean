import DiskBridge.Network
import DiskBridge.Remote.Message

/-!
# The client of a remote bridge

A bus whose calls are carried out at the far end of a connection. Each call sends one request and
reads one response, which has to be of the same kind.
-/

namespace DiskBridge.Remote.Client

open Dialogue Network

/-- An error of the connection. -/
def connectionError (message : String) (errno : Int32) : Error :=
  .access (.network message errno)

/-- Makes a connection. -/
def connect (network : Network) (address : Address) : Dialogue Stream Error Unit :=
  match network.connect address with
  | .ok () => say .info ("Connected to remote device at " ++ address.text)
  | .error fault =>
    failed (connectionError
      ("Failed to connect to " ++ address.text ++ ": " ++ fault.message) fault.errno)

def send (bytes : List UInt8) : Dialogue Stream Fault Unit := ask (.send bytes) .ofExcept

def receive (count : Nat) : Dialogue Stream Fault (List UInt8) := ask (.receive count) .ofExcept

/-- Reads one message. -/
def receiveMessage : Dialogue Stream Fault (List UInt8) := do
  let length := ofLittleEndian (← receive 8)
  if maxMessage < length then failed ⟨tooLong length, none⟩
  else receive length

/-- Restates a fault, with what was being done. -/
def during (what : String) (fault : Fault) : Error :=
  connectionError (what ++ ": " ++ fault.message) fault.errno

/-- Sends a request and reads the response. -/
def converse (call : Bus.Call) : Dialogue Stream Error Response := do
  let body := Codec.encode call
  (send (littleEndian 8 body.length)).mapFailure (during "Failed to send message length")
  (send body).mapFailure (during "Failed to send message")
  let answer ← receiveMessage.mapFailure (during "Failed to read response")
  match Codec.decode Response answer with
  | .ok response => return response
  | .error error =>
    failed (connectionError ("Failed to deserialize: " ++ error.message) Errno.inputOutput)

/-- A response of another kind than the request. -/
def unexpected (call : Bus.Call) (response : Response) : Error :=
  .traffic (.remote ("Unexpected response for " ++ call.name ++ ": " ++ response.text)
    Errno.inputOutput)

def begin : Dialogue Stream Error Unit := do
  match ← converse .begin with
  | .began result => ofExcept result
  | response => failed (unexpected .begin response)

def finish : Dialogue Stream Error Unit := do
  match ← converse .finish with
  | .finished result => ofExcept result
  | response => failed (unexpected .finish response)

def exchange (byte : UInt8) : Dialogue Stream Error UInt8 := do
  match ← converse (.exchange byte) with
  | .exchanged result => ofExcept result
  | response => failed (unexpected (.exchange byte) response)

def poll : Dialogue Stream Error Bool := do
  match ← converse .poll with
  | .polled result => ofExcept result
  | response => failed (unexpected .poll response)

/-- Has the far end pause, next to the chip. If that fails the pause is spent here. -/
def pause (span : Duration) : Dialogue Stream ε Unit := do
  match ← (converse (.pause span)).attempt with
  | .ok .paused => return
  | .ok response => say .warn (unexpected (.pause span) response).message
  | .error error => say .warn ("Remote delay failed, delaying locally: " ++ error.message)

/-- The client as a bus, over any connection. -/
def device (stream : Machine Stream τ) : Machine Bus τ
  | .begin, state => reaction (begin.run stream state [])
  | .finish, state => reaction (finish.run stream state [])
  | .exchange byte, state => reaction ((exchange byte).run stream state [])
  | .poll, state => reaction (poll.run stream state [])
  | .pause span, state =>
    let ran := (pause span : Dialogue Stream Error Unit).run stream state []
    { reply := (), state := ran.state, journal := ran.journal }
where
  /-- What a run means to the caller. -/
  reaction {α : Type} (ran : Ran Error α τ) : Reaction τ (Except Error α) :=
    { reply := ran.result, state := ran.state, journal := ran.journal }

end DiskBridge.Remote.Client

import DiskBridge.Network
import DiskBridge.Remote.Message

/-!
# The server of a remote bridge

It owns a bus and serves one connection at a time: every request that arrives whole is carried
out and answered. A connection ends when the client goes away, when a message is too long, when
one is no request, or when a response cannot be sent. In the first two cases a transaction that
the client left open is closed.
-/

namespace DiskBridge.Remote.Server

open Dialogue Network

/-- An error of the far end, as the server reports it. -/
def serverError (message : String) (errno : Int32) : Error := .traffic (.remote message errno)

/-- How far a connection has come. -/
structure Progress where
  /-- The client has a transaction open. -/
  opened : Bool := false
  /-- What arrived and was not read yet. -/
  unread : List UInt8 := []
  /-- The responses sent, each in its frame. -/
  sent : List (List UInt8) := []
  /-- Why the connection ended, if it did. -/
  ending : Option Error := none

/-- Whether a transaction is open after a call was answered. -/
def staysOpen (opened : Bool) : (call : Bus.Call) → call.Reply → Bool
  | .begin, result => opened || result.toBool
  | .finish, _ => false
  | .exchange _, _ | .poll, _ | .pause _, _ => opened

/-- Closes a transaction that the client left open. -/
def closeAbandoned (opened : Bool) : Dialogue Bus ε Unit := do
  if opened then
    match ← Bus.finish.attempt with
    | .ok () => return
    | .error error => say .warn ("Failed to end abandoned transaction: " ++ error.message)

/-- Sends a response, its length and its body in one write each: what was sent, and what is left
of the sending side. -/
def sendResponse (outlet : Outlet) (body : List UInt8) : List UInt8 × Except Error Outlet :=
  match outlet.write with
  | .error fault => ([], .error (unsent "Failed to send message length" fault))
  | .ok outlet =>
    match outlet.write with
    | .error fault => (littleEndian 8 body.length, .error (unsent "Failed to send message" fault))
    | .ok outlet => (frame body, .ok outlet)
where
  unsent (what : String) (fault : Fault) : Error :=
    serverError (what ++ ": " ++ fault.message) fault.errno

/-- Carries out the requests among the bytes that have arrived. -/
def advance (outlet : Outlet) (opened : Bool) (bytes : List UInt8) : Dialogue Bus ε Progress :=
  match split : front bytes with
  | .incomplete => return { opened, unread := bytes }
  | .oversized length => do
    closeAbandoned opened
    let error := serverError ("Invalid request: " ++ tooLong length) Errno.invalidArgument
    return { ending := some error }
  | .whole body rest =>
    match Codec.decode Bus.Call body with
    | .error cause =>
      let error := serverError ("Failed to deserialize: " ++ cause.message) Errno.inputOutput
      return { opened, ending := some error }
    | .ok call =>
      have : rest.length < bytes.length := length_rest_lt split
      ask call fun reply => do
        let opened := staysOpen opened call reply
        match sendResponse outlet (Codec.encode (Response.ofReply call reply)) with
        | (sent, .error error) => return { opened, sent := [sent], ending := some error }
        | (sent, .ok outlet) =>
          let progress ← advance outlet opened rest
          return { progress with sent := sent :: progress.sent }
  termination_by bytes.length

/-- The end of a connection whose client went away. -/
def disconnected : Error :=
  .traffic (.remoteGone
    ("Client disconnected: error: " ++ Network.Fault.endOfStream.message
      ++ " kind: unexpected end of file") 0)

/-- Ends a connection whose client went away, unless it ended before. -/
def hangUp (progress : Progress) : Dialogue Bus ε Error := do
  match progress.ending with
  | some error => return error
  | none =>
    closeAbandoned progress.opened
    return disconnected

/-- Serves a client that sends the given bytes and goes away: the responses, and why the
connection ended. -/
def serveConnection (outlet : Outlet) (bytes : List UInt8) :
    Dialogue Bus ε (List (List UInt8) × Error) := do
  let progress ← advance outlet false bytes
  let error ← hangUp progress
  return (progress.sent, error)

/-- Whether the server goes on to the next connection. -/
def survives : Error → Bool
  | .traffic (.remoteGone ..) => true
  | _ => false

/-- Listens at an address. -/
def listen (network : Network) (address : Address) : Except Error Unit :=
  if network.listening address then
    .error (serverError ("Failed to bind server: " ++ Network.Fault.addressInUse.message)
      Errno.inputOutput)
  else .ok ()

/-! ## The server as a peer -/

/-- The value of a dialogue that cannot fail. -/
def succeeded : Except Empty α → α
  | .ok value => value

/-- A connection whose far end is served by a device. -/
structure Peer (δ : Type) where
  progress : Progress := {}
  /-- Sent by the server and not read yet. -/
  outgoing : List UInt8 := []
  device : δ

/-- A connection to a server: what is sent is served at once. -/
def peer (device : Machine Bus δ) : Machine Stream (Peer δ)
  | .send bytes, peer =>
    match peer.progress.ending with
    | some _ => { reply := .ok (), state := peer }
    | none =>
      let arrived := peer.progress.unread ++ bytes
      let ran := (advance .steady peer.progress.opened arrived).run device peer.device []
      let progress := succeeded ran.result
      { reply := .ok ()
        state :=
          { progress := { progress with sent := [] }
            outgoing := peer.outgoing ++ progress.sent.flatten
            device := ran.state } }
  | .receive count, peer =>
    if count ≤ peer.outgoing.length then
      { reply := .ok (peer.outgoing.take count)
        state := { peer with outgoing := peer.outgoing.drop count } }
    else { reply := .error .endOfStream, state := { peer with outgoing := [] } }

end DiskBridge.Remote.Server

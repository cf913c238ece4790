import DiskBridge.Remote.Server

/-!
# Scripted clients of a server

A client sends frames one by one, reading one response to each, then some raw bytes, and goes
away.
-/

namespace DiskBridge.Bench

/-- What a client sends. -/
structure Visit where
  /-- Bodies of messages. -/
  frames : List (List UInt8) := []
  /-- Bytes sent after them as they are. -/
  tail : List UInt8 := []

/-- What a client got: a response to each message, or that the server had closed, then the rest,
and with what the connection ended for the server. -/
structure Visited where
  replies : List (Option (List UInt8)) := []
  rest : List UInt8 := []
  ending : Error

namespace Visit

open Dialogue Remote

/-- Sends messages until the server closes. -/
def sendFrames (progress : Server.Progress) :
    List (List UInt8) → Dialogue Bus ε (List (Option (List UInt8)) × Server.Progress)
  | [] => return ([], progress)
  | body :: rest => do
    let next ← Server.advance .steady progress.opened (progress.unread ++ frame body)
    match next.ending with
    | some _ => return ([none], next)
    | none =>
      let (replies, progress) ← sendFrames { next with sent := [] } rest
      return (some next.sent.flatten :: replies, progress)

/-- Serves one client. -/
def serve (visit : Visit) : Dialogue Bus ε Visited := do
  let (replies, progress) ← sendFrames {} visit.frames
  let progress ← match progress.ending with
    | some _ => pure { progress with sent := [] }
    | none => Server.advance .steady progress.opened (progress.unread ++ visit.tail)
  let ending ← Server.hangUp progress
  return { replies, rest := progress.sent.flatten, ending }

/-- Serves clients one after the other, until one ends the server. -/
def serveAll : List Visit → Dialogue Bus ε (List Visited)
  | [] => return []
  | visit :: rest => do
    let visited ← visit.serve
    if Server.survives visited.ending then return visited :: (← serveAll rest)
    else
      say .error ("Hit unexpected error: " ++ visited.ending.message)
      return [visited]

/-- A client that asks for a message longer than any, which ends the server. -/
def impossible : Visit := { tail := List.replicate 8 0xff }

/-- The visits up to the first that is marked as the last, and whether there is one. -/
def untilLast : List (Visit × Bool) → List Visit × Bool
  | [] => ([], false)
  | (visit, true) :: _ => ([visit], true)
  | (visit, false) :: rest =>
    let (visits, found) := untilLast rest
    (visit :: visits, found)

/-- Serves clients until one ends the server. The marked one does; if none is marked, one more
comes that does. The result is what the clients got and how the server ended. -/
def serveToEnd (visits : List (Visit × Bool)) : Dialogue Bus ε (List Visited × Option Error) := do
  let (visits, found) := untilLast visits
  let visited ← serveAll (if found then visits else visits ++ [impossible])
  return (visited.take visits.length, visited.getLast?.map Visited.ending)

end Visit

/-! ## Scripted servers -/

/-- A server whose answers are written down beforehand: to each request some bytes, after which it
may close its side. -/
structure ScriptedPeer where
  answers : List (List UInt8 × Bool) := []
  unread : List UInt8 := []
  outgoing : List UInt8 := []
  closed : Bool := false
  /-- The requests that arrived, in their frames, the newest first. -/
  requests : List (List UInt8) := []

namespace ScriptedPeer

open Remote

/-- Takes in bytes and answers a request that has become whole. -/
def arrive (peer : ScriptedPeer) (bytes : List UInt8) : ScriptedPeer :=
  let unread := peer.unread ++ bytes
  match front unread with
  | .whole body rest =>
    let (answer, closes) := peer.answers.headD ([], false)
    { answers := peer.answers.tail
      unread := rest
      outgoing := if peer.closed then peer.outgoing else peer.outgoing ++ answer
      closed := peer.closed || closes
      requests := frame body :: peer.requests }
  | _ => { peer with unread }

def stream : Machine Stream ScriptedPeer
  | .send bytes, peer => { reply := .ok (), state := peer.arrive bytes }
  | .receive count, peer =>
    if count ≤ peer.outgoing.length then
      { reply := .ok (peer.outgoing.take count)
        state := { peer with outgoing := peer.outgoing.drop count } }
    else { reply := .error .endOfStream, state := { peer with outgoing := [] } }

end ScriptedPeer

end DiskBridge.Bench

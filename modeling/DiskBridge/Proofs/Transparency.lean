import DiskBridge.Bench.Scripted
import DiskBridge.Proofs.Bracketing
import DiskBridge.Proofs.Outcome
import DiskBridge.Proofs.Serving
import DiskBridge.Remote.Client

/-!
# A bridge is transparent

A drive that reaches a device over a bridge gets the same answers as one that has it at hand, and
the device gets the same calls.

1. One call over the bridge is one call of the device (`device_peer`): the request is framed, found
   whole by the server, decoded and carried out, and its response comes back the same way.
2. Many calls over the bridge are as many calls of the device (`answers_bridge`), as long as every
   response fits into a message, so a dialogue over the bridge is the dialogue at hand. The bytes
   that carried the calls, served as a whole, make them again (`outcome_advance_requests`).
3. The calls of a session are bracketed, so at its end no transaction is open
   (`openAfter_bracketed`), and the server finds nothing to close.

`bridge_transparent` states it for every device and every session.
-/

namespace DiskBridge.Remote

open Dialogue Network Server

variable {δ σ ε α : Type}

/-- The response to a call fits into a message. -/
def Fits (event : Event Bus) : Prop :=
  (Codec.encode (Response.ofReply event.request event.reply)).length ≤ maxMessage

instance (event : Event Bus) : Decidable (Fits event) :=
  inferInstanceAs (Decidable (_ ≤ maxMessage))

/-- A connection on which nothing is under way. -/
def resting (opened : Bool) (device : δ) : Peer δ := { progress := { opened }, device }

/-- The bytes a client has sent; the events are given the newest first. -/
def uploaded (events : List (Event Stream)) : List UInt8 :=
  events.reverse.flatMap fun event =>
    match event.request with
    | .send bytes => bytes
    | .receive _ => []

/-! ## One call -/

section Call

variable (machine : Machine Bus δ)

/-- The length of a request changes nothing yet. -/
theorem peer_send_length (opened : Bool) (device : δ) (call : Bus.Call) :
    peer machine (.send (littleEndian 8 (Codec.encode call).length)) (resting opened device) =
      { reply := .ok ()
        state :=
          { progress := { opened, unread := littleEndian 8 (Codec.encode call).length }
            device } } := by
  obtain ⟨hp, hm⟩ := length_encode_call call
  show Reaction.mk _ _ _ = _
  simp only [resting, List.nil_append, advance_incomplete (front_length hp hm), run, succeeded,
    List.flatten_nil]

/-- The body of a request has the device called and the response sent. -/
theorem peer_send_body (opened : Bool) (device : δ) (call : Bus.Call) :
    peer machine (.send (Codec.encode call))
        { progress := { opened, unread := littleEndian 8 (Codec.encode call).length }, device } =
      { reply := .ok ()
        state :=
          { progress := { opened := staysOpen opened call (machine call device).reply }
            outgoing :=
              frame (Codec.encode (Response.ofReply call (machine call device).reply))
            device := (machine call device).state } } := by
  have h := advance_call (ε := Empty) opened call []
  rw [List.append_nil, frame] at h
  show Reaction.mk _ _ _ = _
  simp only [h, run, advance_incomplete front_nil, done_bind, succeeded, List.nil_append,
    List.flatten_cons, List.flatten_nil, List.append_nil]

/-- The questions to the connection that carry one call, the newest first. -/
def carried (call : Bus.Call) (reply : call.Reply) : List (Event Stream) :=
  let response := Codec.encode (Response.ofReply call reply)
  [⟨.receive response.length, .ok response⟩, ⟨.receive 8, .ok (littleEndian 8 response.length)⟩,
    ⟨.send (Codec.encode call), .ok ()⟩,
    ⟨.send (littleEndian 8 (Codec.encode call).length), .ok ()⟩]

/-- What has arrived is received. -/
theorem run_receive (progress : Progress) (device : δ) (bytes rest : List UInt8)
    (events : List (Event Stream)) (journal : Journal) :
    (Client.receive bytes.length).run (peer machine).recorded
        ({ progress, outgoing := bytes ++ rest, device }, events) journal =
      ⟨.ok bytes, ({ progress, outgoing := rest, device },
        ⟨.receive bytes.length, .ok bytes⟩ :: events), journal⟩ := by
  have h : bytes.length ≤ (bytes ++ rest).length := by
    rw [List.length_append]
    omega
  have hr : peer machine (.receive bytes.length) { progress, outgoing := bytes ++ rest, device } =
      { reply := .ok bytes, state := { progress, outgoing := rest, device } } := by
    show (if _ then _ else _) = _
    rw [if_pos h, List.take_left, List.drop_left]
  simp only [Client.receive, run, Machine.recorded, hr, Dialogue.ofExcept, List.nil_append]

/-- A message that has arrived is received. -/
theorem run_receiveMessage (progress : Progress) (device : δ) {body : List UInt8}
    (events : List (Event Stream)) (journal : Journal) (h : body.length ≤ maxMessage) :
    Client.receiveMessage.run (peer machine).recorded
        ({ progress, outgoing := frame body, device }, events) journal =
      ⟨.ok body, ({ progress, device },
        [⟨.receive body.length, .ok body⟩, ⟨.receive 8, .ok (littleEndian 8 body.length)⟩] ++
          events), journal⟩ := by
  have hl : body.length < 256 ^ 8 := Nat.lt_of_le_of_lt h (by decide)
  have h8 := run_receive machine progress device (littleEndian 8 body.length) body events journal
  have hb := run_receive machine progress device body []
    (⟨.receive 8, .ok (littleEndian 8 body.length)⟩ :: events) journal
  rw [length_littleEndian] at h8
  rw [List.append_nil] at hb
  rw [Client.receiveMessage, frame, run_bind_ok h8]
  simp only [ofLittleEndian_littleEndian_of_lt hl, if_neg (Nat.not_lt.2 h)]
  exact hb

/-- A request is sent, and the response to it received. -/
theorem run_converse (opened : Bool) (device : δ) (call : Bus.Call) (events : List (Event Stream))
    (journal : Journal) (h : Fits ⟨call, (machine call device).reply⟩) :
    (Client.converse call).run (peer machine).recorded (resting opened device, events) journal =
      ⟨.ok (Response.ofReply call (machine call device).reply),
        (resting (staysOpen opened call (machine call device).reply) (machine call device).state,
          carried call (machine call device).reply ++ events), journal⟩ := by
  have hd := Codec.decode_encode (Nat.lt_of_le_of_lt h (show maxMessage < UInt64.size by decide))
  have hm := run_receiveMessage machine
    { opened := staysOpen opened call (machine call device).reply } (machine call device).state
    (⟨.send (Codec.encode call), .ok ()⟩ ::
      ⟨.send (littleEndian 8 (Codec.encode call).length), .ok ()⟩ :: events) journal h
  dsimp only at hd hm
  simp only [Client.converse, Client.send, ask_bind, mapFailure, Dialogue.ofExcept, done_bind, run,
    Machine.recorded, peer_send_length, peer_send_body, List.nil_append]
  rw [run_bind_ok (run_mapFailure_ok hm _), hd]
  rfl

/-- One call over the bridge is one call of the device, with the same reply. -/
theorem device_peer (opened : Bool) (device : δ) (call : Bus.Call) (events : List (Event Stream))
    (h : Fits ⟨call, (machine call device).reply⟩) :
    Client.device (peer machine).recorded call (resting opened device, events) =
      { reply := (machine call device).reply
        state :=
          (resting (staysOpen opened call (machine call device).reply) (machine call device).state,
            carried call (machine call device).reply ++ events) } := by
  have hc := run_converse machine opened device call events [] h
  cases call with
  | begin =>
    show Client.device.reaction (Client.begin.run _ _ _) = _
    rw [Client.begin, run_bind_ok hc]
    simp only [Response.ofReply, run_ofExcept, Client.device.reaction]
  | finish =>
    show Client.device.reaction (Client.finish.run _ _ _) = _
    rw [Client.finish, run_bind_ok hc]
    simp only [Response.ofReply, run_ofExcept, Client.device.reaction]
  | exchange byte =>
    show Client.device.reaction ((Client.exchange byte).run _ _ _) = _
    rw [Client.exchange, run_bind_ok hc]
    simp only [Response.ofReply, run_ofExcept, Client.device.reaction]
  | poll =>
    show Client.device.reaction (Client.poll.run _ _ _) = _
    rw [Client.poll, run_bind_ok hc]
    simp only [Response.ofReply, run_ofExcept, Client.device.reaction]
  | pause span =>
    simp only [Client.device, Client.pause, run_bind, run_attempt, hc, Response.ofReply]
    rfl

end Call

/-! ## Many calls -/

/-- Whether the server notes a transaction as open after some calls. -/
def openAfter (opened : Bool) (events : List (Event Bus)) : Bool :=
  events.foldl (fun opened event => staysOpen opened event.request event.reply) opened

/-- The requests for some calls, as they are sent. -/
def requests (events : List (Event Bus)) : List UInt8 :=
  events.flatMap fun event => frame (Codec.encode event.request)

theorem requests_cons (event : Event Bus) (events : List (Event Bus)) :
    requests (event :: events) = frame (Codec.encode event.request) ++ requests events :=
  List.flatMap_cons

/-- The responses to some calls, each in its frame. -/
def responses (events : List (Event Bus)) : List (List UInt8) :=
  events.map fun event => frame (Codec.encode (Response.ofReply event.request event.reply))

theorem uploaded_carried (call : Bus.Call) (reply : call.Reply) (traffic : List (Event Stream)) :
    uploaded (carried call reply ++ traffic) = uploaded traffic ++ frame (Codec.encode call) := by
  simp [uploaded, carried, frame]

/-- Calls over the bridge are calls of the device, with the same replies. -/
theorem answers_bridge {machine : Machine Bus δ} {state last : δ} {events : List (Event Bus)}
    (h : Answers machine state events last) (small : ∀ event ∈ events, Fits event) (opened : Bool)
    (traffic : List (Event Stream)) :
    ∃ traffic', uploaded traffic' = uploaded traffic ++ requests events ∧
      Answers (Client.device (peer machine).recorded) (resting opened state, traffic) events
        (resting (openAfter opened events) last, traffic') := by
  induction h generalizing opened traffic with
  | nil state => exact ⟨traffic, (List.append_nil _).symm, .nil _⟩
  | @cons call state last events _ ih =>
    have hd := device_peer machine opened state call traffic (small _ List.mem_cons_self)
    obtain ⟨traffic', hu, ha⟩ := ih (fun event he => small event (List.mem_cons_of_mem _ he))
      (staysOpen opened call (machine call state).reply)
      (carried call (machine call state).reply ++ traffic)
    refine ⟨traffic', ?_, ?_⟩
    · rw [hu, uploaded_carried, requests_cons, List.append_assoc]
    · exact .step hd ha

/-- A server that finds the requests for some calls carries them out, and answers each of them. -/
theorem outcome_advance_requests {machine : Machine Bus δ} {state last : δ}
    {events : List (Event Bus)} (h : Answers machine state events last) (opened : Bool) :
    (advance .steady opened (requests events) : Dialogue Bus ε Progress).outcome machine state =
      (.ok { opened := openAfter opened events, sent := responses events }, last) := by
  induction h generalizing opened with
  | nil state =>
    rw [requests, List.flatMap_nil, advance_incomplete front_nil]
    rfl
  | @cons call state last events _ ih =>
    rw [requests_cons, advance_call, outcome_ask, outcome_bind_ok (ih _)]
    rfl

/-! ## Sessions -/

theorem openAfter_append (opened : Bool) (before after : List (Event Bus)) :
    openAfter opened (before ++ after) = openAfter (openAfter opened before) after :=
  List.foldl_append

/-- What stands inside a transaction neither opens nor closes one. -/
theorem openAfter_inner {events : List (Event Bus)} (h : ∀ event ∈ events, Bus.Inner event)
    (opened : Bool) : openAfter opened events = opened := by
  induction events with
  | nil => rfl
  | cons event events ih =>
    obtain ⟨he, hr⟩ := List.forall_mem_cons.1 h
    have hs : staysOpen opened event.request event.reply = opened := by
      obtain ⟨_ | _ | _ | _ | _, reply⟩ := event
      case exchange | pause => rfl
      all_goals cases he
    show openAfter (staysOpen opened event.request event.reply) events = opened
    rw [hs]
    exact ih hr

/-- Bracketed calls leave no transaction open. -/
theorem openAfter_bracketed {events : List (Event Bus)} (h : Bus.Bracketed events) :
    openAfter false events = false := by
  induction h with
  | nil => rfl
  | pause span _ ih | poll reply _ ih | refused error _ ih => exact ih
  | @block reply body rest hi _ ih =>
    show openAfter true (body ++ _ :: rest) = false
    rw [openAfter_append, openAfter_inner hi]
    exact ih

/-- **Transparency.** Take any device, in any state, and any session on it during which every
response fits into a message. Over the bridge the session gives the same reports, and the device
gets the same calls and ends in the same state. When the client then goes away, the server says so
and makes no further call; and this is how it serves the bytes the client sent as a whole. -/
theorem bridge_transparent (machine : Machine Bus σ) (drive : Drive) (actions : List Drive.Action)
    (state : σ) (journal : Journal)
    (small : ∀ event ∈ ((drive.session actions : Dialogue Bus Empty (List Drive.Report)).run
      machine.recorded (state, []) journal).state.2, Fits event) :
    let session : Dialogue Bus Empty (List Drive.Report) := drive.session actions
    let direct := session.run machine.recorded (state, []) journal
    let remote := session.run (Client.device (peer machine.recorded).recorded)
      ({ device := (state, []) }, []) journal
    let after := (hangUp remote.state.1.progress : Dialogue Bus Empty Error).run machine.recorded
      remote.state.1.device journal
    let served := (serveConnection .steady (uploaded remote.state.2) :
      Dialogue Bus Empty (List (List UInt8) × Error)).run machine.recorded (state, []) journal
    let gone : Error := .traffic (.remoteGone
      "Client disconnected: error: failed to fill whole buffer kind: unexpected end of file" 0)
    (remote.result = direct.result ∧ remote.state.1.device = direct.state) ∧
      (after.result = .ok gone ∧ after.state = direct.state) ∧
      served.result = .ok (responses direct.state.2.reverse, gone) ∧
        served.state = direct.state := by
  intro session direct remote after served gone
  obtain ⟨events, ht, ha⟩ := transcript_run machine.recorded session (state, []) journal
  have he : direct.state.2 = events.reverse := by
    rw [ha.record, List.append_nil]
  have hs : ∀ event ∈ events, Fits event :=
    fun event h => small event (by rw [ha.record, List.append_nil]; exact List.mem_reverse.2 h)
  -- The bridge gives the answers of the device, so the session goes the same way.
  obtain ⟨traffic, hu, hb⟩ := answers_bridge ha hs false []
  obtain ⟨hr, hl⟩ := run_of_transcript ht hb journal
  have hc : openAfter false events = false := by
    obtain ⟨reports, traces, -, rfl, hd⟩ := Drive.transcript_session drive ht
    exact openAfter_bracketed (.flatten hd.bracketed)
  rw [hc] at hl
  have hp : remote.state = (resting false direct.state, traffic) := hl
  have hd : remote.state.1.device = direct.state := by
    rw [hp]
    rfl
  have hh : (hangUp remote.state.1.progress : Dialogue Bus Empty Error).outcome machine.recorded
      remote.state.1.device = (.ok gone, direct.state) := by
    rw [hp]
    rfl
  have hv : (serveConnection .steady (uploaded remote.state.2) : Dialogue Bus Empty _).outcome
      machine.recorded (state, []) = (.ok (responses events, gone), direct.state) := by
    rw [hp, hu]
    show (serveConnection .steady (requests events)).outcome _ _ = _
    rw [serveConnection, outcome_bind_ok (outcome_advance_requests ha false), hc]
    rfl
  rw [he, List.reverse_reverse]
  exact ⟨⟨hr, hd⟩, run_of_outcome hh journal, run_of_outcome hv journal⟩

/-- A session on a bus that times out at its fourth byte: the version is read, the transaction of
the read that follows is cut short. -/
theorem bridge_transparent_timeout :
    let script : Bench.Scripted :=
      { incoming := [0, 0x43], faults := [(.exchange, 3, Bench.timeout)] }
    let session : Dialogue Bus Empty (List Drive.Report) :=
      Drive.session { config := {}, patience := 2 } [.version, .read [1, 2, 3]]
    let direct := session.run Bench.Scripted.device.recorded (script, []) []
    let remote := session.run (Client.device (peer Bench.Scripted.device.recorded).recorded)
      ({ device := (script, []) }, []) []
    (∀ event ∈ direct.state.2, Fits event) ∧ remote.result = direct.result ∧
      remote.state.1.device = direct.state := by
  have small : ∀ event ∈ ((Drive.session { config := {}, patience := 2 }
      [.version, .read [1, 2, 3]] : Dialogue Bus Empty (List Drive.Report)).run
        Bench.Scripted.device.recorded
        ({ incoming := [0, 0x43], faults := [(.exchange, 3, Bench.timeout)] }, []) []).state.2,
      Fits event := by decide
  obtain ⟨⟨hr, hd⟩, -, -⟩ := bridge_transparent Bench.Scripted.device _ _ _ _ small
  exact ⟨small, hr, hd⟩

end DiskBridge.Remote

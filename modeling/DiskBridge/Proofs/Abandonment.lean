import DiskBridge.Proofs.ChipTransactions
import DiskBridge.Proofs.Serving

/-!
# Transactions that a client leaves open

A client can go away at any point of what it sends, and leave the chip in a transaction. The server
ends it when no more bytes come and when a length is above the limit. When a whole message is no
request, and when a response cannot be sent, it returns at once.

1. `requested` reads off the bytes of a client which calls they ask for, and what follows them.
2. The server's note of an open transaction is whether the chip is in one
   (`inTransaction_device`), also at the end of all that was asked for (`outcome_advance`).
3. `inTransaction_serveConnection` says for all bytes whether the chip is left in a transaction, and
   `serveConnection_garbled` that a message which is no request can leave it in one.
-/

namespace DiskBridge.Remote

open Dialogue Network Server

/-! ## What a client asks for -/

/-- What follows the requests of a client. -/
inductive Tail where
  /-- No more bytes, or the beginning of a message. -/
  | cut
  /-- A length above the limit. -/
  | oversized
  /-- A whole message that is no request. -/
  | garbled
  deriving DecidableEq

/-- The calls that bytes ask for, and what follows them. -/
def requested (bytes : List UInt8) : List Bus.Call × Tail :=
  match split : front bytes with
  | .incomplete => ([], .cut)
  | .oversized _ => ([], .oversized)
  | .whole body rest =>
    match Codec.decode Bus.Call body with
    | .error _ => ([], .garbled)
    | .ok call =>
      have : rest.length < bytes.length := length_rest_lt split
      (call :: (requested rest).1, (requested rest).2)
  termination_by bytes.length

theorem requested_cut {bytes : List UInt8} (h : front bytes = .incomplete) :
    requested bytes = ([], .cut) := by
  rw [requested]
  split
  · rfl
  · next h' => cases h.symm.trans h'
  · next h' => cases h.symm.trans h'

/-- A request in its frame asks for its call. -/
theorem requested_frame (call : Bus.Call) (rest : List UInt8) :
    requested (frame (Codec.encode call) ++ rest) =
      (call :: (requested rest).1, (requested rest).2) := by
  have h := front_frame (length_encode_call call).2 rest
  rw [requested]
  split
  · next h' => cases h.symm.trans h'
  · next h' => cases h.symm.trans h'
  · next h' =>
    cases h.symm.trans h'
    rw [decode_encode_call]

/-- Whether a transaction is open after some calls that all succeed. -/
def stillOpen (opened : Bool) : List Bus.Call → Bool
  | [] => opened
  | .begin :: rest => stillOpen true rest
  | .finish :: rest => stillOpen false rest
  | .exchange _ :: rest | .poll :: rest | .pause _ :: rest => stillOpen opened rest

/-- How many responses can be sent, if not all. Each takes two writes. -/
def capacity : Outlet → Option Nat
  | .steady => none
  | .failing writes _ => some (writes / 2)

/-- The calls carried out before a response cannot be sent. -/
def carriedOut (outlet : Outlet) (calls : List Bus.Call) : List Bus.Call :=
  match capacity outlet with
  | none => calls
  | some count => calls.take (count + 1)

/-- Whether the response to one of the calls cannot be sent. -/
def breaks (outlet : Outlet) (calls : List Bus.Call) : Bool :=
  match capacity outlet with
  | none => false
  | some count => count < calls.length

/-! ## The note of the server -/

/-- On the chip every call succeeds, and the server's note of an open transaction is right. -/
theorem inTransaction_device (call : Bus.Call) (chip : Chip) :
    (Chip.device call chip).state.inTransaction =
      staysOpen chip.inTransaction call (Chip.device call chip).reply := by
  cases call with
  | begin => exact (Bool.or_true _).symm
  | finish => exact chip.inTransaction_finish
  | exchange byte => exact Chip.inTransaction_react _ _ _ _
  | poll => exact chip.inTransaction_poll
  | pause span => rfl

theorem stillOpen_cons (opened : Bool) (call : Bus.Call) (chip : Chip) (calls : List Bus.Call) :
    stillOpen opened (call :: calls) =
      stillOpen (staysOpen opened call (Chip.device call chip).reply) calls := by
  cases call with
  | begin => exact congrArg (stillOpen · calls) (Bool.or_true opened).symm
  | finish | exchange | poll | pause => rfl

/-- A response is sent, and takes one off the capacity, or there is none left. -/
theorem sendResponse_cases (outlet : Outlet) (body : List UInt8) :
    (∃ sent error, sendResponse outlet body = (sent, .error error) ∧ capacity outlet = some 0) ∨
      ∃ sent next, sendResponse outlet body = (sent, .ok next) ∧ capacity outlet ≠ some 0 ∧
        capacity next = (capacity outlet).map (· - 1) := by
  obtain _ | ⟨_ | _ | writes, fault⟩ := outlet
  · exact .inr ⟨_, _, rfl, nofun, rfl⟩
  · exact .inl ⟨_, _, rfl, rfl⟩
  · exact .inl ⟨_, _, rfl, rfl⟩
  · refine .inr ⟨_, .failing writes fault, rfl, ?_, ?_⟩
    · rw [capacity, ne_eq, Option.some.injEq]
      omega
    · rw [capacity, capacity, Option.map_some, Option.some.injEq]
      omega

section Outlets

variable {outlet next : Outlet}

theorem carriedOut_nil (outlet : Outlet) :
    carriedOut outlet [] = [] ∧ breaks outlet [] = false := by
  rw [carriedOut, breaks]
  cases capacity outlet <;> exact ⟨rfl, rfl⟩

theorem carriedOut_last (h : capacity outlet = some 0) (call : Bus.Call) (calls : List Bus.Call) :
    carriedOut outlet (call :: calls) = [call] ∧ breaks outlet (call :: calls) = true := by
  rw [carriedOut, breaks, h]
  simp

theorem carriedOut_cons (h : capacity outlet ≠ some 0)
    (hn : capacity next = (capacity outlet).map (· - 1)) (call : Bus.Call)
    (calls : List Bus.Call) :
    carriedOut outlet (call :: calls) = call :: carriedOut next calls ∧
      breaks outlet (call :: calls) = breaks next calls := by
  rw [carriedOut, carriedOut, breaks, breaks, hn]
  revert h
  rcases capacity outlet with _ | _ | count
  · exact fun _ => ⟨rfl, rfl⟩
  · exact fun h => absurd rfl h
  · simp

end Outlets

/-! ## Serving the chip -/

/-- A transaction noted as open is ended. -/
theorem outcome_closeAbandoned {ε : Type} (chip : Chip) :
    ∃ last, (closeAbandoned chip.inTransaction : Dialogue Bus ε Unit).outcome Chip.device chip =
      (.ok (), last) ∧ last.inTransaction = false := by
  rw [closeAbandoned]
  split
  · exact ⟨chip.finish, rfl, chip.inTransaction_finish⟩
  · next h => exact ⟨chip, rfl, Bool.eq_false_iff.2 h⟩

/-- The server carries out what its client asks for, and its note of an open transaction is right
to the end. -/
theorem outcome_advance {ε : Type} (outlet : Outlet) (bytes : List UInt8) (chip : Chip) :
    ∃ progress last, (advance outlet chip.inTransaction bytes : Dialogue Bus ε Progress).outcome
        Chip.device chip = (.ok progress, last) ∧
      last.inTransaction = progress.opened ∧
      progress.opened =
        (stillOpen chip.inTransaction (carriedOut outlet (requested bytes).1) &&
          (breaks outlet (requested bytes).1 || (requested bytes).2 ≠ .oversized)) ∧
      progress.ending.isSome =
        (breaks outlet (requested bytes).1 || (requested bytes).2 ≠ .cut) := by
  fun_induction requested bytes generalizing outlet chip with
  | case1 bytes h =>
    obtain ⟨hc, hb⟩ := carriedOut_nil outlet
    rw [advance_incomplete h, hc, hb]
    exact ⟨_, chip, rfl, rfl, (Bool.and_true _).symm, rfl⟩
  | case2 bytes length h =>
    obtain ⟨hc, hb⟩ := carriedOut_nil outlet
    obtain ⟨last, hl, hi⟩ := outcome_closeAbandoned (ε := ε) chip
    rw [advance_oversized h, outcome_bind_ok hl, hc, hb]
    exact ⟨_, last, rfl, hi, (Bool.and_false _).symm, rfl⟩
  | case3 bytes body rest h cause hd =>
    obtain ⟨hc, hb⟩ := carriedOut_nil outlet
    rw [advance_garbled h hd, hc, hb]
    exact ⟨_, chip, rfl, rfl, (Bool.and_true _).symm, rfl⟩
  | case4 bytes body rest h call hd _ ih =>
    rw [advance_request h hd, outcome_ask, ← inTransaction_device]
    rcases sendResponse_cases outlet (Codec.encode (Response.ofReply call
      (Chip.device call chip).reply)) with ⟨sent, error, hs, h0⟩ | ⟨sent, next, hs, h0, hn⟩
    · obtain ⟨hl, hb⟩ := carriedOut_last h0 call (requested rest).1
      rw [hs, hl, hb, stillOpen_cons _ _ chip, ← inTransaction_device]
      exact ⟨_, _, rfl, rfl, (Bool.and_true _).symm, rfl⟩
    · obtain ⟨progress, last, ho, hp⟩ := ih next (Chip.device call chip).state
      obtain ⟨hl, hb⟩ := carriedOut_cons h0 hn call (requested rest).1
      rw [hs, hl, hb, stillOpen_cons _ _ chip, ← inTransaction_device]
      exact ⟨{ progress with sent := sent :: progress.sent }, last, outcome_bind_ok ho, hp⟩

theorem outcome_hangUp {ε : Type} (progress : Progress) (chip : Chip)
    (h : chip.inTransaction = progress.opened) :
    ∃ error last, (hangUp progress : Dialogue Bus ε Error).outcome Chip.device chip =
        (.ok error, last) ∧
      last.inTransaction = (progress.opened && progress.ending.isSome) := by
  rw [hangUp]
  cases progress.ending with
  | some error => exact ⟨error, chip, rfl, h.trans (Bool.and_true _).symm⟩
  | none =>
    obtain ⟨last, hl, hi⟩ := outcome_closeAbandoned (ε := ε) chip
    rw [h] at hl
    exact ⟨disconnected, last, outcome_bind_ok hl, hi.trans (Bool.and_false _).symm⟩

/-- **Abandoned transactions.** Whatever bytes a client sends, the server returns. It leaves the
chip in a transaction exactly when the calls it carried out leave one open and the connection ended
by a response that could not be sent or by a message that is no request. -/
theorem inTransaction_serveConnection (outlet : Outlet) (bytes : List UInt8) (chip : Chip)
    (journal : Journal) (h : chip.inTransaction = false) :
    let ran := (serveConnection outlet bytes :
      Dialogue Bus Empty (List (List UInt8) × Error)).run Chip.device chip journal
    (∃ answer, ran.result = .ok answer) ∧
      ran.state.inTransaction =
        (stillOpen false (carriedOut outlet (requested bytes).1) &&
          (breaks outlet (requested bytes).1 || (requested bytes).2 = .garbled)) := by
  intro ran
  obtain ⟨progress, middle, ha, hm, ho, he⟩ := outcome_advance (ε := Empty) outlet bytes chip
  obtain ⟨error, last, hh, hl⟩ := outcome_hangUp (ε := Empty) progress middle hm
  rw [h] at ha ho
  have hs : (serveConnection outlet bytes : Dialogue Bus Empty _).outcome Chip.device chip =
      (.ok (progress.sent, error), last) := by
    rw [serveConnection, outcome_bind_ok ha, outcome_bind_ok hh]
    rfl
  obtain ⟨hr, hs⟩ := run_of_outcome hs journal
  refine ⟨⟨_, hr⟩, ?_⟩
  rw [hs, hl, ho, he]
  cases (requested bytes).2 <;> simp

/-- A client that begins a transaction and goes away within its next message: the transaction is
ended. -/
theorem inTransaction_serveConnection_cut :
    (default : Chip).inTransaction = false ∧
      ((serveConnection .steady (frame (Codec.encode Bus.Call.begin) ++ [5, 0, 0]) :
        Dialogue Bus Empty (List (List UInt8) × Error)).run Chip.device default
          []).state.inTransaction = false := by
  obtain ⟨-, hi⟩ := inTransaction_serveConnection .steady
    (frame (Codec.encode Bus.Call.begin) ++ [5, 0, 0]) default [] rfl
  rw [requested_frame, requested_cut rfl] at hi
  exact ⟨rfl, hi⟩

/-- A client that begins a transaction and sends a message of an unknown kind: the chip stays in the
transaction. -/
theorem serveConnection_garbled :
    (default : Chip).inTransaction = false ∧
      ((serveConnection .steady (frame (Codec.encode Bus.Call.begin) ++ frame [9, 0, 0, 0]) :
        Dialogue Bus Empty (List (List UInt8) × Error)).run Chip.device default
          []).state.inTransaction = true := by
  have hf : front (frame [9, 0, 0, 0]) = .whole [9, 0, 0, 0] [] := rfl
  have hd : Codec.decode Bus.Call [9, 0, 0, 0] = .error (.badVariant 9 5) := rfl
  rw [serveConnection, advance_call]
  simp only [advance_garbled hf hd]
  exact ⟨rfl, rfl⟩

end DiskBridge.Remote

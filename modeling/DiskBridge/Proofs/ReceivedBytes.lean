import DiskBridge.Proofs.ChunkTraffic
import DiskBridge.Proofs.FailStop

/-!
# What arrives in a buffer

A read puts into its buffer the bytes that the chip sends in chunks, as they come. Whatever the chip
announces, and wherever a call fails, the buffer ends up with exactly the bytes that arrived, in
front of what it held before.

1. A chunk is received byte by byte, and what had arrived is kept if it is cut
   (`held_receiveChunk`).
2. So a transaction that reads a chunk conveys it (`conveying_readChunk`), and chunks in sequence
   convey the bytes of a read (`conveying_readChunks`, `conveying_read`).

`read_keeps_received` states it for every read on every device.
-/

namespace DiskBridge

open Dialogue

namespace Drive

open Bus

/-- The bytes of a read: those of its value, or those that had arrived when it was cut. -/
def held {α : Type} (value : α → List UInt8) : Except Cut α → List UInt8
  | .ok result => value result
  | .error cut => cut.received

theorem held_receiveChunk {count : Nat} {received : List UInt8} {events : List (Event Bus)}
    {result : Except Cut (List UInt8)}
    (h : Transcript (receiveChunk count received) events result) :
    held id result = received ++ (events.filterMap exchanged?).map Prod.snd ∧
      (events.filterMap exchanged?).length ≤ count ∧
      (ended Cut.stop result = none → (events.filterMap exchanged?).length = count) := by
  induction count generalizing received events with
  | zero =>
    cases h
    exact ⟨(List.append_nil _).symm, Nat.le_refl _, fun _ => rfl⟩
  | succ count ih =>
    rcases transcript_bind h with ⟨cut, rfl, hf⟩ | ⟨byte, before, after, rfl, hf, ha⟩
    · obtain ⟨reply, hr, he⟩ := transcript_mapFailure hf
      cases reply with
      | ok byte => cases hr
      | error error =>
        cases hr
        cases transcript_exchange he
        exact ⟨(List.append_nil _).symm, Nat.zero_le _, nofun⟩
    · obtain ⟨reply, hr, he⟩ := transcript_mapFailure hf
      cases reply with
      | error error => cases hr
      | ok reply =>
        cases hr
        cases transcript_exchange he
        obtain ⟨hh, hl, hw⟩ := ih ha
        refine ⟨?_, Nat.succ_le_succ hl, fun hn => congrArg _ (hw hn)⟩
        rw [hh, List.append_assoc]
        rfl

/-- What stands in the transaction that reads a chunk. -/
def takeIn (room : Nat) : Dialogue Bus Cut (List UInt8) := do
  (Bus.send [Command.readBuffer.opcode]).mapFailure fun error => ⟨[], .error error⟩
  let length := (← Bus.receive.mapFailure fun error => ⟨[], .error error⟩).toNat
  if room < length then
    say .error ("Error while reading data: chip offered " ++ toString length ++ " bytes, "
      ++ toString room ++ " remaining")
    failed ⟨[], .error (overrun length room)⟩
  else receiveChunk length []

theorem readChunk_eq (room : Nat) :
    readChunk room = (do
      let chunk ← bracket (fun error => ⟨[], .error error⟩)
        (fun chunk error => ⟨chunk, .error error⟩) (takeIn room)
      say .trace ("Read chunk of " ++ toString chunk.length ++ " bytes")
      return chunk) := rfl

theorem confined_takeIn (room : Nat) : Confined (takeIn room) := by
  refine ((confined_send _).mapFailure _).bind inner fun _ => ?_
  refine ((confined_exchange _).mapFailure _).bind inner fun length => ?_
  dsimp only
  split
  · exact (always_say inner _ _).bind inner fun _ => always_failed inner _
  · exact confined_receiveChunk _ _

/-- The chunks hold the bytes of a read that goes on after `received`. -/
def Holds {α : Type} (received : List UInt8) (value : α → List UInt8) (result : Except Cut α)
    (parcels : List Parcel) : Prop :=
  held value result = received ++ cargo parcels

theorem conveys_takeIn {room : Nat} {inside : List (Event Bus)} {result : Except Cut (List UInt8)}
    (h : Transcript (takeIn room) inside result) (hc : Calm inside) :
    Conveys .readBuffer Prod.snd room [inside.filterMap exchanged?] (ended Cut.stop result) ∧
      Holds [] id result ([inside.filterMap exchanged?].filterMap fetched?) ∧
      ∀ chunk, result = .ok chunk →
        ([inside.filterMap exchanged?].filterMap fetched?).length = 1 := by
  refine conveys_chunk (P := fun result parcels => Holds [] id result parcels ∧
    ∀ chunk, result = .ok chunk → parcels.length = 1)
    (asks_send _).mapFailure (asks_exchange _).mapFailure (fun _ => rfl) ?_ ?_ h hc
  · exact fun error => ⟨rfl, nofun⟩
  intro announced rest result ht hc
  dsimp only at ht
  split at ht
  · next hr =>
    obtain _ | _ | ⟨⟨⟩⟩ := ht
    exact ⟨.refused hr rfl rfl rfl, rfl, nofun⟩
  · next hr =>
    obtain ⟨hh, hl, hw⟩ := held_receiveChunk ht
    refine ⟨.accepted (Nat.not_lt.1 hr) ?_ ?_ fun _ => ?_, ?_, fun _ _ => rfl⟩
    · rwa [List.length_map]
    · rintro (hn | hn)
      · exact (hn rfl).elim
      · rw [List.length_map, hw hn]
    · exact (plain_receiveChunk _ _ _ _ ht).ordinary hc
    · rw [Holds, hh, cargo, List.flatMap_singleton]

theorem conveying_readChunk (room : Nat) :
    Conveying .readBuffer Prod.snd Cut.stop room (fun result parcels =>
      Holds [] id result parcels ∧ ∀ chunk, result = .ok chunk → parcels.length = 1)
      (readChunk room) := by
  rw [readChunk_eq]
  refine Conveying.bind (P := fun result parcels => Holds [] id result parcels ∧
    ∀ chunk, result = .ok chunk → parcels.length = 1) ?_ (fun cut parcels h => ⟨h.1, nofun⟩)
    fun chunk parcels h => conveying_say_bind (conveying_done ?_)
  · exact conveying_bracket (confined_takeIn room) (fun _ => rfl) (fun _ _ => rfl)
      (fun inside result => conveys_takeIn) (fun _ => ⟨rfl, nofun⟩)
      fun chunk error parcels h => ⟨h.1, nofun⟩
  · rw [List.append_nil]
    exact ⟨h.1, fun _ _ => h.2 chunk rfl⟩

/-- What moves no chunk leaves what has arrived. -/
theorem conveying_interlude {α : Type} {operation : Operation α} (h : Concludes id Idle operation)
    (room : Nat) (received : List UInt8) :
    Conveying .readBuffer Prod.snd Cut.stop room (fun result parcels =>
      parcels = [] ∧ Holds received (fun _ => received) result [])
      (operation.mapFailure (Cut.mk received)) := by
  refine (conveying_of_idle (.inl rfl) h).mapFailure (fun _ => rfl) fun result parcels h => ?_
  refine ⟨h, ?_⟩
  cases result <;> exact (List.append_nil received).symm

/-- Chunks append what arrives to what is there, and are counted. -/
theorem conveying_readChunks (drive : Drive) (size rounds : Nat) (received : List UInt8)
    (chunks : Nat) :
    Conveying .readBuffer Prod.snd Cut.stop (size - received.length) (fun result parcels =>
      Holds received Prod.fst result parcels ∧
        ∀ total, result = .ok total → total.2 = chunks + parcels.length)
      (drive.readChunks size rounds received chunks) := by
  induction rounds generalizing received chunks with
  | zero => exact conveying_failed nofun ⟨(List.append_nil _).symm, nofun⟩
  | succ rounds ih =>
    refine Conveying.bind (P := fun result parcels =>
      Holds received (received ++ ·) result parcels ∧
        ∀ chunk, result = .ok chunk → parcels.length = 1) ?_ (fun cut parcels h => ⟨h.1, nofun⟩) ?_
    · refine (conveying_readChunk _).mapFailure (fun _ => rfl) fun result parcels h => ?_
      cases result with
      | ok chunk => exact ⟨congrArg _ h.1, fun _ _ => h.2 chunk rfl⟩
      | error cut => exact ⟨congrArg _ h.1, nofun⟩
    · intro chunk parcels h
      obtain rfl : chunk = cargo parcels := List.append_cancel_left h.1
      have hl : parcels.length = 1 := h.2 _ rfl
      rw [Nat.sub_sub, ← List.length_append]
      have hi : Concludes id Idle (sendCommand .readMore [] >>= fun _ => drive.status) :=
        (concludes_sendCommand idles (by decide) []).bind idles.toSequential fun _ =>
          concludes_status idles drive
      refine (conveying_interlude hi _ (received ++ cargo parcels)).bind ?_ ?_
      · rintro cut _ ⟨rfl, hh⟩
        rw [List.append_nil]
        exact ⟨hh.trans (List.append_nil _), nofun⟩
      rintro status _ ⟨rfl, -⟩
      -- The chunks from here on come after those already counted.
      refine Conveying.imp (P := fun result more =>
        Holds (received ++ cargo parcels) Prod.fst result more ∧
          ∀ total, result = .ok total → total.2 = chunks + 1 + more.length) ?_ ?_
      · show Conveying _ _ _ (size - (received ++ cargo parcels).length) _ _
        split
        · exact conveying_done ⟨(List.append_nil _).symm, fun total h => by cases h; rfl⟩
        · exact ih _ _
        · exact conveying_say_bind (conveying_failed nofun ⟨(List.append_nil _).symm, nofun⟩)
      · rintro result more ⟨hh, ht⟩
        rw [List.nil_append, Holds, cargo_append, ← List.append_assoc, List.length_append, hl,
          ← Nat.add_assoc]
        exact ⟨hh, ht⟩

/-- No chunk moves before the chip has said that there is something to read. -/
theorem concludes_startRead (drive : Drive) (size : Nat) :
    Concludes id Idle (do
      checkSize size
      let status ← drive.commandStatus .read (littleEndian 2 size)
      expectStatus .read status .readPending) := by
  refine (concludes_checkSize idles size).bind idles.toSequential fun _ => ?_
  refine (concludes_commandStatus idles drive (by decide) _).bind idles.toSequential fun _ => ?_
  exact concludes_expectStatus idles _ _ _

theorem conveying_read (drive : Drive) (size : Nat) :
    Conveying .readBuffer Prod.snd Cut.stop size (Holds [] id) (drive.read size) := by
  refine conveying_say_bind ?_
  split
  · exact conveying_say_bind (conveying_done rfl)
  · refine (conveying_interlude (concludes_startRead drive size) _ []).bind ?_ ?_
    · rintro cut _ ⟨rfl, hh⟩
      exact hh
    rintro _ _ ⟨rfl, -⟩
    refine (conveying_readChunks drive size drive.patience [] 0).bind (fun cut parcels h => h.1) ?_
    rintro ⟨bytes, chunks⟩ parcels ⟨hh, -⟩
    have hd : Conveying .readBuffer Prod.snd Cut.stop (size - (cargo parcels).length)
        (fun result more => Holds [] id result (parcels ++ more)) (done bytes) := by
      refine conveying_done ?_
      rw [List.append_nil]
      exact hh
    -- What is left to do is to say how it went.
    dsimp only
    split
    · exact conveying_say_bind (conveying_say_bind hd)
    · exact conveying_say_bind hd

/-- What a read into a buffer reports of the read. -/
theorem transcript_readInto {ε : Type} {drive : Drive} {buffer : List UInt8}
    {events : List (Event Bus)} {result : Except ε Report}
    (h : Transcript (drive.readInto buffer) events result) :
    ∃ ending report, Transcript (drive.read buffer.length) events ending ∧ result = .ok report ∧
      ended id report.result = ended Cut.stop ending ∧
      report.buffer = overlay (held id ending) buffer ∧
      ∀ value, report.result = .ok value → value = .count (held id ending).length := by
  obtain ⟨ending, before, after, rfl, ho, hd⟩ := transcript_attempt_bind h
  cases ending with
  | ok received =>
    cases hd
    rw [List.append_nil]
    exact ⟨.ok received, _, ho, rfl, rfl, rfl, fun value h => (Except.ok.inj h).symm⟩
  | error cut =>
    cases hd
    rw [List.append_nil]
    exact ⟨.error cut, _, ho, rfl, rfl, rfl, nofun⟩

/-- **Received bytes.** On every device whose calls do not fail by the fault of a chunk, a read
leaves in its buffer the bytes that it received, in order, before the rest of what the buffer held,
however it ends. They fit, and a read that succeeds counts them. It ends by a chunk exactly if that
chunk is larger than what was left then, and reports both sizes. Every chunk is put where there is
room for all of it, or else is the last and none of its bytes is read. -/
theorem read_keeps_received {σ : Type} (machine : Machine Bus σ) (drive : Drive)
    (buffer : List UInt8) (state : σ) (journal : Journal) :
    let ran := (drive.perform (.read buffer) : Dialogue Bus Empty Report).run machine.recorded
      (state, []) journal
    let made := transactions ran.state.2.reverse
    let received := cargo (made.filterMap fetched?)
    Calm ran.state.2.reverse → ∃ report, ran.result = .ok report ∧
      received.length ≤ buffer.length ∧
      report.buffer = received ++ buffer.drop received.length ∧
      (∀ value, report.result = .ok value → value = .count received.length) ∧
      (∀ offered remaining,
        report.result = .error (.error (.stream (.chunkOverrun offered remaining))) ↔
          ∃ before block after parcel, made = before ++ block :: after ∧
            fetched? block = some parcel ∧
            buffer.length - (cargo (before.filterMap fetched?)).length < parcel.announced.toNat ∧
            offered.toNat = parcel.announced.toNat ∧
            remaining.toNat = buffer.length - (cargo (before.filterMap fetched?)).length) ∧
      ∀ before block after parcel, made = before ++ block :: after →
        fetched? block = some parcel →
        (cargo (before.filterMap fetched?)).length ≤ buffer.length ∧
        if (cargo (before.filterMap fetched?)).length + parcel.announced.toNat ≤ buffer.length then
          parcel.moved.length ≤ parcel.announced.toNat ∧
            (after ≠ [] → parcel.moved.length = parcel.announced.toNat)
        else parcel.moved = [] ∧ after = [] := by
  intro ran made received hc
  have ht : Transcript (drive.readInto buffer) ran.state.2.reverse ran.result :=
    (transcript_recorded machine (drive.perform (.read buffer)) state journal).1
  obtain ⟨ending, report, hd, hr, he, hb, hn⟩ := transcript_readInto ht
  obtain ⟨-, hv, hh⟩ := conveying_read drive buffer.length _ _ hd hc
  rw [Holds, List.nil_append] at hh
  rw [hh] at hb hn
  rw [← he] at hv
  refine ⟨report, hr, hv.length_le, hb, hn, fun offered remaining => ?_, ?_⟩
  · rw [← ended_eq_some_iff]
    exact hv.overrun_iff offered remaining
  · intro before block after parcel hs hp
    rw [show transactions _ = _ from hs] at hv
    obtain ⟨hg, hh⟩ := hv.handled hp
    change (cargo (before.filterMap fetched?)).length ≤ buffer.length at hg
    change Handled (buffer.length - (cargo (before.filterMap fetched?)).length) _ _ _ at hh
    refine ⟨hg, ?_⟩
    cases hh with
    | accepted hl hm hw _ =>
      rw [if_pos (by omega)]
      exact ⟨hm, fun ha => hw (.inl ha)⟩
    | refused hl hm ha _ =>
      rw [if_neg (by omega)]
      exact ⟨hm, ha⟩

/-- A device that offers a chunk of two bytes and then one of three, whose transaction cannot be
ended. -/
def overrunning : Bench.Scripted where
  incoming := [0x00, 0x00, 0x00, 0x00, 0x1d, 0x00, 0x02, 0x11, 0x22, 0x00, 0x00, 0x1d, 0x00, 0x03]
  faults := [(.finish, 5, Bench.timeout)]

/-- Two bytes arrive in a buffer of four, and the next three do not fit. -/
theorem read_keeps_received_overrun :
    ∃ ran, ran = ((Drive.mk { statusMode := .poll } 2).perform (.read [0xaa, 0xaa, 0xaa, 0xaa]) :
        Dialogue Bus Empty Report).run Bench.Scripted.device.recorded (overrunning, []) [] ∧
      Calm ran.state.2.reverse ∧ ∃ report, ran.result = .ok report ∧
        report.buffer = [0x11, 0x22, 0xaa, 0xaa] ∧
        report.result = .error (.error (.stream (.chunkOverrun 3 2))) := by
  have hc : Calm (((Drive.mk { statusMode := .poll } 2).perform (.read [0xaa, 0xaa, 0xaa, 0xaa]) :
      Dialogue Bus Empty Report).run Bench.Scripted.device.recorded
        (overrunning, []) []).state.2.reverse := by
    decide +kernel
  obtain ⟨report, hr, -, hb, -, ho, -⟩ := read_keeps_received _ _ _ _ _ hc
  refine ⟨_, rfl, hc, report, hr, hb, (ho 3 2).2 ?_⟩
  let pending : Block := [(0x22, 0x00), (0x00, 0x1d)]
  let filled : Block := [(0x27, 0x00), (0x00, 0x02), (0x00, 0x11), (0x00, 0x22)]
  exact ⟨[[(0x3a, 0x00), (0x04, 0x00), (0x00, 0x00)], pending, filled, [(0x3b, 0x00)], pending],
    [(0x27, 0x00), (0x00, 0x03)], [], ⟨3, []⟩, rfl, rfl, by decide, rfl, rfl⟩

end Drive

end DiskBridge

import DiskBridge.Proofs.ChunkTraffic
import DiskBridge.Proofs.FailStop
import DiskBridge.Proofs.Uploads

/-!
# What is sent of some data

A write announces how much there is, and then the chip asks for it in chunks. Whatever it asks for,
and wherever a call fails, the bytes that it is handed are the front of the data, once and in order.

1. A command goes out in one transaction, or a call fails and at most the front of it does
   (`opens_transaction`).
2. A transaction that hands over a chunk conveys the front of what is left (`conveying_writeChunk`),
   and chunks in sequence convey the front of the data (`conveying_writeChunks`, `conveying_write`).

`write_sends_front` states it for every write on every device.
-/

namespace DiskBridge

open Dialogue

namespace Bus

/-- What goes through of some bytes that are sent: all of them, unless an exchange fails. -/
theorem front_exchanged {bytes : List UInt8} {events : List (Event Bus)}
    {result : Except Error Unit} (h : Transcript (send bytes) events result) :
    Front bytes (fun count => result = .ok () → count = bytes.length)
      ((events.filterMap exchanged?).map Prod.fst) := by
  induction bytes generalizing events with
  | nil =>
    cases h
    exact front_nil fun _ => rfl
  | cons byte rest ih =>
    rcases transcript_bind h with ⟨error, rfl, hf⟩ | ⟨reply, before, after, rfl, hf, hr⟩
    · rw [transcript_exchange hf]
      exact front_nil nofun
    · rw [transcript_exchange hf]
      obtain ⟨count, hc, he, hv⟩ := ih hr
      refine ⟨count + 1, Nat.succ_le_succ hc, congrArg (byte :: ·) he, fun h => ?_⟩
      rw [hv h, List.length_cons]

/-- The first transaction sends some bytes, or a call fails in it and at most the front of them goes
through. -/
def Opens (bytes : List UInt8) (events : List (Event Bus)) (ending : Option Stop) : Prop :=
  (∃ before after block, events = before ++ after ∧ Bracketed before ∧
      transactions before = [block] ∧ block.map Prod.fst = bytes) ∨
    (ending ≠ none ∧ (∃ event ∈ events, ¬Granted event) ∧ (transactions events).length ≤ 1 ∧
      ∀ block ∈ transactions events, block.map Prod.fst <+: bytes)

theorem opens_transaction (bytes : List UInt8) :
    Concludes id (Opens bytes) (transaction (send bytes)) := by
  intro events result ht
  unfold transaction at ht
  obtain ⟨ending, rfl, hb⟩ := transcript_mapFailure ht
  rcases transcript_bracket hb with
    ⟨error, rfl, rfl⟩ | ⟨inside, reply, rfl, ⟨value, hi, rfl⟩ | ⟨cause, hi, rfl⟩⟩
  · exact .inr ⟨nofun, ⟨_, List.mem_cons_self, not_granted rfl⟩, Nat.zero_le _, nofun⟩
  · have hc := confined_send _ _ _ hi
    obtain ⟨count, -, he, hv⟩ := front_exchanged hi
    rw [hv rfl, List.take_length] at he
    exact .inl ⟨_, [], _, (List.append_nil _).symm, .block reply hc .nil,
      transactions_block hc reply, he⟩
  · have hc := confined_send _ _ _ hi
    obtain ⟨count, -, he, -⟩ := front_exchanged hi
    have hp := plain_send bytes _ _ hi
    generalize hs : ended Stop.error (.error cause : Except Error Unit) = stop at hp
    cases hp with
    | whole => cases hs
    | @refused before byte error _ =>
      refine .inr ⟨nofun, ⟨⟨.exchange byte, .error error⟩, by simp, not_granted rfl⟩, ?_⟩
      rw [transactions_block hc, List.forall_mem_singleton, he]
      exact ⟨Nat.le_refl _, List.take_prefix _ _⟩

theorem opens_bind {α β : Type} {bytes : List UInt8} {first : Operation α}
    {next : α → Operation β} (h : Concludes id (Opens bytes) first) :
    Concludes id (Opens bytes) (first >>= next) := by
  intro events result ht
  rcases transcript_bind ht with ⟨stop, rfl, hf⟩ | ⟨value, before, after, rfl, hf, -⟩
  · exact h _ _ hf
  · obtain ⟨earlier, later, block, rfl, ho⟩ | ⟨hn, -⟩ := h _ _ hf
    · exact .inl ⟨earlier, later ++ after, block, List.append_assoc _ _ _, ho⟩
    · exact (hn rfl).elim

end Bus

namespace Drive

open Bus

theorem conveys_handOver {data : List UInt8} {inside : List (Event Bus)} {result : Except Error Nat}
    (h : Transcript (handOver data) inside result) (hc : Calm inside) :
    Conveys .writeBuffer Prod.fst data.length [inside.filterMap exchanged?]
        (ended .error result) ∧
      Counted data result (cargo ([inside.filterMap exchanged?].filterMap handed?)) := by
  refine conveys_chunk (P := fun result parcels => Counted data result (cargo parcels))
    (asks_send _) (asks_exchange _) (fun _ => rfl) (fun _ => front_nil (by rintro _ ⟨⟩)) ?_ h hc
  intro announced rest result ht hc
  have hp : Concludes Stop.error Plain (send (data.take announced.toNat) >>= fun _ =>
      (done announced.toNat : Dialogue Bus Error Nat)) :=
    (plain_send _).bind plain fun _ => concludes_done plain _
  dsimp only at ht
  split at ht
  · next hr =>
    obtain _ | _ | ⟨⟨⟩⟩ := ht
    exact ⟨.refused hr rfl rfl rfl, front_nil (by rintro _ ⟨⟩)⟩
  · next hr =>
    have hl : (data.take announced.toNat).length = announced.toNat :=
      List.length_take_of_le (Nat.not_lt.1 hr)
    have ho := (hp _ _ ht).ordinary hc
    rw [cargo, List.flatMap_singleton]
    rcases transcript_bind ht with ⟨error, rfl, hs⟩ | ⟨_, before, after, rfl, hs, hd⟩
    · obtain ⟨count, hc, he, -⟩ := front_exchanged hs
      rw [hl] at hc
      rw [he, List.take_take, Nat.min_eq_left hc]
      refine ⟨.accepted (Nat.not_lt.1 hr) ?_ ?_ fun _ => ho, count, by omega, rfl, by rintro _ ⟨⟩⟩
      · exact Nat.le_trans (List.length_take_le count data) hc
      · rintro (hn | hn)
        · exact (hn rfl).elim
        · cases hn
    · cases hd
      obtain ⟨count, hc, he, hv⟩ := front_exchanged hs
      rw [hv rfl, List.take_length] at he
      rw [List.append_nil, he]
      refine ⟨.accepted (Nat.not_lt.1 hr) (Nat.le_of_eq hl) (fun _ => hl) fun _ => ho,
        announced.toNat, Nat.not_lt.1 hr, rfl, fun number h => (Except.ok.inj h).symm⟩

theorem conveying_writeChunk (data : List UInt8) :
    Conveying .writeBuffer Prod.fst id data.length (fun result parcels =>
      Counted data result (cargo parcels)) (writeChunk data) := by
  have hb : Conveying .writeBuffer Prod.fst Stop.error data.length (fun result parcels =>
      Counted data result (cargo parcels)) (bracket id (fun _ => id) (handOver data)) :=
    conveying_bracket (confined_handOver data) (fun _ => rfl) (fun _ _ => rfl)
      (fun inside result => conveys_handOver) (fun _ => front_nil nofun)
      fun length error parcels h => h.failed error
  have ht : Conveying .writeBuffer Prod.fst id data.length (fun result parcels =>
      Counted data result (cargo parcels)) (transaction (handOver data)) := by
    unfold transaction
    exact hb.mapFailure (fun _ => rfl) fun result parcels h => h.mapError _
  rw [writeChunk_eq]
  refine ht.bind (fun stop parcels h => h.failed stop) fun length parcels h => ?_
  refine conveying_say_bind (conveying_done ?_)
  rw [List.append_nil]
  exact h

/-- Chunks hand over the data, each from where the one before ended. -/
theorem conveying_writeChunks (drive : Drive) (rounds : Nat) (data : List UInt8)
    (written chunks : Nat) :
    Conveying .writeBuffer Prod.fst id data.length (fun result parcels =>
      Totalled data written result (cargo parcels))
      (drive.writeChunks rounds data written chunks) := by
  have hm : MovesChunk Command.writeBuffer.opcode := .inr rfl
  induction rounds generalizing data written chunks with
  | zero => exact conveying_failed nofun (front_nil nofun)
  | succ rounds ih =>
    refine (conveying_writeChunk data).bind (fun stop parcels h => Front.imp h fun _ _ => nofun)
      fun length parcels h => ?_
    have hl : data.length - (cargo parcels).length = (data.drop length).length := by
      obtain ⟨count, hc, hs, hn⟩ := h
      rw [hs, hn length rfl, List.length_take_of_le hc, List.length_drop]
    rw [hl]
    refine Conveying.imp (P := fun result more =>
      Totalled (data.drop length) (written + length) result (cargo more)) ?_ ?_
    · refine Conveying.after hm (concludes_sendCommand idles (by decide) [])
        (fun _ => front_nil nofun) fun _ => ?_
      refine Conveying.after hm (concludes_status idles drive)
        (fun _ => front_nil nofun) fun status => ?_
      split
      · refine conveying_done (front_nil fun total h => ?_)
        cases h
        rfl
      · exact ih _ _ _
      · exact conveying_say_bind (conveying_failed nofun (front_nil nofun))
    · intro result more hm
      rw [cargo_append]
      exact hm.after h

theorem conveying_write (drive : Drive) (data : List UInt8) :
    Conveying .writeBuffer Prod.fst id data.length (fun result parcels =>
      Counted data result (cargo parcels)) (drive.write data) := by
  have hm : MovesChunk Command.writeBuffer.opcode := .inr rfl
  refine conveying_say_bind ?_
  split
  · refine conveying_say_bind (conveying_done (front_nil fun number h => ?_))
    exact (Except.ok.inj h).symm
  · refine Conveying.after hm (concludes_checkSize idles _) (fun _ => front_nil nofun) fun _ => ?_
    refine Conveying.after hm (concludes_commandStatus idles drive (by decide) _)
      (fun _ => front_nil nofun) fun status => ?_
    refine Conveying.after hm (concludes_expectStatus idles _ _ _)
      (fun _ => front_nil nofun) fun _ => ?_
    refine (conveying_writeChunks drive _ data 0 0).bind
      (fun stop parcels h => Front.imp h fun _ _ => nofun) fun total parcels h => ?_
    have hd : Conveying .writeBuffer Prod.fst id (data.length - (cargo parcels).length)
        (fun result more => Counted data result (cargo (parcels ++ more))) (done total.1) := by
      refine conveying_done ?_
      rw [List.append_nil]
      exact h.counted
    -- What is left to do is to say how it went.
    dsimp only
    split
    · exact conveying_say_bind (conveying_say_bind hd)
    · exact conveying_say_bind hd

/-- The bytes of the command that opens a write of `size` bytes. -/
def opening (size : Nat) : List UInt8 := [0x3c, UInt8.ofNat (size % 256), UInt8.ofNat (size / 256)]

theorem opening_eq (size : Nat) : opening size = Command.write.opcode :: littleEndian 2 size := by
  have hl : UInt8.ofNat (size % 256) = UInt8.ofNat size := by
    rw [← UInt8.toNat_inj, UInt8.toNat_ofNat', UInt8.toNat_ofNat', Nat.mod_mod]
  rw [opening, hl]
  rfl

/-- A write begins with its opening. -/
theorem opens_write (drive : Drive) {data : List UInt8} (hn : 0 < data.length)
    (hl : data.length ≤ Command.maxTransfer) :
    Concludes id (Opens (opening data.length)) (drive.write data) := by
  have hc : checkSize data.length = done () := if_neg (Nat.not_lt.2 hl)
  rw [opening_eq]
  refine concludes_say_bind ?_
  rw [if_neg (Nat.ne_of_gt hn), hc, done_bind]
  refine opens_bind (opens_bind ?_)
  exact concludes_say_bind (opens_transaction _)

/-- **Sent bytes.** On every device whose calls do not fail by the fault of a chunk, a write first
sends how much data there is, unless a call fails before that is through. The bytes that it hands
over are the front of the data, also with the one whose exchange failed. A write that succeeds
returns how many there are, which is how many the chip asked for. It ends by a chunk exactly if that
chunk is larger than what was left then, and reports both sizes. Every chunk is handed over whole if
a transaction follows it, and none of it is if it is too large. -/
theorem write_sends_front {σ : Type} (machine : Machine Bus σ) (drive : Drive) (data : List UInt8)
    (state : σ) (journal : Journal) (hn : 0 < data.length)
    (hl : data.length ≤ Command.maxTransfer) :
    let ran := (drive.write data).run machine.recorded (state, []) journal
    let events := ran.state.2.reverse
    let made := transactions events
    let parcels := made.filterMap handed?
    Calm events →
      ((∃ first rest, made = first :: rest ∧ first.map Prod.fst = opening data.length) ∨
        (∃ event ∈ events, ¬Granted event) ∧ made.length ≤ 1 ∧
          ∀ first ∈ made, first.map Prod.fst <+: opening data.length) ∧
      (∃ count ≤ data.length, cargo parcels = data.take count ∧
        ∀ number, ran.result = .ok number →
          number = count ∧ number = (parcels.map (·.announced.toNat)).sum) ∧
      (∃ count ≤ data.length, uploads events = data.take count) ∧
      (∀ offered remaining,
        ran.result = .error (.error (.stream (.chunkOverrun offered remaining))) ↔
          ∃ before block after parcel, made = before ++ block :: after ∧
            handed? block = some parcel ∧
            data.length - (cargo (before.filterMap handed?)).length < parcel.announced.toNat ∧
            offered.toNat = parcel.announced.toNat ∧
            remaining.toNat = data.length - (cargo (before.filterMap handed?)).length) ∧
      ∀ before block after parcel, made = before ++ block :: after → handed? block = some parcel →
        (after ≠ [] → parcel.moved.length = parcel.announced.toNat) ∧
        (data.length - (cargo (before.filterMap handed?)).length < parcel.announced.toNat →
          parcel.moved = [] ∧ after = []) := by
  intro ran events made parcels hc
  have ht : Transcript (drive.write data) events ran.result :=
    (transcript_recorded machine (drive.write data) state journal).1
  obtain ⟨-, hv, count, hcount, hsent, hnumber⟩ := conveying_write drive data _ _ ht hc
  obtain ⟨-, tried, htried, hup, -⟩ := carrying_write drive data _ _ ht
  refine ⟨?_, ⟨count, hcount, hsent, fun number hr => ?_⟩, ⟨tried, htried, hup⟩,
    fun offered remaining => ?_, ?_⟩
  · rcases opens_write drive hn hl _ _ ht with ⟨before, after, block, he, hb, hm, hf⟩ | ⟨-, ho⟩
    · refine .inl ⟨block, transactions after, ?_, hf⟩
      rw [show made = _ from congrArg transactions he, transactions_append hb, hm]
      rfl
    · exact .inr ho
  · refine ⟨hnumber number hr, ?_⟩
    rw [hr] at hv
    rw [hv.sum_announced, hsent, List.length_take_of_le hcount]
    exact hnumber number hr
  · rw [← ended_eq_some_iff]
    exact hv.overrun_iff offered remaining
  · intro before block after parcel hs hp
    rw [show transactions events = _ from hs] at hv
    obtain ⟨-, hh⟩ := hv.handled hp
    cases hh with
    | accepted hr _ hw _ => exact ⟨fun ha => hw (.inl ha), fun ho => (Nat.not_lt.2 hr ho).elim⟩
    | refused _ hm ha _ => exact ⟨fun hn => (hn ha).elim, fun _ => ⟨hm, ha⟩⟩

/-- A device that asks for a chunk of two bytes and then for one of four. -/
def demanding : Bench.Scripted where
  incoming := [0x00, 0x00, 0x00, 0x00, 0x1e, 0x00, 0x02, 0x00, 0x00, 0x00, 0x00, 0x1e, 0x00, 0x04]

/-- Of five bytes two are sent, and then there are not four left. -/
theorem write_sends_front_overrun :
    ∃ ran, ran = ((Drive.mk { statusMode := .poll } 2).write [1, 2, 3, 4, 5]).run
        Bench.Scripted.device.recorded (demanding, []) [] ∧
      Calm ran.state.2.reverse ∧
      cargo ((transactions ran.state.2.reverse).filterMap handed?) = [1, 2] ∧
      ran.result = .error (.error (.stream (.chunkOverrun 4 3))) := by
  have hc : Calm (((Drive.mk { statusMode := .poll } 2).write [1, 2, 3, 4, 5]).run
      Bench.Scripted.device.recorded (demanding, []) []).state.2.reverse := by
    decide +kernel
  obtain ⟨-, -, -, ho, -⟩ :=
    write_sends_front _ _ _ _ _ (by decide) (by decide) hc
  refine ⟨_, rfl, hc, by decide +kernel, (ho 4 3).2 ?_⟩
  let pending : Block := [(0x22, 0x00), (0x00, 0x1e)]
  let handed : Block := [(0x2d, 0x00), (0x00, 0x02), (0x01, 0x00), (0x02, 0x00)]
  exact ⟨[[(0x3c, 0x00), (0x05, 0x00), (0x00, 0x00)], pending, handed, [(0x3d, 0x00)], pending],
    [(0x2d, 0x00), (0x00, 0x04)], [], ⟨4, []⟩, rfl, rfl, by decide, rfl, rfl⟩

end Drive

end DiskBridge

import DiskBridge.Chip.Device
import DiskBridge.Proofs.Bracketing
import DiskBridge.Proofs.ToolRuns
import DiskBridge.Tool.Store

/-!
# What is sent of a file that is stored

A file is written in pieces of the largest size that a write can have, and the chip may report
success before it has taken a piece whole. `uploads` reads off the calls which bytes of data the
drive put on the bus.

1. Only the transactions that hand over a chunk carry data, so all other operations upload nothing
   (`commanding_unloaded`).
2. A write uploads the front of its data, as much as it counts (`carrying_write`).
3. Storing a file uploads the fronts of its pieces, one after the other (`carrying_storePieces`).

So the bytes sent are the front of the file as long as no piece that was cut short is followed by
another byte (`prefix_of_gapless`). The tool does not see to that: it goes on with the next piece
(`storeFile_leaves_gap`). `storeFile_uploads_fronts` states what holds of every run.
-/

namespace DiskBridge

open Dialogue

namespace Bus

/-! ## Data among the calls -/

/-- The bytes put on the bus in each transaction that is ended, `sent` being those in the open
one. -/
def framesFrom (sent : List UInt8) : List (Event Bus) → List (List UInt8)
  | [] => []
  | ⟨.begin, _⟩ :: rest => framesFrom [] rest
  | ⟨.finish, _⟩ :: rest => sent :: framesFrom [] rest
  | ⟨.exchange byte, _⟩ :: rest => framesFrom (sent ++ [byte]) rest
  | ⟨.poll, _⟩ :: rest | ⟨.pause _, _⟩ :: rest => framesFrom sent rest

def byte? : Event Bus → Option UInt8
  | ⟨.exchange byte, _⟩ => some byte
  | _ => none

/-- The data in a transaction: what follows the opcode and the place of the length in one that hands
over a chunk. -/
def payload : List UInt8 → List UInt8
  | opcode :: _ :: data => if opcode = Command.writeBuffer.opcode then data else []
  | _ => []

/-- The data that is put on the bus in some calls. -/
def uploads (events : List (Event Bus)) : List UInt8 := (framesFrom [] events).flatMap payload

theorem framesFrom_inner {body : List (Event Bus)} (hi : ∀ event ∈ body, Inner event)
    (sent : List UInt8) (rest : List (Event Bus)) :
    framesFrom sent (body ++ rest) = framesFrom (sent ++ body.filterMap byte?) rest := by
  induction body generalizing sent with
  | nil => rw [List.filterMap_nil, List.append_nil, List.nil_append]
  | cons event body ih =>
    obtain ⟨he, hb⟩ := List.forall_mem_cons.1 hi
    obtain ⟨request, reply⟩ := event
    cases request with
    | begin | finish | poll => exact he.elim
    | exchange byte =>
      rw [List.cons_append, framesFrom, ih hb, List.append_assoc]
      rfl
    | pause span =>
      rw [List.cons_append, framesFrom, ih hb]
      rfl

theorem uploads_append {before : List (Event Bus)} (h : Bracketed before)
    (after : List (Event Bus)) : uploads (before ++ after) = uploads before ++ uploads after := by
  induction h with
  | nil => rfl
  | pause span _ ih => exact ih
  | poll reply _ ih => exact ih
  | refused error _ ih => exact ih
  | @block reply body rest hi _ ih =>
    unfold uploads at ih ⊢
    simp only [List.cons_append, List.append_assoc, framesFrom, framesFrom_inner hi,
      List.flatMap_cons, ih]

theorem uploads_block {body : List (Event Bus)} (hi : ∀ event ∈ body, Inner event)
    (reply : Except Error Unit) :
    uploads (⟨.begin, .ok ()⟩ :: (body ++ [⟨.finish, reply⟩])) = payload (body.filterMap byte?) := by
  simp only [uploads, framesFrom, framesFrom_inner hi, List.nil_append, List.flatMap_cons,
    List.flatMap_nil, List.append_nil]

/-- Calls that put no data on the bus. -/
def Unloaded (events : List (Event Bus)) : Prop := Bracketed events ∧ uploads events = []

theorem opcode_injective {command other : Command} (h : command.opcode = other.opcode) :
    command = other := by
  have he := congrArg Command.ofOpcode? h
  rw [Command.ofOpcode?_opcode, Command.ofOpcode?_opcode] at he
  exact Option.some.inj he

theorem commanding_unloaded : Commanding Unloaded where
  nil := ⟨.nil, rfl⟩
  append := by
    rintro before after ⟨hb, hu⟩ ⟨hb', hu'⟩
    exact ⟨hb.append hb', by rw [uploads_append hb, hu, hu', List.nil_append]⟩
  pause span := ⟨.pause span .nil, rfl⟩
  poll reply := ⟨.poll reply .nil, rfl⟩
  refused error := ⟨.refused error .nil, rfl⟩
  block := by
    rintro command body reply hn ⟨hi, first, rest, rfl⟩
    refine ⟨.block reply hi .nil, ?_⟩
    rw [uploads_block hi, List.filterMap_cons]
    show payload (command.opcode :: rest.filterMap byte?) = []
    unfold payload
    split
    · next he =>
      rw [if_neg]
      rintro rfl
      exact hn (opcode_injective (List.cons.inj he).1)
    · rfl

/-- Each conversation of an operation is bracketed, and `P` holds of how it ends and of the data it
puts on the bus. -/
def Carrying {α : Type} (P : Except Stop α → List UInt8 → Prop) (operation : Operation α) : Prop :=
  ∀ events result, Transcript operation events result →
    Bracketed events ∧ P result (uploads events)

section Carrying

variable {α β : Type} {P : Except Stop α → List UInt8 → Prop} {Q : Except Stop β → List UInt8 → Prop}

theorem Carrying.imp {Q : Except Stop α → List UInt8 → Prop} {operation : Operation α}
    (h : Carrying P operation) (hi : ∀ result sent, P result sent → Q result sent) :
    Carrying Q operation := by
  intro events result ht
  obtain ⟨hb, hp⟩ := h events result ht
  exact ⟨hb, hi result _ hp⟩

theorem carrying_done {value : β} (h : Q (.ok value) []) : Carrying Q (done value) := by
  rintro _ _ ⟨⟩
  exact ⟨.nil, h⟩

theorem carrying_failed {stop : Stop} (h : Q (.error stop) []) : Carrying Q (failed stop) := by
  rintro _ _ ⟨⟩
  exact ⟨.nil, h⟩

theorem carrying_say_bind {level : Level} {text : String} {next : Unit → Operation β}
    (h : Carrying Q (next ())) : Carrying Q (say level text >>= next) := by
  intro events result ht
  obtain _ | _ | ht := ht
  exact h events result ht

/-- The data of operations in sequence stands in sequence. -/
theorem Carrying.bind {first : Operation α} {next : α → Operation β} (hf : Carrying P first)
    (he : ∀ stop sent, P (.error stop) sent → Q (.error stop) sent)
    (hn : ∀ value sent, P (.ok value) sent →
      Carrying (fun result more => Q result (sent ++ more)) (next value)) :
    Carrying Q (first >>= next) := by
  intro events result ht
  rcases transcript_bind ht with ⟨stop, rfl, hb⟩ | ⟨value, before, after, rfl, hb, ha⟩
  · obtain ⟨hb, hp⟩ := hf _ _ hb
    exact ⟨hb, he stop _ hp⟩
  · obtain ⟨hb, hp⟩ := hf _ _ hb
    obtain ⟨ha, hq⟩ := hn value _ hp _ _ ha
    rw [uploads_append hb]
    exact ⟨hb.append ha, hq⟩

theorem Carrying.after {first : Operation α} {next : α → Operation β} (hf : Always Unloaded first)
    (he : ∀ stop, Q (.error stop) []) (hn : ∀ value, Carrying Q (next value)) :
    Carrying Q (first >>= next) := by
  have hf : Carrying (fun _ sent => sent = []) first := fun events result ht => hf events result ht
  refine hf.bind ?_ ?_
  · rintro stop _ rfl
    exact he stop
  · rintro value _ rfl
    exact hn value

end Carrying

/-! ## Writes -/

/-- The front of some data, of whose length `P` holds. -/
def Front (data : List UInt8) (P : Nat → Prop) (sent : List UInt8) : Prop :=
  ∃ count ≤ data.length, sent = data.take count ∧ P count

theorem front_nil {data : List UInt8} {P : Nat → Prop} (h : P 0) : Front data P [] :=
  ⟨0, Nat.zero_le _, rfl, h⟩

theorem Front.imp {data : List UInt8} {P Q : Nat → Prop} {sent : List UInt8} (h : Front data P sent)
    (hi : ∀ count, P count → Q count) : Front data Q sent := by
  obtain ⟨count, hc, hs, hp⟩ := h
  exact ⟨count, hc, hs, hi count hp⟩

/-- What stands behind a front is the front of what it leaves. -/
theorem Front.append {data : List UInt8} {P Q : Nat → Prop} {length : Nat} {sent more : List UInt8}
    (h : Front data (· = length) sent) (hm : Front (data.drop length) P more)
    (hp : ∀ count, P count → Q (length + count)) : Front data Q (sent ++ more) := by
  obtain ⟨count, hc, rfl, rfl⟩ := h
  obtain ⟨rest, hr, rfl, hq⟩ := hm
  rw [List.length_drop] at hr
  exact ⟨count + rest, by omega, List.take_add.symm, hp rest hq⟩

/-- What is put on the bus of some bytes that are sent: all of them, unless an exchange fails. -/
theorem front_send {bytes : List UInt8} {events : List (Event Bus)} {result : Except Error Unit}
    (h : Transcript (send bytes) events result) :
    Front bytes (fun count => result = .ok () → count = bytes.length)
      (events.filterMap byte?) := by
  induction bytes generalizing events with
  | nil =>
    cases h
    exact front_nil fun _ => rfl
  | cons byte rest ih =>
    rcases transcript_bind h with ⟨error, rfl, hf⟩ | ⟨reply, before, after, rfl, hf, hr⟩
    · rw [transcript_exchange hf]
      exact ⟨1, by simp, rfl, nofun⟩
    · rw [transcript_exchange hf]
      obtain ⟨count, hc, he, hv⟩ := ih hr
      refine ⟨count + 1, Nat.succ_le_succ hc, congrArg (byte :: ·) he, fun h => ?_⟩
      rw [hv h, List.length_cons]

end Bus

namespace Drive

open Bus

theorem payload_opcode (count : Nat) : payload ([Command.writeBuffer.opcode].take count) = [] := by
  cases count with
  | zero => rfl
  | succ count => simp [payload]

theorem payload_chunk (filler : UInt8) (data : List UInt8) :
    payload (Command.writeBuffer.opcode :: filler :: data) = data := by
  simp [payload]

/-- What stands in the transaction that hands over a chunk. -/
def handOver (data : List UInt8) : Dialogue Bus Error Nat := do
  Bus.send [Command.writeBuffer.opcode]
  let length := (← Bus.receive).toNat
  if data.length < length then
    say .error ("Error while writing data: chip requested " ++ toString length ++ " bytes, "
      ++ toString data.length ++ " remaining")
    failed (overrun length data.length)
  else
    Bus.send (data.take length)
    return length

theorem writeChunk_eq (data : List UInt8) :
    writeChunk data = (do
      let length ← transaction (handOver data)
      say .trace ("Wrote chunk of " ++ toString length ++ " bytes")
      return length) := rfl

theorem confined_handOver (data : List UInt8) : Confined (handOver data) := by
  refine (confined_send _).bind inner fun _ => ?_
  refine (confined_exchange _).bind inner fun length => ?_
  dsimp only
  split
  · exact (always_say inner _ _).bind inner fun _ => always_failed inner _
  · exact (confined_send _).bind inner fun _ => always_done inner _

/-- The bytes that are counted are those that were put on the bus. -/
def Counted (data : List UInt8) {ε : Type} (result : Except ε Nat) : List UInt8 → Prop :=
  Front data fun count => ∀ number, result = .ok number → number = count

/-- What fails counts nothing. -/
theorem Counted.failed {data sent : List UInt8} {ε δ : Type} {result : Except ε Nat}
    (h : Counted data result sent) (cause : δ) : Counted data (.error cause) sent :=
  Front.imp h fun _ _ => nofun

theorem Counted.mapError {data sent : List UInt8} {ε δ : Type} {result : Except ε Nat}
    (h : Counted data result sent) (restate : ε → δ) :
    Counted data (result.mapError restate) sent := by
  cases result with
  | ok number => exact Front.imp h fun count hn other ho => hn other (congrArg _ (Except.ok.inj ho))
  | error cause => exact h.failed (restate cause)

theorem counted_handOver {data : List UInt8} {inside : List (Event Bus)} {result : Except Error Nat}
    (h : Transcript (handOver data) inside result) :
    Counted data result (payload (inside.filterMap byte?)) := by
  rcases transcript_bind h with ⟨error, rfl, hs⟩ | ⟨_, before, after, rfl, hs, h⟩
  · obtain ⟨count, -, hb, -⟩ := front_send hs
    rw [hb, payload_opcode]
    exact front_nil nofun
  obtain ⟨count, -, hb, hc⟩ := front_send hs
  rw [hc rfl] at hb
  rcases transcript_bind h with ⟨error, rfl, hs⟩ | ⟨byte, middle, after, rfl, hs, h⟩
  · rw [transcript_exchange hs, List.filterMap_append, hb]
    exact front_nil nofun
  rw [transcript_exchange hs, List.filterMap_append, List.filterMap_append, hb]
  show Counted data result (payload (Command.writeBuffer.opcode :: Command.filler ::
    after.filterMap byte?))
  rw [payload_chunk]
  dsimp only at h
  split at h
  · obtain _ | _ | h := h
    cases h
    exact front_nil nofun
  · next hl =>
    have hl : (data.take byte.toNat).length = byte.toNat :=
      List.length_take_of_le (Nat.not_lt.1 hl)
    rcases transcript_bind h with ⟨error, rfl, hs⟩ | ⟨_, sent, rest, rfl, hs, h⟩
    · obtain ⟨count, hc, he, -⟩ := front_send hs
      rw [he, List.take_take, Nat.min_eq_left (by omega)]
      rw [List.length_take] at hc
      exact ⟨count, by omega, rfl, nofun⟩
    · cases h
      obtain ⟨count, hc, he, hv⟩ := front_send hs
      rw [List.append_nil, he, hv rfl, List.take_length]
      rw [List.length_take] at hl
      exact ⟨byte.toNat, by omega, rfl, fun number h => (Except.ok.inj h).symm⟩

theorem carrying_handOver (data : List UInt8) :
    Carrying (Counted data) (transaction (handOver data)) := by
  intro events result h
  unfold transaction at h
  obtain ⟨ending, rfl, hb⟩ := transcript_mapFailure h
  rcases transcript_bracket hb with
    ⟨error, rfl, rfl⟩ | ⟨inside, reply, rfl, ⟨value, hi, rfl⟩ | ⟨cause, hi, rfl⟩⟩
  · exact ⟨.refused error .nil, front_nil nofun⟩
  · have hc := confined_handOver data _ _ hi
    have hu := counted_handOver hi
    rw [uploads_block hc]
    refine ⟨.block reply hc .nil, ?_⟩
    cases reply with
    | error error => exact hu.failed _
    | ok _ => exact hu.mapError _
  · have hc := confined_handOver data _ _ hi
    have hu := counted_handOver hi
    rw [uploads_block hc]
    exact ⟨.block reply hc .nil, hu.failed _⟩

theorem carrying_writeChunk (data : List UInt8) : Carrying (Counted data) (writeChunk data) := by
  rw [writeChunk_eq]
  refine (carrying_handOver data).bind (fun stop sent h => h.failed stop) fun length sent h => ?_
  refine carrying_say_bind (carrying_done ?_)
  rw [List.append_nil]
  exact h

/-- The same of a write that goes on after `written` bytes, and counts its chunks too. -/
def Totalled (data : List UInt8) (written : Nat) (result : Except Stop (Nat × Nat)) :
    List UInt8 → Prop :=
  Front data fun count => ∀ total, result = .ok total → total.1 = written + count

theorem Totalled.counted {data sent : List UInt8} {total : Nat × Nat}
    (h : Totalled data 0 (.ok total) sent) : Counted data (.ok total.1 : Except Stop Nat) sent := by
  refine Front.imp h fun count hn number ho => ?_
  rw [← Except.ok.inj ho, hn total rfl, Nat.zero_add]

/-- What follows a chunk sends the front of what the chunk left. -/
theorem Totalled.after {data sent more : List UInt8} {written length : Nat}
    {result : Except Stop (Nat × Nat)} (hs : Counted data (.ok length : Except Stop Nat) sent)
    (h : Totalled (data.drop length) (written + length) result more) :
    Totalled data written result (sent ++ more) := by
  obtain ⟨count, hc, rfl, hn⟩ := hs
  obtain rfl := hn length rfl
  have hf : Front data (· = length) (data.take length) := ⟨length, hc, rfl, rfl⟩
  refine hf.append h fun count hp total ht => ?_
  rw [hp total ht, Nat.add_assoc]

/-- Chunks upload the data, each from where the one before ended. -/
theorem carrying_writeChunks (drive : Drive) (rounds : Nat) (data : List UInt8)
    (written chunks : Nat) :
    Carrying (Totalled data written) (drive.writeChunks rounds data written chunks) := by
  induction rounds generalizing data written chunks with
  | zero => exact carrying_failed (front_nil nofun)
  | succ rounds ih =>
    refine (carrying_writeChunk data).bind (fun stop sent h => Front.imp h fun _ _ => nofun)
      fun length sent h => ?_
    refine Carrying.imp (P := Totalled (data.drop length) (written + length)) ?_
      fun result more hm => hm.after h
    refine Carrying.after (always_sendCommand commanding_unloaded (by decide) [])
      (fun _ => front_nil nofun) fun _ => ?_
    refine Carrying.after (always_status commanding_unloaded drive)
      (fun _ => front_nil nofun) fun status => ?_
    split
    · refine carrying_done (front_nil fun total h => ?_)
      cases h
      rfl
    · exact ih _ _ _
    · exact carrying_say_bind (carrying_failed (front_nil nofun))

theorem carrying_write (drive : Drive) (data : List UInt8) :
    Carrying (Counted data) (drive.write data) := by
  refine carrying_say_bind ?_
  split
  · exact carrying_say_bind (carrying_done (front_nil fun number h => (Except.ok.inj h).symm))
  · refine Carrying.after (always_checkSize commanding_unloaded _)
      (fun _ => front_nil nofun) fun _ => ?_
    refine Carrying.after (always_commandStatus commanding_unloaded drive (by decide) _)
      (fun _ => front_nil nofun) fun status => ?_
    refine Carrying.after (always_expectStatus commanding_unloaded _ _ _)
      (fun _ => front_nil nofun) fun _ => ?_
    refine (carrying_writeChunks drive _ data 0 0).bind (fun stop sent h => Front.imp h fun _ _ => nofun)
      fun total sent h => ?_
    have hd : Carrying (fun result more => Counted data result (sent ++ more)) (done total.1) := by
      refine carrying_done ?_
      rw [List.append_nil]
      exact h.counted
    -- What is left to do is to say how it went.
    dsimp only
    split
    · exact carrying_say_bind (carrying_say_bind hd)
    · exact carrying_say_bind hd

end Drive

namespace Tool

open Bus Drive

/-! ## Stored files -/

/-- The pieces in which a file is written. -/
def pieces (data : List UInt8) : List (List UInt8) :=
  if _ : data = [] then []
  else data.take Command.maxTransfer :: pieces (data.drop Command.maxTransfer)
  termination_by data.length
  decreasing_by
    have : 0 < data.length := List.length_pos_iff.mpr (by assumption)
    have : 0 < Command.maxTransfer := by decide
    simp only [List.length_drop]
    omega

theorem pieces_nil : pieces [] = [] := by
  rw [pieces, dif_pos rfl]

theorem pieces_of_ne {data : List UInt8} (h : data ≠ []) :
    pieces data = data.take Command.maxTransfer :: pieces (data.drop Command.maxTransfer) := by
  rw [pieces, dif_neg h]

theorem flatten_pieces (data : List UInt8) : (pieces data).flatten = data := by
  fun_induction pieces data with
  | case1 => rfl
  | case2 data h ih => rw [List.flatten_cons, ih, List.take_append_drop]

/-- How much of each piece is sent, up to the last piece that is tried. -/
structure Portions (counts : List Nat) (pieces : List (List UInt8)) : Prop where
  length_le : counts.length ≤ pieces.length
  le_length : ∀ part ∈ counts.zip pieces, part.1 ≤ part.2.length

/-- The fronts of some pieces, one after the other. -/
def fronts (counts : List Nat) (pieces : List (List UInt8)) : List UInt8 :=
  (List.zipWith (fun count piece => piece.take count) counts pieces).flatten

theorem portions_nil (pieces : List (List UInt8)) : Portions [] pieces where
  length_le := Nat.zero_le _
  le_length := by simp

theorem Portions.cons {count : Nat} {counts : List Nat} {piece : List UInt8}
    {pieces : List (List UInt8)} (hc : count ≤ piece.length) (h : Portions counts pieces) :
    Portions (count :: counts) (piece :: pieces) where
  length_le := Nat.succ_le_succ h.length_le
  le_length := by
    rw [List.zip_cons_cons, List.forall_mem_cons]
    exact ⟨hc, h.le_length⟩

/-- The bytes sent of the pieces, all of which were tried if there is a count of them. -/
def Sends (data : List UInt8) (written : Nat) (result : Except Stop Nat) (sent : List UInt8) : Prop :=
  ∃ counts, Portions counts (pieces data) ∧ sent = fronts counts (pieces data) ∧
    ∀ total, result = .ok total →
      counts.length = (pieces data).length ∧ total = written + sent.length

theorem fronts_cons (count : Nat) (counts : List Nat) (piece : List UInt8)
    (pieces : List (List UInt8)) :
    fronts (count :: counts) (piece :: pieces) = piece.take count ++ fronts counts pieces := rfl

theorem carrying_storePieces (drive : Drive) (data : List UInt8) (written : Nat) :
    Carrying (Sends data written) (storePieces drive data written) := by
  fun_induction storePieces drive data written with
  | case1 written =>
    refine carrying_done ⟨[], portions_nil _, rfl, fun total h => ?_⟩
    rw [pieces_nil]
    exact ⟨rfl, (Except.ok.inj h).symm⟩
  | case2 data written hd ih =>
    refine (carrying_write drive _).bind (fun stop sent h => ?_) fun number sent h => ?_
    · obtain ⟨count, hc, rfl, -⟩ := h
      rw [Sends, pieces_of_ne hd]
      exact ⟨[count], (portions_nil _).cons hc, (List.append_nil _).symm, nofun⟩
    · obtain ⟨count, hc, rfl, hn⟩ := h
      obtain rfl := hn number rfl
      refine (ih number).imp fun result more hs => ?_
      obtain ⟨counts, hp, rfl, ht⟩ := hs
      rw [Sends, pieces_of_ne hd]
      refine ⟨number :: counts, hp.cons hc, rfl, fun total h => ?_⟩
      obtain ⟨hl, rfl⟩ := ht total h
      rw [List.length_cons, List.length_cons, hl, List.length_append, List.length_take_of_le hc,
        Nat.add_assoc]
      exact ⟨rfl, rfl⟩

theorem unloaded_eraseAnyway (drive : Drive) (path : String) :
    Always Unloaded (eraseAnyway drive path) := by
  have hC := commanding_unloaded.toConcatenative
  refine Always.bind hC (Always.attempt ?_) fun ending => ?_
  · exact (always_selectPath commanding_unloaded drive path).bind hC fun _ =>
      always_erase commanding_unloaded drive
  · split
    · exact always_failed hC _
    · exact always_done hC ()
    · exact always_done hC ()

theorem unloaded_makeParent (drive : Drive) (path : String) (parents : Bool) :
    Always Unloaded (makeParent drive path parents) := by
  have hC := commanding_unloaded.toConcatenative
  unfold makeParent
  split
  · exact (always_selectPath commanding_unloaded drive _).bind hC fun _ =>
      always_createDirectory commanding_unloaded drive
  · exact always_done hC ()
  · exact always_done hC ()

/-- Storing a file sends the fronts of its pieces, and nothing else. -/
theorem carrying_store (drive : Drive) (path : String) (data : List UInt8) (parents : Bool) :
    Carrying (Sends data 0) (store drive path data parents) := by
  have hC := commanding_unloaded.toConcatenative
  have he (stop : Stop) : Sends data 0 (.error stop) [] := ⟨[], portions_nil _, rfl, nofun⟩
  rw [store_eq]
  refine Carrying.after (unloaded_makeParent drive path parents) he fun _ => ?_
  refine Carrying.after (unloaded_eraseAnyway drive path) he fun _ => ?_
  refine Carrying.after ?_ he fun _ => ?_
  · exact (always_selectPath commanding_unloaded drive path).bind hC fun _ =>
      always_createFile commanding_unloaded drive
  refine (carrying_storePieces drive data 0).bind (fun _ _ h => h) fun written sent h => ?_
  refine Carrying.after (always_close commanding_unloaded drive) (fun stop => ?_) fun _ => ?_
  · obtain ⟨counts, hp, hs, -⟩ := h
    exact ⟨counts, hp, by rw [List.append_nil, hs], nofun⟩
  · refine carrying_done ?_
    rw [List.append_nil]
    exact h

/-! ### Gaps -/

/-- No piece that was cut short is followed by another byte. -/
def Gapless (parts : List (Nat × List UInt8)) : Prop :=
  parts.Pairwise fun earlier later => earlier.1 = earlier.2.length ∨ later.1 = 0

theorem fronts_eq_nil {counts : List Nat} {pieces : List (List UInt8)}
    (h : ∀ part ∈ counts.zip pieces, part.1 = 0) : fronts counts pieces = [] := by
  induction counts generalizing pieces with
  | nil => rfl
  | cons count counts ih =>
    cases pieces with
    | nil => rfl
    | cons piece pieces =>
      rw [List.zip_cons_cons, List.forall_mem_cons] at h
      obtain ⟨rfl, h⟩ := h
      rw [fronts_cons, ih h, List.take_zero, List.append_nil]

theorem prefix_of_gapless {counts : List Nat} {pieces : List (List UInt8)}
    (h : Gapless (counts.zip pieces)) : fronts counts pieces <+: pieces.flatten := by
  induction counts generalizing pieces with
  | nil => exact List.nil_prefix
  | cons count counts ih =>
    cases pieces with
    | nil => exact List.nil_prefix
    | cons piece pieces =>
      obtain ⟨hl, hr⟩ := List.pairwise_cons.1 h
      rw [fronts_cons, List.flatten_cons]
      by_cases hc : count = piece.length
      · rw [hc, List.take_length]
        exact List.prefix_append_right_inj piece |>.2 (ih hr)
      · rw [fronts_eq_nil fun part hp => (hl part hp).resolve_left hc, List.append_nil]
        exact (List.take_prefix count piece).trans (List.prefix_append piece _)

/-- Whatever is left out, nothing is out of order. -/
theorem fronts_sublist (counts : List Nat) (pieces : List (List UInt8)) :
    (fronts counts pieces).Sublist pieces.flatten := by
  induction counts generalizing pieces with
  | nil => exact List.nil_sublist _
  | cons count counts ih =>
    cases pieces with
    | nil => exact List.nil_sublist _
    | cons piece pieces =>
      rw [fronts_cons, List.flatten_cons]
      exact (List.take_sublist count piece).append (ih pieces)

theorem gapless_of_length_le {data : List UInt8} (h : data.length ≤ Command.maxTransfer)
    (counts : List Nat) : Gapless (counts.zip (pieces data)) := by
  have hp : (pieces data).length ≤ 1 := by
    by_cases hd : data = []
    · rw [hd, pieces_nil]
      exact Nat.zero_le _
    · rw [pieces_of_ne hd, List.drop_of_length_le h, pieces_nil]
      exact Nat.le_refl _
  have hl : (counts.zip (pieces data)).length ≤ 1 := by
    rw [List.length_zip]
    omega
  unfold Gapless
  match counts.zip (pieces data), hl with
  | [], _ => exact .nil
  | [part], _ => exact List.pairwise_singleton _ _

/-- **Stored data.** On every device, in every run of the tool that stores a file, the data that is
put on the bus is a front of each piece, one after the other. It is the front of the file if no piece
that is cut short is followed by another byte, and so it is for a file of one piece. If as much was
sent as there is, it was the file. If the tool succeeds then all pieces were tried, and it prints how
much was sent. -/
theorem storeFile_uploads_fronts {σ : Type} (machine : Machine Bus σ) (drive : Drive) (path : String)
    (data : List UInt8) (parents : Bool) (state : σ) :
    let ran := (storeFile drive path data parents).run machine.recorded.withConsole
      ((state, []), []) []
    let sent := uploads ran.state.1.2.reverse
    ∃ counts, Portions counts (pieces data) ∧ sent = fronts counts (pieces data) ∧
      (Gapless (counts.zip (pieces data)) → sent <+: data) ∧
      (data.length ≤ Command.maxTransfer → sent <+: data) ∧
      (sent.length = data.length → sent = data) ∧
      (ran.result = .ok () → counts.length = (pieces data).length ∧
        ran.state.2 = [storedLine path sent.length]) := by
  intro ran sent
  let operation := drive.bringUp >>= fun _ => store drive path data parents
  have hc : Carrying (Sends data 0) operation :=
    Carrying.after (always_bringUp commanding_unloaded drive)
      (fun _ => ⟨[], portions_nil _, rfl, nofun⟩) fun _ => carrying_store drive path data parents
  obtain ⟨ht, -⟩ := transcript_recorded machine operation state []
  obtain ⟨-, counts, hp, hs, hr⟩ := hc _ _ ht
  have ho : (ran.result, ran.state) = _ := (outcome_run _ _ _ []).symm.trans
    (outcome_storeFile machine.recorded drive path data parents (state, []))
  rw [outcome_run machine.recorded operation _ []] at ho
  clear_value ran
  generalize operation.run machine.recorded (state, []) [] = inner at hs hr ho
  obtain ⟨result, last, journal⟩ := inner
  have hl : ran.state.1 = last ∧ (ran.result = .ok () →
      ∃ written, result = .ok written ∧ ran.state.2 = [storedLine path written]) := by
    cases result with
    | error stop =>
      obtain ⟨hr, hs⟩ := Prod.mk.inj ho
      exact ⟨congrArg Prod.fst hs, fun h => by cases hr.symm.trans h⟩
    | ok written =>
      obtain ⟨-, hs⟩ := Prod.mk.inj ho
      exact ⟨congrArg Prod.fst hs, fun _ => ⟨written, rfl, congrArg Prod.snd hs⟩⟩
  have hsent : sent = fronts counts (pieces data) := by
    rw [← hs, ← hl.1]
  have hg : Gapless (counts.zip (pieces data)) → sent <+: data := by
    intro hg
    have hf := prefix_of_gapless hg
    rwa [flatten_pieces, ← hsent] at hf
  have hf : sent.Sublist data := by
    have hf := fronts_sublist counts (pieces data)
    rwa [flatten_pieces, ← hsent] at hf
  refine ⟨counts, hp, hsent, hg, fun hd => hg (gapless_of_length_le hd counts), hf.eq_of_length,
    fun hok => ?_⟩
  obtain ⟨written, rfl, hprint⟩ := hl.2 hok
  obtain ⟨hcounts, hw⟩ := hr written rfl
  rw [Nat.zero_add, hs, ← hsent] at hw
  exact ⟨hcounts, hw ▸ hprint⟩

/-! ### A gap -/

section Gap

/-- What the tool does before the first piece. -/
def preparing (drive : Drive) (path : String) : Operation Unit := do
  drive.bringUp
  eraseAnyway drive path
  drive.createPath path

/-- What it does from the first piece on. -/
def finishing (drive : Drive) (data : List UInt8) (written : Nat) : Operation Nat := do
  let written ← storePieces drive data written
  drive.close
  return written

theorem bringUp_store_eq (drive : Drive) (path : String) (data : List UInt8) :
    (drive.bringUp >>= fun _ => store drive path data false) =
      preparing drive path >>= fun _ => finishing drive data 0 := by
  unfold preparing
  rw [bind_bind]
  refine congrArg _ (funext fun _ => ?_)
  rw [bind_bind]
  rfl

theorem finishing_nil (drive : Drive) (written : Nat) :
    finishing drive [] written = drive.close >>= fun _ => Dialogue.done written := by
  unfold finishing
  rw [storePieces, dif_pos rfl]
  rfl

theorem finishing_piece (drive : Drive) {piece rest : List UInt8} (written : Nat)
    (h : piece.length = Command.maxTransfer) :
    finishing drive (piece ++ rest) written =
      drive.write piece >>= fun count => finishing drive rest (written + count) := by
  have hn : piece ++ rest ≠ [] := by
    intro he
    rw [(List.append_eq_nil_iff.1 he).1] at h
    cases h
  unfold finishing
  rw [storePieces, dif_neg hn, List.take_left' h, List.drop_left' h, bind_bind]

theorem finishing_last (drive : Drive) (byte : UInt8) (written : Nat) :
    finishing drive [byte] written =
      drive.write [byte] >>= fun count => drive.close >>= fun _ =>
        Dialogue.done (written + count) := by
  have he : finishing drive [byte] written =
      drive.write [byte] >>= fun count => finishing drive [] (written + count) := by
    unfold finishing
    rw [storePieces, dif_neg (List.cons_ne_nil _ _), bind_bind]
    rfl
  simp only [he, finishing_nil]

theorem gap_of_outcome {drive : Drive} {path : String} {data sent : List UInt8} {chip : Chip}
    {written : Nat} {last : Chip × List (Event Bus)}
    (h : (drive.bringUp >>= fun _ => store drive path data false).outcome Chip.device.recorded
      (chip, []) = (.ok written, last))
    (hs : uploads last.2.reverse = sent) (hn : ¬ sent <+: data) :
    let ran := (storeFile drive path data false).run Chip.device.recorded.withConsole
      ((chip, []), []) []
    ran.result = .ok () ∧ uploads ran.state.1.2.reverse = sent ∧
      ¬ uploads ran.state.1.2.reverse <+: data := by
  have hr : (storeFile drive path data false).outcome Chip.device.recorded.withConsole
      ((chip, []), []) = (.ok (), last, [storedLine path written]) := by
    rw [outcome_storeFile, h]
  obtain ⟨ht, hl⟩ := run_of_outcome hr []
  intro ran
  have hu : uploads ran.state.1.2.reverse = sent := by
    rw [show ran.state = _ from hl]
    exact hs
  exact ⟨ht, hu, hu ▸ hn⟩

/-- A chip that reports success for a write after the first chunk of it, of one byte. -/
def hasty : Chip := { attached := true, injected := [(0x3d, 0x14)], chunkScript := [1, 1] }

/-- A drive that waits long enough for it. -/
def patientDrive : Drive := { config := .standard, patience := 3 }

/-- The chip when a file was created on it, with the calls so far. -/
def created : Chip × List (Event Bus) :=
  ((preparing patientDrive "/A").outcome Chip.device.recorded (hasty, [])).2

theorem outcome_created :
    (preparing patientDrive "/A").outcome Chip.device.recorded (hasty, []) = (.ok (), created) := by
  have hok : ((preparing patientDrive "/A").outcome Chip.device.recorded (hasty, [])).1.isOk := by
    decide +kernel
  refine Prod.ext ?_ rfl
  cases h : ((preparing patientDrive "/A").outcome Chip.device.recorded (hasty, [])).1 with
  | error stop =>
    rw [h] at hok
    cases hok
  | ok _ => rfl

/-- The chip when the first chunk of a piece of the largest size was written. -/
def cutShort : Chip × List (Event Bus) :=
  ((do
    let _ ← patientDrive.commandStatus .write (littleEndian 2 Command.maxTransfer)
    let _ ← writeChunk [0]
    sendCommand .writeMore []
    patientDrive.status : Operation Status).outcome Chip.device.recorded created).2

theorem outcome_cutShort {middle : List UInt8} (h : (0 :: middle).length = Command.maxTransfer) :
    (patientDrive.write (0 :: middle)).outcome Chip.device.recorded created = (.ok 1, cutShort) := by
  unfold Drive.write
  rw [h]
  rfl

/-- The chip at the end. -/
def stored : Chip × List (Event Bus) :=
  ((do
    let count ← patientDrive.write [1]
    patientDrive.close
    return 1 + count : Operation Nat).outcome Chip.device.recorded cutShort).2

theorem outcome_stored :
    (finishing patientDrive [1] 1).outcome Chip.device.recorded cutShort = (.ok 2, stored) := by
  rw [finishing_last]
  rfl

/-- The chip cuts the first piece short after one byte. The tool goes on with the second one, and the
first byte of the file is followed by its last. -/
theorem storeFile_leaves_gap :
    let data : List UInt8 := 0 :: 0 :: List.replicate (Command.maxTransfer - 2) 0 ++ [1]
    let ran := (storeFile patientDrive "/A" data false).run Chip.device.recorded.withConsole
      ((hasty, []), []) []
    ran.result = .ok () ∧ uploads ran.state.1.2.reverse = [0, 1] ∧
      ¬ uploads ran.state.1.2.reverse <+: data := by
  intro data
  have hl : (0 :: 0 :: List.replicate (Command.maxTransfer - 2) (0 : UInt8)).length =
      Command.maxTransfer := by
    rw [List.length_cons, List.length_cons, List.length_replicate]
    rfl
  have ho : (patientDrive.bringUp >>= fun _ => store patientDrive "/A" data false).outcome
      Chip.device.recorded (hasty, []) = (.ok 2, stored) := by
    rw [bringUp_store_eq, outcome_bind_ok outcome_created, finishing_piece _ _ hl,
      outcome_bind_ok (outcome_cutShort hl)]
    exact outcome_stored
  refine gap_of_outcome ho (by decide +kernel) fun hp => ?_
  -- the second byte sent is the last of the data, the second byte of the data is another
  have hd : data = 0 :: 0 :: (List.replicate (Command.maxTransfer - 2) 0 ++ [1]) := by
    rw [← List.cons_append, ← List.cons_append]
  rw [hd, List.cons_prefix_cons, List.cons_prefix_cons] at hp
  exact absurd hp.2.1 (by decide)

end Gap

end Tool

end DiskBridge

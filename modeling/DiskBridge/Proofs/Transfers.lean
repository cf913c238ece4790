import DiskBridge.Drive.Transfer
import DiskBridge.Proofs.CoreSteps
import DiskBridge.Proofs.RoundTrip
import Mathlib.Algebra.GroupWithZero.Nat

/-!
# Transfers

Data crosses the bus in chunks whose sizes the chip decides. A drive with enough patience moves all
of it: a write puts the data into the open file at its cursor (`takes_write`), and a read returns
what stands there (`takes_read`), in whatever chunks it is prescribed to come (`takes_read_paced`).

1. A chunk that is written is stored at the cursor (`takes_writeChunk`), and chunks that are stored
   one after the other are stored as one (`stored_stored`).
2. A chunk that is read is what stands at the cursor (`takes_readChunk`). It leaves enough to read
   for the chunks that are prescribed after it (`Core.Paced.advanced`).
3. The chip asks for more as long as something is left, so by induction over the rounds a transfer
   ends when all has moved (`takes_writeChunks`, `takes_readChunks`).

What comes of a chunk on a chip that was prepared in any way, one that does not fit included, is said
first (`outcome_writeChunk`, `outcome_readChunk`).
-/

namespace DiskBridge

open Dialogue

namespace Volume

theorem insert_insert (volume : Volume) (path : Path) (first last : Node) :
    (volume.insert path first).insert path last = volume.insert path last := by
  simp [insert, erase]

theorem file?_insert (volume : Volume) (path : Path) (data : List UInt8) :
    (volume.insert path (.file data)).file? path = some data := by
  rw [file?, get?_insert, if_pos rfl]

theorem file?_eq_some_iff {volume : Volume} {path : Path} {data : List UInt8} :
    volume.file? path = some data ↔ volume.get? path = some (.file data) := by
  unfold file?
  split
  · next other hg => rw [hg, Option.some.injEq, Option.some.injEq, Node.file.injEq]
  · next hn => exact ⟨nofun, fun hg => (hn data hg).elim⟩

end Volume

namespace Chip

/-! ## The open file -/

theorem length_splice {data : List UInt8} {offset : Nat} (h : offset ≤ data.length)
    (chunk : List UInt8) : offset + chunk.length ≤ (splice data chunk offset).length := by
  simp [splice]
  omega

theorem splice_nil {data : List UInt8} {offset : Nat} (h : offset ≤ data.length) :
    splice data [] offset = data := by
  simp [splice, Nat.sub_eq_zero_of_le h]

theorem splice_append (front rest chunk : List UInt8) :
    splice (front ++ rest) chunk front.length = front ++ chunk ++ rest.drop chunk.length := by
  simp [splice, List.drop_append]

/-- Chunks written one after the other are written as one. -/
theorem splice_splice (data first last : List UInt8) (offset : Nat) :
    splice (splice data first offset) last (offset + first.length) =
      splice data (first ++ last) offset := by
  let front := data.take offset ++ List.replicate (offset - data.length) 0 ++ first
  have hl : offset + first.length = front.length := by
    simp [front]
    omega
  calc splice (splice data first offset) last (offset + first.length)
      = splice (front ++ data.drop (offset + first.length)) last front.length := by rw [← hl]; rfl
    _ = front ++ last ++ data.drop (offset + first.length + last.length) := by
        rw [splice_append, List.drop_drop]
    _ = splice data (first ++ last) offset := by simp [splice, front, Nat.add_assoc]

/-- What is written over a whole file is all that remains. -/
theorem splice_zero {data chunk : List UInt8} (h : data.length ≤ chunk.length) :
    splice data chunk 0 = chunk := by
  simp [splice, h]

/-- The file at `path` is open and holds `data`, and the chip decides on its own about statuses. -/
structure Core.Serves (core : Core) (path : Path) (data : List UInt8) : Prop where
  openFile : core.openFile = some path
  file : core.volume.file? path = some data
  injected : core.injected = []

/-- The file at `path` is open and holds `data`, and the chip decides on its own about statuses and
the sizes of chunks. -/
structure Core.Streams (core : Core) (path : Path) (data : List UInt8) : Prop where
  openFile : core.openFile = some path
  file : core.volume.file? path = some data
  injected : core.injected = []
  chunkScript : core.chunkScript = []

theorem Core.Streams.serves {core : Core} {path : Path} {data : List UInt8}
    (h : core.Streams path data) : core.Serves path data := ⟨h.openFile, h.file, h.injected⟩

/-- The core with some bytes still to be written. -/
def Core.writing (core : Core) (size : Nat) : Core := { core with writeLeft := size }

/-- The core with some bytes still to be read. -/
def Core.reading (core : Core) (size : Nat) : Core := { core with readLeft := size }

theorem Core.Streams.writing {core : Core} {path : Path} {data : List UInt8}
    (h : core.Streams path data) (size : Nat) : (core.writing size).Streams path data :=
  ⟨h.openFile, h.file, h.injected, h.chunkScript⟩

theorem Core.Streams.reading {core : Core} {path : Path} {data : List UInt8}
    (h : core.Streams path data) (size : Nat) : (core.reading size).Streams path data :=
  ⟨h.openFile, h.file, h.injected, h.chunkScript⟩

theorem Core.Serves.reading {core : Core} {path : Path} {data : List UInt8}
    (h : core.Serves path data) (size : Nat) : (core.reading size).Serves path data :=
  ⟨h.openFile, h.file, h.injected⟩

/-- The core after a chunk was stored in the file at `path` that held `data`. -/
def Core.stored (core : Core) (path : Path) (data chunk : List UInt8) : Core :=
  { core with
    volume := core.volume.insert path (.file (splice data chunk core.cursor))
    cursor := core.cursor + chunk.length
    writeLeft := core.writeLeft - chunk.length }

theorem stored_stored (core : Core) (path : Path) (data first last : List UInt8) :
    (core.stored path data first).stored path (splice data first core.cursor) last =
      core.stored path data (first ++ last) := by
  simp only [Core.stored, Volume.insert_insert, splice_splice, List.length_append, Nat.add_assoc,
    Nat.sub_sub]

theorem Core.Streams.stored {core : Core} {path : Path} {data : List UInt8}
    (h : core.Streams path data) (chunk : List UInt8) :
    (core.stored path data chunk).Streams path (splice data chunk core.cursor) :=
  ⟨h.openFile, Volume.file?_insert _ _ _, h.injected, h.chunkScript⟩

theorem openData?_of_serves {chip : Chip} {path : Path} {data : List UInt8}
    (h : chip.core.Serves path data) : chip.openData? = some data := by
  have ho : chip.openFile = some path := h.openFile
  rw [openData?, ho]
  exact h.file

/-! ## Chunks -/

theorem nextChunk_plain {chip : Chip} (h : chip.chunkScript = []) (left : Nat) :
    chip.nextChunk left = (min left Command.maxChunk, chip) := by
  unfold nextChunk
  rw [h]

theorem nextChunk_eq (chip : Chip) (left : Nat) :
    chip.nextChunk left = (chip.chunkScript.headD (min left Command.maxChunk),
      { chip with chunkScript := chip.chunkScript.tail }) := by
  cases hs : chip.chunkScript with
  | nil => rw [nextChunk_plain hs, List.headD_nil, List.tail_nil, ← hs]
  | cons size rest =>
    unfold nextChunk
    rw [hs]
    rfl

theorem toNat_min_maxChunk (left : Nat) :
    (UInt8.ofNat (min left Command.maxChunk)).toNat = min left Command.maxChunk :=
  UInt8.toNat_ofNat_of_lt' (Nat.lt_succ_of_le (Nat.min_le_right _ _))

/-- The core with the given chunks prescribed. -/
def Core.scripted (core : Core) (sizes : List Nat) : Core := { core with chunkScript := sizes }

/-- The size of the next chunk that the chip asks for, in the one byte it has for it. -/
def Core.askedSize (core : Core) : Nat :=
  (UInt8.ofNat (core.chunkScript.headD (min core.writeLeft Command.maxChunk))).toNat

theorem Core.askedSize_nil {core : Core} (h : core.chunkScript = []) :
    core.askedSize = min core.writeLeft Command.maxChunk := by
  rw [Core.askedSize, h]
  exact toNat_min_maxChunk _

/-- The core after it took a chunk, with or without a file to put it in. -/
def Core.took (core : Core) (chunk : List UInt8) : Core :=
  { core with
    volume :=
      match core.openFile, core.openFile.bind core.volume.file? with
      | some path, some data => core.volume.insert path (.file (splice data chunk core.cursor))
      | _, _ => core.volume
    cursor := core.cursor + chunk.length
    writeLeft := core.writeLeft - chunk.length }

/-- A chunk is put into the file that is open. -/
theorem Core.took_eq_stored {core : Core} {path : Path} {data : List UInt8}
    (ho : core.openFile = some path) (hf : core.volume.file? path = some data)
    (chunk : List UInt8) : core.took chunk = core.stored path data chunk := by
  simp only [Core.took, Core.stored, ho, Option.bind_some, hf]

/-- The chip after it took a chunk. -/
def handed (chip : Chip) (chunk : List UInt8) : Chip :=
  { chip.addressed (Command.writeBuffer.opcode :: Command.filler :: chunk) with
    chunkScript := chip.chunkScript.tail }.finish

theorem core_handed (chip : Chip) (chunk : List UInt8) :
    (chip.handed chunk).core = (chip.core.took chunk).scripted chip.core.chunkScript.tail := rfl

/-- The chip takes the chunk that it asks for, or an empty one if there are not enough bytes. -/
theorem outcome_writeChunk (chip : Chip) (bytes : List UInt8) :
    (Drive.writeChunk bytes).outcome device chip =
      if bytes.length < chip.core.askedSize then
        (.error (.error (Drive.overrun chip.core.askedSize bytes.length)), chip.handed [])
      else (.ok chip.core.askedSize, chip.handed (bytes.take chip.core.askedSize)) := by
  generalize hs : chip.core.askedSize = size
  let byte := UInt8.ofNat (chip.chunkScript.headD (min chip.writeLeft Command.maxChunk))
  have hz : byte.toNat = size := hs
  let asked := { chip.addressed [Command.writeBuffer.opcode] with
    chunkScript := chip.chunkScript.tail }.respond [byte]
  have ho : (Bus.send [Command.writeBuffer.opcode]).outcome device chip.begin = (.ok (), asked) := by
    have hq : (chip.addressed [Command.writeBuffer.opcode]).requestChunk = asked := by
      rw [requestChunk, nextChunk_eq]
      rfl
    exact (outcome_send_opcode chip _).trans (congrArg (Prod.mk _) hq)
  have hq : Silent Command.writeBuffer.opcode 1 := silent_one (by decide)
  have hr : Bus.receive.outcome device asked = (.ok byte, asked.heard [Command.filler]) :=
    outcome_exchange_silent hq asked rfl Command.filler rfl (Nat.le_refl 1)
  rw [Drive.writeChunk]
  split
  · next hl =>
    refine outcome_bind_error (outcome_transaction_error ?_)
    rw [outcome_bind_ok ho, outcome_bind_ok hr]
    dsimp only
    rw [hz, if_pos hl]
    rfl
  · next hl =>
    have hw := outcome_send_silent hq (asked.heard [Command.filler]) rfl (bytes.take size) rfl
      (Nat.le_succ 1)
    have he : (asked.heard [Command.filler]).heard (bytes.take size) =
        { chip.addressed (Command.writeBuffer.opcode :: Command.filler :: bytes.take size) with
          chunkScript := chip.chunkScript.tail } := by
      simp [heard, asked, respond, addressed, begin]
    rw [he] at hw
    refine outcome_bind_ok (outcome_transaction ?_)
    rw [outcome_bind_ok ho, outcome_bind_ok hr]
    dsimp only
    rw [hz, if_neg hl, outcome_bind_ok hw]
    rfl

/-- A command that is answered in its transaction leaves nothing to do when that ends. -/
theorem core_finish_answered {chip : Chip} {command : Command}
    (h : command ∈ [.readBuffer, .fileSize]) (hi : chip.inTransaction = true)
    {rest : List UInt8} (hr : chip.received = command.opcode :: rest) :
    chip.finish.core = chip.core := by
  rw [core_finish hi, hr, complete, List.head?_cons, Option.bind_some, Command.ofOpcode?_opcode]
  simp only [List.mem_cons, List.not_mem_nil, or_false] at h
  rcases h with rfl | rfl <;> rfl

section Streams

variable {core : Core} {path : Path} {data : List UInt8} (h : core.Streams path data)

include h

/-- The chunk that the chip asks for is stored. -/
theorem takes_writeChunk {bytes : List UInt8}
    (hl : min core.writeLeft Command.maxChunk ≤ bytes.length) :
    Takes (Drive.writeChunk bytes) core (.ok (min core.writeLeft Command.maxChunk))
      (core.stored path data (bytes.take (min core.writeLeft Command.maxChunk))) := by
  rintro chip rfl
  have ho := outcome_writeChunk chip bytes
  rw [Core.askedSize_nil h.chunkScript, if_neg (Nat.not_lt.2 hl)] at ho
  refine ⟨_, ho, ?_, fun _ => inTransaction_finish _⟩
  rw [core_handed, Core.took_eq_stored h.openFile h.file, h.chunkScript, List.tail_nil,
    ← h.chunkScript]
  rfl

end Streams

/-- The bytes of a chunk are received one by one. -/
theorem outcome_receiveChunk {count : Nat} {bytes : List UInt8} {chip last : Chip}
    (h : (Bus.receiveMany count).outcome device chip = (.ok bytes, last)) (received : List UInt8) :
    (Drive.receiveChunk count received).outcome device chip = (.ok (received ++ bytes), last) := by
  induction count generalizing chip bytes received with
  | zero =>
    cases h
    rw [List.append_nil]
    rfl
  | succ count ih =>
    obtain ⟨byte, middle, hb, h⟩ := outcome_bind_eq_ok h
    obtain ⟨rest, _, hr, h⟩ := outcome_bind_eq_ok h
    cases h
    rw [Drive.receiveChunk, outcome_bind_ok (outcome_mapFailure_ok _ hb), ih hr, List.append_assoc]
    rfl

theorem sliceOf_of_le {data : List UInt8} {offset count : Nat} (h : offset + count ≤ data.length) :
    sliceOf data offset count = (data.drop offset).take count := by
  have hl : ((data.drop offset).take count).length = count := by
    rw [List.length_take, List.length_drop]
    omega
  rw [sliceOf, hl, Nat.sub_self]
  exact List.append_nil _

/-- The core after a chunk of a file was handed over. -/
def Core.fetched (core : Core) (size : Nat) : Core :=
  { core with cursor := core.cursor + size, readLeft := core.readLeft - size }

theorem Core.Streams.fetched {core : Core} {path : Path} {data : List UInt8}
    (h : core.Streams path data) (size : Nat) : (core.fetched size).Streams path data :=
  ⟨h.openFile, h.file, h.injected, h.chunkScript⟩

/-- The size of the next chunk that is read. -/
def Core.nextSize (core : Core) : Nat :=
  core.chunkScript.headD (min core.readLeft Command.maxChunk)

/-- The core after the next chunk was handed over. -/
def Core.advanced (core : Core) : Core :=
  (core.fetched core.nextSize).scripted core.chunkScript.tail

theorem Core.Serves.advanced {core : Core} {path : Path} {data : List UInt8}
    (h : core.Serves path data) : core.advanced.Serves path data :=
  ⟨h.openFile, h.file, h.injected⟩

theorem fetched_advanced (core : Core) (count : Nat) (sizes : List Nat) :
    (core.advanced.fetched count).scripted sizes =
      (core.fetched (core.nextSize + count)).scripted sizes := by
  simp only [Core.advanced, Core.fetched, Core.scripted, Nat.add_assoc, Nat.sub_sub]

/-- The chip after it offered a chunk. -/
def offering (chip : Chip) (chunk : List UInt8) : Chip :=
  { chip.respond (UInt8.ofNat chunk.length :: chunk) with
    cursor := chip.cursor + chunk.length
    readLeft := chip.readLeft - chunk.length
    chunkScript := chip.chunkScript.tail }

theorem core_offering (chip : Chip) (chunk : List UInt8) :
    (chip.offering chunk).core =
      (chip.core.fetched chunk.length).scripted chip.core.chunkScript.tail := rfl

theorem length_sliceOf (data : List UInt8) (offset count : Nat) :
    (sliceOf data offset count).length = count := by
  simp only [sliceOf, List.length_append, List.length_replicate, List.length_take]
  omega

/-- The next chunk that is read: what stands at the cursor, and zeros beyond the end. -/
def nextSlice (chip : Chip) : List UInt8 :=
  sliceOf (chip.openData?.getD []) chip.cursor chip.core.nextSize

theorem length_nextSlice (chip : Chip) : chip.nextSlice.length = chip.core.nextSize :=
  length_sliceOf _ _ _

theorem nextSlice_of_serves {chip : Chip} {path : Path} {data : List UInt8}
    (h : chip.core.Serves path data) (hl : chip.cursor + chip.core.nextSize ≤ data.length) :
    chip.nextSlice = (data.drop chip.cursor).take chip.core.nextSize := by
  rw [nextSlice, openData?_of_serves h, Option.getD_some, sliceOf_of_le hl]

theorem offerChunk_eq (chip : Chip) : chip.offerChunk = chip.offering chip.nextSlice := by
  rw [offerChunk, nextChunk_eq]
  simp only [offering, length_nextSlice]
  rfl

/-- The chip after `count` bytes of the chunk it offered were received. -/
def offered (chip : Chip) (count : Nat) : Chip :=
  ((((chip.addressed [Command.readBuffer.opcode]).offering chip.nextSlice).heard
    [Command.filler]).heard (List.replicate count Command.filler)).finish

theorem core_offered (chip : Chip) (count : Nat) : (chip.offered count).core = chip.core.advanced := by
  rw [offered, core_finish_answered (.head _) rfl rfl, core_heard, core_heard, core_offering,
    core_addressed, length_nextSlice]
  rfl

/-- A chunk is received if it fits, as far as the byte with its size says. -/
theorem outcome_readChunk (chip : Chip) (room : Nat) {size : Nat}
    (hs : (UInt8.ofNat chip.core.nextSize).toNat = size) :
    (Drive.readChunk room).outcome device chip =
      if room < size then (.error ⟨[], .error (Drive.overrun size room)⟩, chip.offered 0)
      else (.ok (chip.nextSlice.take size), chip.offered size) := by
  let asked := (chip.addressed [Command.readBuffer.opcode]).offering chip.nextSlice
  have ho : (Bus.send [Command.readBuffer.opcode]).outcome device chip.begin = (.ok (), asked) :=
    (outcome_send_opcode chip _).trans (congrArg (Prod.mk _) (offerChunk_eq (chip.addressed _)))
  have hq : Silent Command.readBuffer.opcode 1 := silent_one (by decide)
  have hb : Bus.receive.outcome device asked =
      (.ok (UInt8.ofNat chip.core.nextSize), asked.heard [Command.filler]) := by
    rw [← length_nextSlice]
    exact outcome_exchange_silent hq asked rfl Command.filler rfl (Nat.le_refl 1)
  rw [Drive.readChunk]
  split
  · next hl =>
    refine outcome_bind_error (outcome_bracket_error ?_)
    rw [outcome_bind_ok (outcome_mapFailure_ok _ ho), outcome_bind_ok (outcome_mapFailure_ok _ hb)]
    dsimp only
    rw [hs, if_pos hl, List.replicate_zero, heard_nil]
    rfl
  · next hl =>
    have hc : size ≤ (asked.heard [Command.filler]).responses.length := by
      show size ≤ chip.nextSlice.length
      rw [length_nextSlice, ← hs]
      exact Nat.mod_le _ _
    have hm := outcome_receiveMany hq (asked.heard [Command.filler]) rfl rfl (Nat.le_succ 1) size hc
    refine outcome_bind_ok (outcome_bracket ?_)
    rw [outcome_bind_ok (outcome_mapFailure_ok _ ho), outcome_bind_ok (outcome_mapFailure_ok _ hb)]
    dsimp only
    rw [hs, if_neg hl]
    exact outcome_receiveChunk hm []

/-- A chunk is read as it stands at the cursor. -/
theorem takes_readChunk {core : Core} {path : Path} {data : List UInt8}
    (h : core.Serves path data) (hm : core.nextSize ≤ Command.maxChunk)
    (hl : core.cursor + core.nextSize ≤ data.length) {room : Nat} (hr : core.nextSize ≤ room) :
    Takes (Drive.readChunk room) core (.ok ((data.drop core.cursor).take core.nextSize))
      core.advanced := by
  rintro chip rfl
  have hs : (UInt8.ofNat chip.core.nextSize).toNat = chip.core.nextSize :=
    UInt8.toNat_ofNat_of_lt' (Nat.lt_succ_of_le hm)
  have ho := outcome_readChunk chip room hs
  rw [if_neg (Nat.not_lt.2 hr), List.take_of_length_le (Nat.le_of_eq (length_nextSlice chip)),
    nextSlice_of_serves h hl] at ho
  exact ⟨_, ho, core_offered _ _, fun _ => inTransaction_finish _⟩

/-- The chunks that are prescribed are part of what is left to read, and so many rounds are enough
for them and the rest. -/
structure Core.Paced (core : Core) (rounds : Nat) : Prop where
  sizes : ∀ size ∈ core.chunkScript, size ≤ Command.maxChunk
  sum : core.chunkScript.sum ≤ core.readLeft
  rounds : core.chunkScript.length * Command.maxChunk + core.readLeft ≤ rounds * Command.maxChunk

section Paced

variable {core : Core} {rounds : Nat}

theorem Core.nextSize_nil (h : core.chunkScript = []) :
    core.nextSize = min core.readLeft Command.maxChunk := by
  rw [Core.nextSize, h]
  rfl

theorem Core.nextSize_cons {size : Nat} {rest : List Nat} (h : core.chunkScript = size :: rest) :
    core.nextSize = size := by
  rw [Core.nextSize, h]
  rfl

theorem Core.Paced.nextSize_le (h : core.Paced rounds) :
    core.nextSize ≤ Command.maxChunk ∧ core.nextSize ≤ core.readLeft := by
  obtain ⟨hs, hm, -⟩ := h
  cases hc : core.chunkScript with
  | nil =>
    rw [Core.nextSize_nil hc]
    exact ⟨Nat.min_le_right _ _, Nat.min_le_left _ _⟩
  | cons size rest =>
    rw [hc] at hs hm
    rw [List.sum_cons] at hm
    rw [Core.nextSize_cons hc]
    exact ⟨hs size List.mem_cons_self, by omega⟩

/-- A chunk takes up a round, and leaves enough for the others. -/
theorem Core.Paced.advanced (h : core.Paced (rounds + 1)) : core.advanced.Paced rounds := by
  obtain ⟨hs, hm, hr⟩ := h
  rw [Nat.succ_mul] at hr
  cases hc : core.chunkScript with
  | nil =>
    have ha : core.advanced = (core.fetched (min core.readLeft Command.maxChunk)).scripted [] := by
      rw [Core.advanced, Core.nextSize_nil hc, hc, List.tail_nil]
    rw [hc] at hr
    rw [ha]
    refine ⟨nofun, Nat.zero_le _, ?_⟩
    simp only [Core.scripted, Core.fetched, List.length_nil, Nat.zero_mul, Nat.zero_add] at hr ⊢
    omega
  | cons size rest =>
    have ha : core.advanced = (core.fetched size).scripted rest := by
      rw [Core.advanced, Core.nextSize_cons hc, hc, List.tail_cons]
    rw [hc] at hs hm hr
    rw [List.sum_cons] at hm
    rw [List.length_cons, Nat.succ_mul] at hr
    rw [ha]
    refine ⟨(List.forall_mem_cons.1 hs).2, ?_, ?_⟩
    · show rest.sum ≤ core.readLeft - size
      omega
    · show rest.length * Command.maxChunk + (core.readLeft - size) ≤ _
      omega

end Paced

/-- The size of the open file, in the four bytes the chip has for it. -/
theorem takes_fileSize {core : Core} {path : Path} {data : List UInt8}
    (h : core.Streams path data) :
    Takes Drive.fileSize core (.ok (UInt32.ofNat data.length)) core := by
  rintro chip rfl
  let asked := (chip.addressed [Command.fileSize.opcode, Command.openFileSize]).respond
    (littleEndian 4 data.length)
  have hr : (chip.addressed [Command.fileSize.opcode, Command.openFileSize]).reportSize =
      asked := by
    have ho : (chip.addressed [Command.fileSize.opcode, Command.openFileSize]).openData? =
        some data := openData?_of_serves h.serves
    rw [reportSize, ho]
    rfl
  have ho : (Bus.send [Command.fileSize.opcode, Command.openFileSize]).outcome device chip.begin =
      (.ok (), asked) :=
    (outcome_send_argument rfl _).trans (congrArg (Prod.mk _) hr)
  have hm := outcome_receiveMany (silent_two Command.fileSize.opcode) asked rfl rfl
    (Nat.le_refl 2) 4 (Nat.le_of_eq (length_littleEndian 4 data.length).symm)
  have ht : asked.responses.take 4 = littleEndian 4 data.length :=
    List.take_of_length_le (Nat.le_of_eq (length_littleEndian 4 data.length))
  have hz : UInt32.ofNat (ofLittleEndian (littleEndian 4 data.length)) =
      UInt32.ofNat data.length := by
    rw [ofLittleEndian_littleEndian]
    exact UInt32.ofNat_mod_size
  refine ⟨(asked.heard (List.replicate 4 Command.filler)).finish, ?_, ?_,
    fun _ => inTransaction_finish _⟩
  · rw [Drive.fileSize,
      outcome_bind_ok (outcome_transaction ((outcome_bind_ok ho).trans hm)), ht]
    dsimp only
    rw [hz]
    rfl
  · rw [core_finish_answered (.tail _ (.head _)) rfl rfl, core_heard, core_respond, core_addressed]

/-! ## Rounds -/

theorem argument_littleEndian (opcode : UInt8) {width value : Nat} (h : value < 256 ^ width) :
    argument (opcode :: littleEndian width value) width = value := by
  rw [argument, List.drop_one, List.tail_cons,
    List.take_of_length_le (Nat.le_of_eq (length_littleEndian width value)),
    ofLittleEndian_littleEndian_of_lt h]

theorem raises_write {core : Core} (ho : core.openFile.isSome = true) {size : Nat}
    (hs : size ≤ Command.maxTransfer) :
    Raises .write (littleEndian 2 size) core .writePending (core.writing size) := by
  rintro chip rfl
  refine ⟨{ chip with writeLeft := size }, ?_, rfl⟩
  show chip.executeWrite _ = _
  rw [executeWrite, argument_littleEndian _ (Nat.lt_succ_of_le hs)]
  exact if_pos ho

theorem raises_writeMore {core : Core} {status : Status}
    (hs : (if 0 < core.writeLeft then .writePending else .success) = status) :
    Raises .writeMore [] core status core := by
  rintro chip rfl
  exact ⟨chip, congrArg (chip.raise .writeMore) hs, rfl⟩

/-- A read is for what the file has from the cursor on, and for no more than was asked. -/
theorem raises_read {core : Core} {path : Path} {data : List UInt8} (h : core.Serves path data)
    {size : Nat} (hs : size ≤ Command.maxTransfer) {left : Nat}
    (hl : min size (data.length - core.cursor) = left) {status : Status}
    (hr : (if 0 < left then .readPending else .success) = status) :
    Raises .read (littleEndian 2 size) core status (core.reading left) := by
  rintro chip rfl
  have hm : min size (data.length - chip.cursor) = left := hl
  have ha := argument_littleEndian Command.read.opcode
    (show size < 256 ^ 2 from Nat.lt_succ_of_le hs)
  refine ⟨{ chip with readLeft := left }, ?_, rfl⟩
  show chip.executeRead _ = _
  simp only [executeRead, openData?_of_serves h, ha, hm, hr]

theorem raises_readMore {core : Core} {status : Status}
    (hs : (if 0 < core.readLeft then .readPending else .success) = status) :
    Raises .readMore [] core status core := by
  rintro chip rfl
  exact ⟨chip, congrArg (chip.raise .readMore) hs, rfl⟩

section Streams

variable {drive : Drive} (hp : drive.config.statusMode = .interrupt → 0 < drive.patience)
  {path : Path}

include hp

/-- Chunks are written until nothing is left. -/
theorem takes_writeChunks (rounds : Nat) {bytes : List UInt8} (hb : 0 < bytes.length)
    (hl : bytes.length ≤ rounds * Command.maxChunk) {core : Core} {data : List UInt8}
    (h : core.Streams path data) (hw : core.writeLeft = bytes.length) (written chunks : Nat) :
    ∃ total, Takes (drive.writeChunks rounds bytes written chunks) core
      (.ok (written + bytes.length, total)) (core.stored path data bytes) := by
  induction rounds generalizing bytes core data written chunks with
  | zero => omega
  | succ rounds ih =>
    have hc := takes_writeChunk h (Nat.le_trans (Nat.min_le_left _ _) (Nat.le_of_eq hw))
    have hj := (h.stored (bytes.take (min core.writeLeft Command.maxChunk))).injected
    rw [Drive.writeChunks]
    rw [hw] at hc hj
    by_cases hm : bytes.length ≤ Command.maxChunk
    -- The chunk is the last.
    · rw [Nat.min_eq_left hm, List.take_length] at hc hj
      have hx : Raises .writeMore [] (core.stored path data bytes) .success _ :=
        raises_writeMore (if_neg (by simp [Core.stored, hw]))
      refine ⟨chunks + 1, hc.bind ?_⟩
      dsimp only
      rw [← bind_assoc]
      exact (takes_learn hp rfl rfl hx hj).bind (takes_done _ _)
    · have hm : Command.maxChunk < bytes.length := Nat.lt_of_not_le hm
      rw [Nat.min_eq_right (Nat.le_of_lt hm)] at hc hj
      let after := core.stored path data (bytes.take Command.maxChunk)
      have hd : (bytes.drop Command.maxChunk).length = bytes.length - Command.maxChunk :=
        List.length_drop
      have ha : after.writeLeft = (bytes.drop Command.maxChunk).length := by
        simp only [after, Core.stored, hw, List.length_take, List.length_drop]
        omega
      have hx : Raises .writeMore [] after .writePending after :=
        raises_writeMore (if_pos (by omega))
      rw [Nat.succ_mul] at hl
      obtain ⟨total, hr⟩ := ih (by omega) (by omega) (h.stored _) ha (written + Command.maxChunk)
        (chunks + 1)
      rw [stored_stored, List.take_append_drop, hd, Nat.add_assoc,
        Nat.add_sub_of_le (Nat.le_of_lt hm)] at hr
      refine ⟨total, hc.bind ?_⟩
      dsimp only
      rw [← bind_assoc]
      exact (takes_learn hp rfl rfl hx hj).bind hr

/-- Data that fits in one transfer is written at the cursor. -/
theorem takes_write (hr : Command.maxTransfer ≤ drive.patience * Command.maxChunk)
    {bytes : List UInt8} (hb : 0 < bytes.length) (hl : bytes.length ≤ Command.maxTransfer)
    {core : Core} {data : List UInt8} (h : core.Streams path data) :
    Takes (drive.write bytes) core (.ok bytes.length)
      ((core.writing bytes.length).stored path data bytes) := by
  have hs : Drive.checkSize bytes.length = done () := if_neg (Nat.not_lt.2 hl)
  have ho : core.openFile.isSome = true := by simp [h.openFile]
  have hx := takes_commandStatus hp rfl rfl (raises_write ho hl) h.injected
  obtain ⟨total, hc⟩ := takes_writeChunks hp drive.patience hb (Nat.le_trans hl hr)
    (h.writing bytes.length) rfl 0 0
  rw [Nat.zero_add] at hc
  rw [Drive.write, takes_say_bind, if_neg (Nat.ne_of_gt hb), hs, done_bind]
  refine hx.bind (.bind (takes_done () _) (hc.bind ?_))
  dsimp only
  rw [if_neg (fun hn => hn rfl)]
  exact takes_done _ _

/-- Chunks are read until nothing is left. If none are prescribed, they are as large as can be. -/
theorem takes_readChunks (rounds : Nat) {core : Core} {data : List UInt8}
    (h : core.Serves path data) (hc : core.Paced rounds) (hn : 0 < core.readLeft)
    (hd : core.cursor + core.readLeft ≤ data.length) {size : Nat} {received : List UInt8}
    (hs : received.length + core.readLeft ≤ size) (chunks : Nat) :
    ∃ total rest, Takes (drive.readChunks size rounds received chunks) core
        (.ok (received ++ (data.drop core.cursor).take core.readLeft, total))
        ((core.fetched core.readLeft).scripted rest) ∧
      rest <:+ core.chunkScript ∧
      (core.chunkScript = [] →
        total = chunks + (core.readLeft + Command.maxChunk - 1) / Command.maxChunk) := by
  induction rounds generalizing core received chunks with
  | zero =>
    have := hc.rounds
    omega
  | succ rounds ih =>
    obtain ⟨hm, hw⟩ := hc.nextSize_le
    have ht := takes_readChunk h hm (by omega)
      (show core.nextSize ≤ size - received.length by omega)
    have ha : core.advanced.readLeft = core.readLeft - core.nextSize := rfl
    rw [Drive.readChunks]
    by_cases hz : core.nextSize = core.readLeft
    -- The chunk is the last.
    · have hx : Raises .readMore [] core.advanced .success core.advanced :=
        raises_readMore (if_neg (by omega))
      have hr := takes_learn hp rfl rfl hx h.injected
      refine ⟨chunks + 1, core.chunkScript.tail, ?_, List.tail_suffix _, fun _ => ?_⟩
      · rw [← hz]
        exact (ht.mapFailure _).bind ((hr.mapFailure _).bind (takes_done _ _))
      · simp only [Command.maxChunk] at hm ⊢
        omega
    · have hx : Raises .readMore [] core.advanced .readPending core.advanced :=
        raises_readMore (if_pos (by omega))
      have hr := takes_learn hp rfl rfl hx h.injected
      have hl : ((data.drop core.cursor).take core.nextSize).length = core.nextSize := by
        rw [List.length_take, List.length_drop]
        omega
      obtain ⟨total, rest, hk, hf, hc⟩ := ih h.advanced hc.advanced (by omega)
        (show core.cursor + core.nextSize + core.advanced.readLeft ≤ _ by omega)
        (show (received ++ (data.drop core.cursor).take core.nextSize).length +
          core.advanced.readLeft ≤ size by rw [List.length_append, hl]; omega) (chunks + 1)
      rw [fetched_advanced, ha, Nat.add_sub_of_le hw, List.append_assoc,
        show core.advanced.cursor = core.cursor + core.nextSize from rfl, ← List.drop_drop,
        ← List.take_add, Nat.add_sub_of_le hw] at hk
      refine ⟨total, rest, (ht.mapFailure _).bind ((hr.mapFailure _).bind hk),
        hf.trans (List.tail_suffix _), fun he => ?_⟩
      have hs : core.nextSize = Command.maxChunk := by
        rw [Core.nextSize_nil he] at hz ⊢
        omega
      rw [hc (congrArg List.tail he), ha, hs]
      simp only [Command.maxChunk] at hs ⊢
      omega

section Read

variable {size : Nat} (hl : size ≤ Command.maxTransfer) {core : Core} {data : List UInt8}
  (h : core.Serves path data)

include hl h

/-- A read begins if the file has something from the cursor on. -/
theorem takes_startRead {left : Nat} (hm : min size (data.length - core.cursor) = left)
    (hn : 0 < left) :
    Takes (do
      Drive.checkSize size
      let status ← drive.commandStatus .read (littleEndian 2 size)
      Drive.expectStatus .read status .readPending) core (.ok ()) (core.reading left) := by
  have hs : Drive.checkSize size = done () := if_neg (Nat.not_lt.2 hl)
  have hx := takes_commandStatus hp rfl rfl (raises_read h hl hm (if_pos hn)) h.injected
  rw [hs, done_bind]
  exact hx.bind (takes_done () _)

/-- What the file has from the cursor on is read, as far as it was asked for, in whatever chunks are
prescribed. -/
theorem takes_read_paced {left : Nat} (hm : min size (data.length - core.cursor) = left)
    (hn : 0 < left) (hc : (core.reading left).Paced drive.patience) :
    ∃ rest, rest <:+ core.chunkScript ∧
      Takes (drive.read size) core (.ok ((data.drop core.cursor).take left))
        (((core.reading left).fetched left).scripted rest) := by
  obtain ⟨total, rest, ht, hf, -⟩ := takes_readChunks hp drive.patience (h.reading left) hc hn
    (show core.cursor + left ≤ data.length by omega)
    (show ([] : List UInt8).length + left ≤ size by simp; omega) 0
  refine ⟨rest, hf, ?_⟩
  rw [Drive.read, takes_say_bind, if_neg (by omega)]
  refine ((takes_startRead hp hl h hm hn).mapFailure _).bind (ht.bind ?_)
  dsimp only
  rw [List.nil_append]
  -- Whether the read is short is only said.
  split <;> exact takes_done _ _

/-- Nothing is read from the end of the file on. -/
theorem takes_read_beyond (hn : 0 < size) (hd : data.length ≤ core.cursor) :
    Takes (drive.read size) core (.error ⟨[], .error (.unexpectedStatus .read .success)⟩)
      (core.reading 0) := by
  have hm : min size (data.length - core.cursor) = 0 := by omega
  have hs : Drive.checkSize size = done () := if_neg (Nat.not_lt.2 hl)
  have hx := takes_commandStatus hp rfl rfl (raises_read h hl hm (if_neg (Nat.lt_irrefl 0)))
    h.injected
  have hf : Takes (drive.commandStatus .read (littleEndian 2 size) >>= fun status =>
      Drive.expectStatus .read status .readPending) core
      (.error (.error (.unexpectedStatus .read .success))) (core.reading 0) :=
    hx.bind (takes_failed _ _)
  rw [Drive.read, takes_say_bind, if_neg (Nat.ne_of_gt hn), hs, done_bind]
  exact (hf.mapFailure _).bind_error

end Read

/-- What fits in one transfer, and in the file, is read at the cursor. -/
theorem takes_read (hr : Command.maxTransfer ≤ drive.patience * Command.maxChunk) {size : Nat}
    (hn : 0 < size) (hl : size ≤ Command.maxTransfer) {core : Core} {data : List UInt8}
    (h : core.Streams path data) (hd : core.cursor + size ≤ data.length) :
    Takes (drive.read size) core (.ok ((data.drop core.cursor).take size))
      ((core.reading size).fetched size) := by
  have hc : (core.reading size).Paced drive.patience := by
    have hs : (core.reading size).chunkScript = [] := h.chunkScript
    refine ⟨hs ▸ nofun, hs ▸ Nat.zero_le _, ?_⟩
    rw [hs, List.length_nil, Nat.zero_mul, Nat.zero_add]
    exact Nat.le_trans hl hr
  obtain ⟨rest, hf, ht⟩ := takes_read_paced hp hl h.serves (by omega) hn hc
  rw [h.chunkScript, List.suffix_nil] at hf
  rw [hf, ← h.chunkScript] at ht
  exact ht

end Streams

end Chip

end DiskBridge

import DiskBridge.Proofs.PreparedChip

/-!
# What a write leaves in the file

A write can end in many ways: the chip may report any status, ask for chunks of any size, or for
more than there is. However it ends, the open file has taken a front of the data, the cursor stands
behind it, and nothing else on the disk has changed.

1. What a chunk does to the disk depends on nothing that a chip can be prepared with
   (`bare_stored`), and one chunk after another is stored as one (`Landed.after_chunk`).
2. So by induction over the rounds, whatever status ends each of them, a front of the data was
   stored (`leads_writeChunks`), if a chunk was handed over at all (`leads_write`).
3. A chip that was not prepared asks for as much as it can until all was stored
   (`leads_writeChunks_plain`).

`write_leaves_acknowledged` puts them together.
-/

namespace DiskBridge.Chip

open Dialogue

/-- To store a chunk is to extend the file by zeros to where the chunk ends, and to put the chunk in
place of what stands there. -/
theorem splice_eq_overwrite (data chunk : List UInt8) (offset : Nat) :
    let extended := data ++ List.replicate (offset + chunk.length - data.length) 0
    splice data chunk offset =
      extended.take offset ++ chunk ++ extended.drop (offset + chunk.length) := by
  intro extended
  have ht : extended.take offset =
      data.take offset ++ List.replicate (offset - data.length) 0 := by
    rw [List.take_append, List.take_replicate, Nat.min_eq_left (by omega)]
  have hd : extended.drop (offset + chunk.length) = data.drop (offset + chunk.length) := by
    rw [List.drop_append, List.drop_replicate, Nat.sub_self]
    exact List.append_nil _
  rw [ht, hd, splice]

/-! ## What was stored -/

/-- A core without what is left to transfer and what was prepared. -/
def Core.bare (core : Core) : Core :=
  { core with readLeft := 0, writeLeft := 0, chunkScript := [], injected := [] }

theorem bare_stored {core other : Core} (h : core.bare = other.bare) (path : Path)
    (data chunk : List UInt8) :
    (core.stored path data chunk).bare = (other.stored path data chunk).bare := by
  have hs (core : Core) :
      (core.stored path data chunk).bare = (core.bare.stored path data chunk).bare := rfl
  rw [hs, h, ← hs]

/-- How a write to the file at `path`, which held `data`, leaves the disk if `count` bytes were
stored and transactions with the opcodes `sent` were made. -/
inductive Landed (core : Core) (path : Path) (data bytes : List UInt8) :
    (count : Nat) → (sent : List UInt8) → (last : Core) → Prop
  | untouched {sent : List UInt8} {last : Core} : Command.writeBuffer.opcode ∉ sent →
      last.bare = core.bare → Landed core path data bytes 0 sent last
  | written {count : Nat} {sent : List UInt8} {last : Core} : Command.writeBuffer.opcode ∈ sent →
      count ≤ bytes.length → last.bare = (core.stored path data (bytes.take count)).bare →
      Landed core path data bytes count sent last

section Landed

variable {core middle last : Core} {path : Path} {data bytes sent : List UInt8} {count : Nat}

/-- Transactions without data do not count. -/
theorem Landed.after_command (hm : middle.bare = core.bare) {first : List UInt8}
    (hf : Command.writeBuffer.opcode ∉ first) (h : Landed middle path data bytes count sent last) :
    Landed core path data bytes count (first ++ sent) last := by
  cases h with
  | untouched hn hl =>
    refine .untouched (fun ho => ?_) (hl.trans hm)
    rcases List.mem_append.1 ho with ho | ho
    · exact hf ho
    · exact hn ho
  | written ho hc hl =>
    exact .written (List.mem_append_right _ ho) hc (hl.trans (bare_stored hm _ _ _))

/-- What is stored after a chunk is stored behind it. -/
theorem Landed.after_chunk {size : Nat} (hs : size ≤ bytes.length)
    (hm : middle.bare = (core.stored path data (bytes.take size)).bare) {first : List UInt8}
    (hf : Command.writeBuffer.opcode ∈ first)
    (h : Landed middle path (splice data (bytes.take size) core.cursor) (bytes.drop size) count sent
      last) :
    Landed core path data bytes (size + count) (first ++ sent) last := by
  have ho := List.mem_append_left sent hf
  cases h with
  | untouched _ hl => exact .written ho hs (hl.trans hm)
  | written _ hc hl =>
    rw [List.length_drop] at hc
    refine .written ho (by omega) ?_
    rw [hl, bare_stored hm, stored_stored, ← List.take_add]

variable (h : Landed core path data bytes count sent last)

include h

theorem Landed.count_le : count ≤ bytes.length := by
  cases h with
  | untouched => exact Nat.zero_le _
  | written _ hc => exact hc

/-- Where the chip stands, it stood before, and its cursor moved by what was stored. -/
theorem Landed.place : last.directory = core.directory ∧ last.selected = core.selected ∧
    last.openFile = core.openFile ∧ last.cursor = core.cursor + count := by
  cases h with
  | untouched _ hl =>
    obtain ⟨-, hd, hs, ho, hcursor, -⟩ := Core.mk.inj hl
    exact ⟨hd, hs, ho, hcursor⟩
  | written _ hc hl =>
    obtain ⟨-, hd, hs, ho, hcursor, -⟩ := Core.mk.inj hl
    rw [Core.stored, List.length_take_of_le hc] at hcursor
    exact ⟨hd, hs, ho, hcursor⟩

/-- Only the file was written to, if at all. -/
theorem Landed.get?_eq (hf : core.volume.file? path = some data) (other : Path) :
    last.volume.get? other =
      if other = path then
        some (.file
          (if Command.writeBuffer.opcode ∈ sent then splice data (bytes.take count) core.cursor
          else data))
      else core.volume.get? other := by
  cases h with
  | untouched hn hl =>
    obtain ⟨hv, -⟩ := Core.mk.inj hl
    rw [hv, if_neg hn]
    split
    · next he => rw [he, Volume.file?_eq_some_iff.1 hf]
    · rfl
  | written ho _ hl =>
    obtain ⟨hv, -⟩ := Core.mk.inj hl
    rw [hv, Core.stored, if_pos ho, Volume.get?_insert]

end Landed

/-! ## Any chip -/

section Write

variable (drive : Drive) {path : Path}

/-- However the rounds of a write end, a front of the bytes was stored. -/
theorem leads_writeChunks (rounds : Nat) (bytes : List UInt8) {core : Core} {data : List UInt8}
    (ho : core.openFile = some path) (hf : core.volume.file? path = some data)
    (written chunks : Nat) :
    Leads (drive.writeChunks rounds bytes written chunks) core fun result last sent =>
      ∃ count, Landed core path data bytes count sent last ∧
        ∀ value, result = .ok value → value.1 = written + count := by
  induction rounds generalizing bytes core data written chunks with
  | zero => exact leads_failed ⟨0, .untouched List.not_mem_nil rfl, by simp⟩
  | succ rounds ih =>
    have htook := Core.took_eq_stored ho hf
    rw [Drive.writeChunks]
    refine .bind (leads_writeChunk bytes (fun hl => ?_) fun hl => ?_)
    -- The chunk is too large: an empty one is stored in its place.
    · refine ⟨0, .written List.mem_cons_self (Nat.zero_le _) ?_, by simp⟩
      rw [htook]
      rfl
    · generalize core.askedSize = size at hl ⊢
      generalize hm : (core.took (bytes.take size)).scripted core.chunkScript.tail = middle
      have hb : (middle.drawn .writeMore).bare =
          (core.stored path data (bytes.take size)).bare := by
        rw [← hm, htook]
        rfl
      have ho' : (middle.drawn .writeMore).openFile = some path := by
        rw [← hm]
        exact ho
      have hf' : (middle.drawn .writeMore).volume.file? path =
          some (splice data (bytes.take size) core.cursor) := by
        rw [← hm, htook]
        exact Volume.file?_insert _ _ _
      -- The chunk is stored, whatever status is learnt after it.
      have hstored {more : List UInt8} :
          Landed core path data bytes size ([Command.writeBuffer.opcode] ++ more)
            (middle.drawn .writeMore) :=
        .written List.mem_cons_self hl hb
      dsimp only
      rw [← bind_assoc]
      refine .bind (leads_learn drive rfl (raises_writeMore rfl) ?_ fun _ _ => ?_)
      · dsimp only
        split
        · refine leads_done ⟨size, hstored, ?_⟩
          rintro _ ⟨⟩
          rfl
        · refine (ih (bytes.drop size) ho' hf' (written + size) (chunks + 1)).imp ?_
          rintro result last sent ⟨count, hland, hvalue⟩
          refine ⟨size + count, ?_, fun value hr => ?_⟩
          · rw [← List.append_assoc]
            exact .after_chunk hl hb List.mem_cons_self hland
          · rw [hvalue value hr, Nat.add_assoc]
        · refine leads_say_bind.2 (leads_failed ?_)
          exact ⟨size, hstored, by simp⟩
      · exact ⟨size, hstored, by simp⟩

/-- However a write ends, a front of the bytes was stored. -/
theorem leads_write (bytes : List UInt8) {core : Core} {data : List UInt8}
    (ho : core.openFile = some path) (hf : core.volume.file? path = some data) :
    Leads (drive.write bytes) core fun result last sent =>
      ∃ count, Landed core path data bytes count sent last ∧
        ∀ value, result = .ok value → value = count := by
  -- Without a chunk, nothing has changed.
  have hnone {last : Core} {sent : List UInt8} {stop : Stop} (hs : Command.writeBuffer.opcode ∉ sent)
      (hl : last.bare = core.bare) : ∃ count, Landed core path data bytes count sent last ∧
        ∀ value, (.error stop : Except Stop Nat) = .ok value → value = count :=
    ⟨0, .untouched hs hl, by simp⟩
  rw [Drive.write, leads_say_bind]
  split
  · refine leads_say_bind.2 (leads_done ⟨0, .untouched List.not_mem_nil rfl, ?_⟩)
    rintro _ ⟨⟩
    rfl
  · refine .bind (leads_checkSize (fun hl => ?_) fun _ => hnone List.not_mem_nil rfl)
    have hx := raises_write (Option.isSome_of_mem ho) hl
    refine .bind (leads_commandStatus drive rfl hx ?_ fun _ _ => hnone (by decide) rfl)
    refine .bind (leads_expectStatus (fun _ => ?_) (hnone (by decide) rfl))
    generalize hm : (core.writing bytes.length).drawn .write = middle
    have hb : middle.bare = core.bare := by
      rw [← hm]
      rfl
    have ho' : middle.openFile = some path := by
      rw [← hm]
      exact ho
    have hf' : middle.volume.file? path = some data := by
      rw [← hm]
      exact hf
    refine .bind ((leads_writeChunks drive drive.patience bytes ho' hf' 0 0).imp ?_)
    rintro result last sent ⟨count, hland, hvalue⟩
    have hall : Landed core path data bytes count
        ([Command.write.opcode, Command.status.opcode] ++ ([] ++ sent)) last :=
      hland.after_command hb (by decide)
    rcases result with stop | ⟨written, chunks⟩
    · exact ⟨count, hall, by simp⟩
    · have hw := hvalue _ rfl
      rw [Nat.zero_add] at hw
      rw [← List.append_nil sent] at hall
      dsimp only
      -- Whether the write is short is only said.
      split
      · exact leads_say_bind.2 (leads_say_bind.2
          (leads_done ⟨count, hall, fun _ hr => (Except.ok.inj hr).symm.trans hw⟩))
      · exact leads_say_bind.2
          (leads_done ⟨count, hall, fun _ hr => (Except.ok.inj hr).symm.trans hw⟩)

end Write

/-! ## A chip that was not prepared -/

section Plain

variable {drive : Drive}

/-- A chip that was not prepared asks for the largest chunks until all was stored. -/
theorem leads_writeChunks_plain (hp : 0 < drive.patience) (rounds : Nat) {bytes : List UInt8}
    (hb : 0 < bytes.length) (hl : bytes.length ≤ rounds * Command.maxChunk) {core : Core}
    (hj : core.injected = []) (hs : core.chunkScript = []) (hw : core.writeLeft = bytes.length)
    (written chunks : Nat) :
    Leads (drive.writeChunks rounds bytes written chunks) core fun result _ sent =>
      (∃ total, result = .ok (written + bytes.length, total)) ∧
        sent.count Command.writeBuffer.opcode =
          (bytes.length + Command.maxChunk - 1) / Command.maxChunk := by
  induction rounds generalizing bytes core written chunks with
  | zero => omega
  | succ rounds ih =>
    have ha : core.askedSize = min bytes.length Command.maxChunk := by
      rw [Core.askedSize_nil hs, hw]
    rw [Drive.writeChunks]
    refine .bind (leads_writeChunk bytes (fun ho => ?_) fun _ => ?_)
    · omega
    · generalize hm : (core.took (bytes.take core.askedSize)).scripted core.chunkScript.tail = middle
      have hj' : middle.injected = [] := by
        rw [← hm]
        exact hj
      have hs' : middle.chunkScript = [] := by
        rw [← hm]
        exact congrArg List.tail hs
      have hw' : middle.writeLeft = bytes.length - Command.maxChunk := by
        have hz : (bytes.take core.askedSize).length = core.askedSize := by
          rw [List.length_take]
          omega
        rw [← hm]
        show core.writeLeft - (bytes.take core.askedSize).length = _
        omega
      have hc (more : List UInt8) :
          ([Command.writeBuffer.opcode] ++
            ([Command.writeMore.opcode, Command.status.opcode] ++ more)).count
              Command.writeBuffer.opcode = more.count Command.writeBuffer.opcode + 1 := by
        simp [Command.opcode]
      have hstall {result : Prop} (_ : drive.config.statusMode = .interrupt)
          (hz : drive.patience = 0) : result := by
        omega
      rw [Nat.succ_mul] at hl
      dsimp only
      rw [← bind_assoc]
      by_cases hn : bytes.length ≤ Command.maxChunk
      -- The chunk is the last.
      · have hx : Raises .writeMore [] middle .success middle :=
          raises_writeMore (if_neg (by omega))
        refine .bind (leads_learn drive rfl hx ?_ hstall)
        rw [Core.shown_plain hj' _ rfl]
        refine leads_done ⟨⟨chunks + 1, ?_⟩, ?_⟩
        · rw [ha, Nat.min_eq_left hn]
        · rw [hc, List.count_nil]
          simp only [Command.maxChunk] at hn ⊢
          omega
      · have hx : Raises .writeMore [] middle .writePending middle :=
          raises_writeMore (if_pos (by omega))
        have hd : (bytes.drop core.askedSize).length = bytes.length - Command.maxChunk := by
          rw [List.length_drop]
          omega
        refine .bind (leads_learn drive rfl hx ?_ hstall)
        rw [Core.shown_plain hj' _ rfl, Core.drawn_plain hj']
        refine (ih (by omega) (by omega) hj' hs' (by omega) _ _).imp ?_
        rintro result last sent ⟨⟨total, rfl⟩, hcount⟩
        refine ⟨⟨total, ?_⟩, ?_⟩
        · rw [hd, ha, Nat.min_eq_right (by omega), Nat.add_assoc, Nat.add_sub_of_le (by omega)]
        · rw [hc, hcount, hd]
          simp only [Command.maxChunk] at hn ⊢
          omega

/-- Data that fits in one transfer is written whole, in as few chunks as can be. -/
theorem leads_write_plain {bytes : List UInt8} (hl : bytes.length ≤ Command.maxTransfer)
    (hr : bytes.length ≤ drive.patience * Command.maxChunk) {core : Core}
    (ho : core.openFile.isSome = true) (hj : core.injected = []) (hs : core.chunkScript = []) :
    Leads (drive.write bytes) core fun result _ sent =>
      result = .ok bytes.length ∧ sent.count Command.writeBuffer.opcode =
        (bytes.length + Command.maxChunk - 1) / Command.maxChunk := by
  rw [Drive.write, leads_say_bind]
  by_cases hz : bytes.length = 0
  · rw [if_pos hz, hz]
    exact leads_say_bind.2 (leads_done ⟨rfl, rfl⟩)
  · have hp : 0 < drive.patience := by
      refine Nat.pos_of_ne_zero fun hn => ?_
      rw [hn, Nat.zero_mul] at hr
      omega
    have hx := raises_write ho hl
    have hj' : (core.writing bytes.length).injected = [] := hj
    have hc : Drive.checkSize bytes.length = done () := if_neg (Nat.not_lt.2 hl)
    have he : Drive.expectStatus .write .writePending .writePending = done () := if_pos rfl
    rw [if_neg hz, hc, done_bind]
    refine .bind (leads_commandStatus drive rfl hx ?_ fun _ hn => absurd hn (Nat.ne_of_gt hp))
    rw [Core.shown_plain hj' _ rfl, Core.drawn_plain hj']
    dsimp only
    rw [he, done_bind]
    refine .bind ((leads_writeChunks_plain hp drive.patience (Nat.pos_of_ne_zero hz) hr hj' hs rfl
      0 0).imp ?_)
    rintro _ last sent ⟨⟨total, rfl⟩, hcount⟩
    dsimp only
    rw [Nat.zero_add, if_neg (fun hn => hn rfl)]
    refine leads_say_bind.2 (leads_done ⟨rfl, ?_⟩)
    rw [← hcount]
    simp [Command.opcode]

end Plain

/-- **What a write leaves.** Let a file be open on a chip, with any statuses injected and any sizes
of chunks prescribed, and let a write end in whatever way. Then the cursor has moved by as many bytes
as were stored, a front of the data. If a chunk was handed over at all, the file is extended by zeros
to the end of what was stored, and holds that at the old cursor; else it is as before. No other node
has changed, nor where the chip stands. A write that succeeds returns how many bytes were stored. On
a chip that was not prepared, data that fits in one transfer is stored whole, in as few chunks as
can be, if the drive has patience for so many. -/
theorem write_leaves_acknowledged (drive : Drive) (chip : Chip) (path : Path)
    (file data : List UInt8) (ho : chip.openFile = some path)
    (hf : chip.volume.file? path = some file) (journal : Journal) :
    let ran := (drive.write data).run Chip.device chip journal
    ∃ count ≤ data.length, ∃ sent,
      let extended := file ++ List.replicate (chip.cursor + count - file.length) 0
      ran.state.opcodes = chip.opcodes ++ sent ∧
        ran.state.cursor = chip.cursor + count ∧
        (∀ other, ran.state.volume.get? other =
          if other = path then
            some (.file
              (if Command.writeBuffer.opcode ∈ sent then
                extended.take chip.cursor ++ data.take count ++ extended.drop (chip.cursor + count)
              else file))
          else chip.volume.get? other) ∧
        ran.state.directory = chip.directory ∧ ran.state.selected = chip.selected ∧
        ran.state.openFile = chip.openFile ∧
        (∀ number, ran.result = .ok number → number = count) ∧
        (chip.injected = [] → chip.chunkScript = [] → data.length ≤ Command.maxTransfer →
          data.length ≤ drive.patience * Command.maxChunk →
          ran.result = .ok data.length ∧ sent.count Command.writeBuffer.opcode =
            (data.length + Command.maxChunk - 1) / Command.maxChunk) := by
  intro ran
  obtain ⟨result, last, sent, hrun, hsent, count, hland, hvalue⟩ :=
    leads_write drive data (show chip.core.openFile = some path from ho) hf chip rfl
  obtain ⟨hr, hs⟩ : ran.result = result ∧ ran.state = last := run_of_outcome hrun journal
  have hle := hland.count_le
  obtain ⟨hdirectory, hselected, hopen, hcursor⟩ := hland.place
  have hg := hland.get?_eq hf
  have hw := splice_eq_overwrite file (data.take count) chip.cursor
  rw [List.length_take_of_le hle] at hw
  rw [hr, hs]
  refine ⟨count, hle, sent, hsent, hcursor, fun other => ?_, hdirectory, hselected, hopen, hvalue,
    fun hj hc hl hp => ?_⟩
  · rw [← hw]
    exact hg other
  · exact (leads_write_plain hl hp (Option.isSome_of_mem ho) hj hc).of_outcome rfl hrun hsent

/-- Five bytes for a file of two, with the cursor two behind its end. The chip takes two bytes and
then none, and then asks for more than are left: the gap is filled, and the two bytes stand behind
it. -/
theorem write_leaves_acknowledged_overrun :
    let drive : Drive := { config := {}, patience := 4 }
    let chip : Chip :=
      { attached := true
        volume := ⟨[(['/', 'F'], .file [1, 2])]⟩
        openFile := some ['/', 'F']
        cursor := 4
        chunkScript := [2, 0, 300]
        injected := [(Command.writeMore.opcode, Status.writePending.byte)] }
    chip.openFile = some ['/', 'F'] ∧ chip.volume.file? ['/', 'F'] = some [1, 2] ∧
      ∃ ran, (drive.write [5, 6, 7, 8, 9]).run Chip.device chip [] = ran ∧
        ran.result.toOption = none ∧ ran.state.cursor = 6 ∧
        ran.state.volume.get? ['/', 'F'] = some (.file [1, 2, 0, 0, 5, 6]) := by
  intro drive chip
  have hf : chip.volume.file? ['/', 'F'] = some [1, 2] := by decide
  have hr : ((drive.write [5, 6, 7, 8, 9]).run Chip.device chip []).result.toOption = none := by
    decide
  have hc : ((drive.write [5, 6, 7, 8, 9]).run Chip.device chip []).state.cursor = 6 := by decide
  have ho : ((drive.write [5, 6, 7, 8, 9]).run Chip.device chip []).state.opcodes =
      [0x3c, 0x22, 0x2d, 0x3d, 0x22, 0x2d, 0x3d, 0x22, 0x2d] := by decide
  obtain ⟨count, -, sent, hs, hn, hv, -⟩ :=
    write_leaves_acknowledged drive chip ['/', 'F'] [1, 2] [5, 6, 7, 8, 9] rfl hf []
  rw [hc] at hn
  obtain rfl : count = 2 := by
    have : 6 = 4 + count := hn
    omega
  rw [ho] at hs
  obtain rfl : _ = sent := hs
  have hfile := hv ['/', 'F']
  rw [if_pos rfl, if_pos (by decide)] at hfile
  exact ⟨rfl, hf, _, rfl, hr, hc, hfile⟩

end DiskBridge.Chip

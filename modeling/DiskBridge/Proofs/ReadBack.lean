import DiskBridge.Drive.Session
import DiskBridge.Proofs.FileTree
import DiskBridge.Proofs.Transfers

/-!
# Files read back as they were written

Data written to a file in any pieces is what the file holds, and what is read from it in any pieces.
Each piece crosses the bus in chunks of its own, and the cursor carries over from one piece to the
next.

1. A session plays its actions one after the other (`Plays`).
2. A file that is created is open at its start (`takes_createPath`), and so is one that is opened
   again (`takes_openPath`).
3. By induction over the pieces, they are written behind one another (`plays_writes`) and read from
   behind one another (`plays_reads`).

`session_reads_back` puts them together.
-/

namespace DiskBridge.Drive

open Dialogue Chip

/-! ## Sessions -/

/-- A drive performs actions one after the other and none stalls. They take each chip with the core
`before` to one with the core `after`. -/
inductive Plays (drive : Drive) : List Action → Core → List Report → Core → Prop
  | nil (core : Core) : Plays drive [] core [] core
  | cons {action : Action} {actions : List Action} {before middle after : Core} {report : Report}
      {reports : List Report} :
      Takes (drive.perform action : Dialogue Bus Empty Report) before (.ok report) middle →
        report.stalled = false → Plays drive actions middle reports after →
        Plays drive (action :: actions) before (report :: reports) after

section Plays

variable {drive : Drive} {before middle after : Core}

theorem Plays.append {first last : List Action} {reports others : List Report}
    (hf : Plays drive first before reports middle) (hl : Plays drive last middle others after) :
    Plays drive (first ++ last) before (reports ++ others) after := by
  induction hf with
  | nil => exact hl
  | cons h hs _ ih => exact .cons h hs (ih hl)

/-- What a session plays is how it runs. -/
theorem Plays.takes {actions : List Action} {reports : List Report}
    (h : Plays drive actions before reports after) :
    Takes (drive.session actions : Dialogue Bus Empty (List Report)) before (.ok reports)
      after := by
  induction h with
  | nil core => exact takes_done [] core
  | cons h hs _ ih =>
    rw [session]
    refine h.bind ?_
    rw [if_neg (Bool.eq_false_iff.1 hs)]
    exact ih.bind (takes_done _ _)

theorem takes_report {α : Type} {operation : Operation α} {result : Except Stop α}
    (h : Takes operation before result after) (value : α → Value) :
    Takes (report operation value : Dialogue Bus Empty Report) before
      (.ok { result := result.map value }) after :=
  h.attempt.bind (takes_done _ _)

end Plays

/-! ## The file -/

section Route

variable {drive : Drive} (hp : drive.config.statusMode = .interrupt → 0 < drive.patience)
  (route : Route) (core : Core) (hj : core.injected = []) (hs : core.chunkScript = [])
  (hd : ∀ path, route.Above path → core.volume.isDirectory path = true)

include hp hj hs hd

/-- A file that is created is open at its start. -/
theorem takes_createPath (hn : core.volume.get? route.path ≠ some .directory) :
    ∃ after, Takes (drive.createPath route.text) core (.ok ()) after ∧
      after.Streams route.path [0] ∧ after.cursor = 0 ∧
      ∀ other, other ≠ route.path → after.volume.get? other = core.volume.get? other := by
  refine ⟨created core route, takes_createPath_created hp route core hj hd hn,
    ⟨rfl, Volume.file?_insert _ _ _, hj, hs⟩, rfl, fun other ho => ?_⟩
  exact (Volume.get?_insert ..).trans (if_neg ho)

/-- A file that is opened again is open at its start. -/
theorem takes_openPath {data : List UInt8} (hf : core.volume.file? route.path = some data) :
    ∃ after, Takes (drive.openPath route.text) core (.ok ⟨false⟩) after ∧
      after.Streams route.path data ∧ after.cursor = 0 ∧ after.volume = core.volume := by
  have hr := route.path_ne_root
  obtain ⟨middle, ht, hc, hk⟩ := takes_selectPath hp route core hj hd
  rw [← hc] at hr
  rw [← hc, ← hk.volume] at hf ⊢
  have hm : middle.volume.isDirectory middle.path = false := by
    obtain ⟨_, hg⟩ := Volume.isSome_file?_iff.1 (Option.isSome_of_mem hf)
    simp [Volume.isDirectory, hr, hg]
  exact ⟨_, ht.bind (takes_open_file hp (hk.injected.trans hj) hm hf),
    ⟨rfl, hf, hk.injected.trans hj, hk.chunkScript.trans hs⟩, rfl, rfl⟩

end Route

/-! ## The pieces -/

section Pieces

variable {drive : Drive} (hp : drive.config.statusMode = .interrupt → 0 < drive.patience)
  (hr : Command.maxTransfer ≤ drive.patience * Command.maxChunk) {path : Path}

include hp hr

/-- Pieces are written behind one another. -/
theorem plays_writes {pieces : List (List UInt8)}
    (hl : ∀ piece ∈ pieces, 0 < piece.length ∧ piece.length ≤ Command.maxTransfer) {core : Core}
    {data : List UInt8} (h : core.Streams path data) (hc : core.cursor ≤ data.length) :
    ∃ after, Plays drive (pieces.map Action.write) core
        (pieces.map fun piece => { result := .ok (.count piece.length) }) after ∧
      after.Streams path (splice data pieces.flatten core.cursor) ∧
      ∀ other, other ≠ path → after.volume.get? other = core.volume.get? other := by
  induction pieces generalizing core data with
  | nil =>
    rw [List.flatten_nil, splice_nil hc]
    exact ⟨core, .nil core, h, fun _ _ => rfl⟩
  | cons piece rest ih =>
    obtain ⟨⟨hn, hm⟩, hl⟩ := List.forall_mem_cons.1 hl
    obtain ⟨after, hk, ha, ho⟩ :=
      ih hl ((h.writing piece.length).stored piece) (length_splice hc piece)
    refine ⟨after, .cons (takes_report (takes_write hp hr hn hm h) .count) rfl hk, ?_, ?_⟩
    · rw [List.flatten_cons, ← splice_splice]
      exact ha
    · intro other hne
      rw [ho other hne]
      exact (Volume.get?_insert ..).trans (if_neg hne)

/-- A read that the file has enough for fills its buffer. -/
theorem takes_readInto {buffer : List UInt8} (hn : 0 < buffer.length)
    (hl : buffer.length ≤ Command.maxTransfer) {core : Core} {data : List UInt8}
    (h : core.Streams path data) (hd : core.cursor + buffer.length ≤ data.length) :
    Takes (drive.readInto buffer : Dialogue Bus Empty Report) core
      (.ok { result := .ok (.count buffer.length)
             buffer := (data.drop core.cursor).take buffer.length })
      ((core.reading buffer.length).fetched buffer.length) := by
  have ht : ((data.drop core.cursor).take buffer.length).length = buffer.length := by
    rw [List.length_take, List.length_drop]
    omega
  refine (takes_read hp hr hn hl h hd).attempt.bind ?_
  dsimp only
  rw [overlay, ht, List.drop_length, List.append_nil]
  exact takes_done _ _

/-- Pieces are read from behind one another. -/
theorem plays_reads {buffers : List (List UInt8)}
    (hb : ∀ buffer ∈ buffers, 0 < buffer.length ∧ buffer.length ≤ Command.maxTransfer) {core : Core}
    {data : List UInt8} (h : core.Streams path data)
    (hd : core.cursor + buffers.flatten.length ≤ data.length) :
    ∃ (filled : List (List UInt8)) (after : Core), Plays drive (buffers.map Action.read) core
        (filled.map fun buffer => { result := .ok (.count buffer.length), buffer }) after ∧
      filled.map List.length = buffers.map List.length ∧
      filled.flatten = (data.drop core.cursor).take buffers.flatten.length ∧
      after.volume = core.volume := by
  induction buffers generalizing core with
  | nil => exact ⟨[], core, .nil core, rfl, rfl, rfl⟩
  | cons buffer rest ih =>
    obtain ⟨⟨hn, hm⟩, hb⟩ := List.forall_mem_cons.1 hb
    rw [List.flatten_cons, List.length_append] at hd ⊢
    let front := (data.drop core.cursor).take buffer.length
    have hf : front.length = buffer.length := by
      rw [List.length_take, List.length_drop]
      omega
    have hc := takes_readInto hp hr hn hm h (by omega)
    obtain ⟨filled, after, hk, hl, hw, hv⟩ :=
      ih hb ((h.reading buffer.length).fetched buffer.length)
        (show core.cursor + buffer.length + _ ≤ _ by omega)
    refine ⟨front :: filled, after, ?_, ?_, ?_, hv⟩
    · rw [List.map_cons, List.map_cons, hf]
      exact .cons hc rfl hk
    · rw [List.map_cons, List.map_cons, hf, hl]
    · rw [List.flatten_cons, hw, List.take_add, List.drop_drop]
      rfl

end Pieces

/-! ## The whole -/

section Whole

variable {drive : Drive} (hp : drive.config.statusMode = .interrupt → 0 < drive.patience)
  (hr : Command.maxTransfer ≤ drive.patience * Command.maxChunk) (route : Route) (core : Core)
  (hj : core.injected = []) (hs : core.chunkScript = [])
  (hd : ∀ path, route.Above path → core.volume.isDirectory path = true)

include hp hr hj hs hd

/-- What the pieces put together are is what a file that is created holds in the end. -/
theorem plays_store (hn : core.volume.get? route.path ≠ some .directory)
    {pieces : List (List UInt8)} (hk : pieces ≠ [])
    (hl : ∀ piece ∈ pieces, 0 < piece.length ∧ piece.length ≤ Command.maxTransfer) :
    ∃ after, Plays drive
        ([Action.createPath route.text] ++ pieces.map Action.write ++ [Action.close]) core
        ([{ result := .ok .nothing }] ++
          pieces.map (fun piece => { result := .ok (.count piece.length) }) ++
          [{ result := .ok .nothing }]) after ∧
      after.volume.file? route.path = some pieces.flatten ∧
      (∀ other, other ≠ route.path → after.volume.get? other = core.volume.get? other) ∧
      after.injected = [] ∧ after.chunkScript = [] := by
  have hlen : [(0 : UInt8)].length ≤ pieces.flatten.length := by
    obtain ⟨piece, rest, rfl⟩ := List.exists_cons_of_ne_nil hk
    have := (hl piece List.mem_cons_self).1
    rw [List.flatten_cons, List.length_append, List.length_singleton]
    omega
  obtain ⟨created, hc, hf, hz, ho⟩ := takes_createPath hp route core hj hs hd hn
  obtain ⟨written, hw, hp', hq⟩ := plays_writes hp hr hl hf (hz ▸ Nat.zero_le _)
  rw [hz, splice_zero hlen] at hp'
  have hfirst : Plays drive [.createPath route.text] core [{ result := .ok .nothing }] created :=
    .cons (takes_report hc fun _ => .nothing) rfl (.nil created)
  have hlast : Plays drive [.close] written [{ result := .ok .nothing }]
      { written with openFile := none } :=
    .cons (takes_report (takes_close hp hp'.injected) fun _ => .nothing) rfl (.nil _)
  refine ⟨_, (hfirst.append hw).append hlast, hp'.file, ?_, hp'.injected, hp'.chunkScript⟩
  intro other hne
  exact (hq other hne).trans (ho other hne)

/-- What a file holds is what is read from it. -/
theorem plays_load {data : List UInt8} (hf : core.volume.file? route.path = some data)
    {buffers : List (List UInt8)}
    (hb : ∀ buffer ∈ buffers, 0 < buffer.length ∧ buffer.length ≤ Command.maxTransfer)
    (ht : buffers.flatten.length ≤ data.length) :
    ∃ (filled : List (List UInt8)) (after : Core),
      Plays drive ([Action.openPath route.text, Action.fileSize] ++ buffers.map Action.read) core
        ([{ result := .ok (.opened ⟨false⟩) },
          { result := .ok (.size (UInt32.ofNat data.length)) }] ++
          filled.map fun buffer => { result := .ok (.count buffer.length), buffer }) after ∧
      filled.map List.length = buffers.map List.length ∧
      filled.flatten = data.take buffers.flatten.length ∧ after.volume = core.volume := by
  obtain ⟨opened, ho, hm, hz, hv⟩ := takes_openPath hp route core hj hs hd hf
  obtain ⟨filled, after, hk, hl, hw, ha⟩ :=
    plays_reads hp hr hb hm (by rw [hz, Nat.zero_add]; exact ht)
  rw [hz, List.drop_zero] at hw
  exact ⟨filled, after, .cons (takes_report ho _) rfl
    (.cons (takes_report (takes_fileSize hm) _) rfl hk), hl, hw, ha.trans hv⟩

end Whole

/-- **Reading back.** On any chip that decides on its own about statuses and the sizes of chunks,
let a path lead through directories to no directory, and let the drive have the patience for the
longest transfer. A session creates the file, writes pieces to it, closes and opens it, asks for its
size and reads into buffers that the data is enough for. Every action succeeds and moves all it was
asked to, the file holds the pieces put together, no other node has changed, and the buffers, put
together, hold the data from its start. -/
theorem session_reads_back (drive : Drive)
    (hr : Command.maxTransfer ≤ drive.patience * Command.maxChunk) (route : Route) (chip : Chip)
    (hj : chip.injected = []) (hs : chip.chunkScript = [])
    (hd : ∀ path, route.Above path → chip.volume.isDirectory path = true)
    (hn : chip.volume.get? route.path ≠ some .directory) (pieces : List (List UInt8))
    (hk : pieces ≠ [])
    (hl : ∀ piece ∈ pieces, 0 < piece.length ∧ piece.length ≤ Command.maxTransfer)
    (buffers : List (List UInt8))
    (hb : ∀ buffer ∈ buffers, 0 < buffer.length ∧ buffer.length ≤ Command.maxTransfer)
    (ht : buffers.flatten.length ≤ pieces.flatten.length) (journal : Journal) :
    let data := pieces.flatten
    let actions := [Action.createPath route.text] ++ pieces.map Action.write ++ [Action.close] ++
      ([Action.openPath route.text, Action.fileSize] ++ buffers.map Action.read)
    let ran :=
      (drive.session actions : Dialogue Bus Empty (List Report)).run Chip.device chip journal
    (∃ filled : List (List UInt8),
      ran.result = .ok ([{ result := .ok .nothing }] ++
        pieces.map (fun piece => { result := .ok (.count piece.length) }) ++
        [{ result := .ok .nothing }] ++
        ([{ result := .ok (.opened ⟨false⟩) },
          { result := .ok (.size (UInt32.ofNat data.length)) }] ++
          filled.map fun buffer => { result := .ok (.count buffer.length), buffer })) ∧
      filled.map List.length = buffers.map List.length ∧
      filled.flatten = data.take buffers.flatten.length) ∧
    ∀ other, ran.state.volume.get? other =
      if other = route.path then some (.file data) else chip.volume.get? other := by
  intro data actions ran
  have hp : drive.config.statusMode = .interrupt → 0 < drive.patience := by
    intro _
    apply Nat.pos_of_ne_zero
    intro hz
    rw [hz, Nat.zero_mul] at hr
    cases hr
  obtain ⟨stored, hw, hf, ho, hj', hs'⟩ := plays_store hp hr route chip.core hj hs hd hn hk hl
  -- No directory above the path is the path itself, so each is still there.
  have hd' : ∀ path, route.Above path → stored.volume.isDirectory path = true := by
    intro path ha
    have hne : path ≠ route.path := by
      rintro rfl
      rcases Volume.isDirectory_iff.1 (hd _ ha) with h | h
      · exact route.path_ne_root h
      · exact hn h
    rw [Volume.isDirectory, ho path hne]
    exact hd path ha
  obtain ⟨filled, after, hl', hm, hd'', hv⟩ :=
    plays_load hp hr route stored hj' hs' hd' hf hb ht
  obtain ⟨last, hrun, hc, -⟩ := (hw.append hl').takes chip rfl
  obtain ⟨hres, hstate⟩ := run_of_outcome hrun journal
  refine ⟨⟨filled, hres, hm, hd''⟩, fun other => ?_⟩
  have hvol : ran.state.volume = stored.volume := by
    rw [hstate]
    exact (congrArg Core.volume hc).trans hv
  rw [hvol]
  split
  · next he =>
    obtain ⟨_, hg⟩ := Volume.isSome_file?_iff.1 (Option.isSome_of_mem hf)
    rw [Volume.file?, hg] at hf
    cases hf
    rw [he, hg]
  · next he => exact ho other he

/-- Two pieces take the place of a longer file, beside another of that name in the root. They are
read back in two buffers that meet in the first piece. -/
theorem session_reads_back_shifted :
    let drive : Drive := { config := {}, patience := 257 }
    let route : Route := ⟨['L'], [['B']], by decide, by decide, by decide⟩
    let chip : Chip :=
      { attached := true
        mounted := true
        volume := ⟨[(['/', 'L'], .directory), (['/', 'L', '/', 'B'], .file [7, 8, 9, 7, 8]),
          (['/', 'B'], .file [4])]⟩ }
    let pieces : List (List UInt8) := [[1, 2, 3], [4]]
    let buffers : List (List UInt8) := [[0, 0], [0, 0]]
    (∀ path, route.Above path → chip.volume.isDirectory path = true) ∧
      (∀ piece ∈ pieces, 0 < piece.length ∧ piece.length ≤ Command.maxTransfer) ∧
      (∀ buffer ∈ buffers, 0 < buffer.length ∧ buffer.length ≤ Command.maxTransfer) ∧
      ∃ ran, ran = (drive.session
          ([Action.createPath route.text] ++ pieces.map Action.write ++ [Action.close] ++
            ([Action.openPath route.text, Action.fileSize] ++ buffers.map Action.read)) :
            Dialogue Bus Empty (List Report)).run Chip.device chip [] ∧
        (∃ reports others, ran.result = .ok (reports ++ others) ∧
          (others.map Report.buffer).flatten = [1, 2, 3, 4]) ∧
        ran.state.volume.get? ['/', 'L', '/', 'B'] = some (.file [1, 2, 3, 4]) ∧
        ran.state.volume.get? ['/', 'B'] = some (.file [4]) := by
  intro drive route chip pieces buffers
  have hd : ∀ path, route.Above path → chip.volume.isDirectory path = true := by
    rintro _ ⟨count, hc, rfl⟩
    obtain rfl : count = 0 := Nat.lt_one_iff.1 hc
    rfl
  have hl : ∀ piece ∈ pieces, 0 < piece.length ∧ piece.length ≤ Command.maxTransfer := by decide
  have hb : ∀ buffer ∈ buffers, 0 < buffer.length ∧ buffer.length ≤ Command.maxTransfer := by decide
  obtain ⟨⟨filled, hr, -, hf⟩, hv⟩ := session_reads_back drive (by decide) route chip rfl rfl hd
    (by decide) pieces (List.cons_ne_nil _ _) hl buffers hb (Nat.le_refl 4) []
  refine ⟨hd, hl, hb, _, rfl, ⟨_, _, hr, ?_⟩, hv _, hv _⟩
  rw [List.map_append, List.map_map]
  exact (congrArg List.flatten (List.map_id filled)).trans hf

end DiskBridge.Drive

import DiskBridge.Proofs.Courses
import DiskBridge.Proofs.ReadBack
import DiskBridge.Proofs.ReceivedBytes

/-!
# Reads at any offset

A drive and a chip keep count of a read each for itself: the drive of the room in its buffer, the
chip of its cursor and of what it has still to hand over. They agree whatever chunks are prescribed,
so what a read returns depends on the file and the cursor alone.

1. The cursor is where it is set to (`takes_seek`), past the end of the file too.
2. What a dialogue does on the chip, it does in every conversation with it (`Takes.conversation`).
3. So the transactions that fetch a chunk are counted along the parts of a read (`Fetches.bind`),
   and they are as many as the largest chunks make of it (`fetches_read`).

`read_at_offset` puts them together.
-/

namespace DiskBridge

open Dialogue Bus

namespace Chip

/-! ## Conversations with a chip -/

section Conversation

variable {chip last : Chip} {events : List (Event Bus)}

theorem core_scripted (chip : Chip) (sizes : List Nat) :
    core { chip with chunkScript := sizes } = chip.core.scripted sizes := rfl

/-- A conversation with the chip ends as the dialogue does on it. -/
theorem Takes.conversation {ε α : Type} {dialogue : Dialogue Bus ε α} {result other : Except ε α}
    {before after : Core} (h : Takes dialogue before result after) (hc : chip.core = before)
    (ht : Transcript dialogue events other) (ha : Answers device chip events last) :
    other = result ∧ last.core = after := by
  obtain ⟨_, ho, hl, -⟩ := h chip hc
  cases (outcome_of_transcript ht ha).symm.trans ho
  exact ⟨rfl, hl⟩

theorem Takes.recorded {ε α : Type} {dialogue : Dialogue Bus ε α} {result : Except ε α}
    {before after : Core} (h : Takes dialogue before result after) (hc : chip.core = before)
    (journal : Journal) :
    let ran := dialogue.run device.recorded (chip, []) journal
    ran.result = result ∧ ran.state.1.core = after := by
  obtain ⟨ht, ha⟩ := transcript_recorded device dialogue chip journal
  exact h.conversation hc ht ha.of_recorded

theorem calm_of_device (h : Answers device chip events last) : Calm events := by
  intro event he fault
  rw [(granted_of_device h event he).failure?_eq_none]
  exact nofun

end Conversation

end Chip

namespace Bus

open Chip

/-! ## Chunks that are fetched -/

/-- The number of transactions that fetch a chunk. -/
def fetches (blocks : List Block) : Nat :=
  blocks.countP fun block => command? block = some .readBuffer

section Fetches

variable {ε α β : Type} {before middle after : Core}

/-- In every conversation with a chip with the core, the dialogue fetches so many chunks. -/
def Fetches (dialogue : Dialogue Bus ε α) (core : Core) (count : Nat) : Prop :=
  ∀ (chip last : Chip) (events : List (Event Bus)) (result : Except ε α), chip.core = core →
    Transcript dialogue events result → Answers device chip events last →
    Bracketed events ∧ fetches (transactions events) = count

theorem fetches_done (value : α) (core : Core) :
    Fetches (done value : Dialogue Bus ε α) core 0 := by
  rintro chip last _ _ - ⟨⟩ -
  exact ⟨.nil, rfl⟩

theorem fetches_say_bind {level : Level} {text : String} {next : Unit → Dialogue Bus ε α}
    {count : Nat} (h : Fetches (next ()) before count) :
    Fetches (say level text >>= next) before count := by
  intro chip last events result hc ht
  obtain _ | _ | ht := ht
  exact h chip last events result hc ht

theorem Fetches.bind {first : Dialogue Bus ε α} {next : α → Dialogue Bus ε β} {value : α}
    {count more : Nat} (hf : Fetches first before count)
    (ht : Takes first before (.ok value) middle) (hn : Fetches (next value) middle more) :
    Fetches (first >>= next) before (count + more) := by
  intro chip last events result hc hd ha
  rcases transcript_bind hd with ⟨cause, -, hd⟩ | ⟨other, earlier, later, rfl, hd, hl⟩
  · cases (ht.conversation hc hd ha).1
  · obtain ⟨half, ha, hb⟩ := answers_append_iff.1 ha
    obtain ⟨⟨⟩, hm⟩ := ht.conversation hc hd ha
    obtain ⟨hk, hf⟩ := hf _ _ _ _ hc hd ha
    obtain ⟨hl, hn⟩ := hn _ _ _ _ hm hl hb
    rw [transactions_append hk, fetches, List.countP_append]
    exact ⟨hk.append hl, congrArg₂ (· + ·) hf hn⟩

/-- The chunks that a dialogue conveys are those it fetches. -/
theorem fetches_of_conveying {view : ε → Stop} {room : Nat} {P : Except ε α → List Parcel → Prop}
    {dialogue : Dialogue Bus ε α} {value : α} {count : Nat}
    (h : Conveying .readBuffer Prod.snd view room P dialogue)
    (ht : Takes dialogue before (.ok value) after)
    (hp : ∀ parcels, P (.ok value) parcels → parcels.length = count) :
    Fetches dialogue before count := by
  intro chip last events result hc hd ha
  obtain ⟨rfl, -⟩ := ht.conversation hc hd ha
  obtain ⟨hb, hv, hr⟩ := h _ _ hd (calm_of_device ha)
  exact ⟨hb, hv.countP_command.trans (hp _ hr)⟩

end Fetches

end Bus

namespace Drive

open Chip

section Offset

variable {drive : Drive} (hp : drive.config.statusMode = .interrupt → 0 < drive.patience)
  {core : Core}

include hp

/-- The cursor is set to any offset of an open file. -/
theorem takes_seek (ho : core.openFile.isSome = true) (hj : core.injected = []) (offset : UInt32) :
    Takes (drive.seek offset) core (.ok ()) { core with cursor := offset.toNat } := by
  have hx : Raises .locate (littleEndian 4 offset.toNat) core .success
      { core with cursor := offset.toNat } := by
    rintro chip rfl
    refine ⟨{ chip with cursor := offset.toNat }, ?_, rfl⟩
    show chip.executeLocate _ = _
    rw [executeLocate, argument_littleEndian _ offset.toNat_lt]
    exact if_pos ho
  rw [seek, takes_say_bind]
  exact takes_simpleCommand hp rfl rfl hx hj

/-- If no chunks are prescribed, each that is fetched is as large as can be. -/
theorem fetches_read {size : Nat} (hl : size ≤ Command.maxTransfer) {path : Path}
    {data : List UInt8} (h : core.Serves path data) {left : Nat}
    (hm : min size (data.length - core.cursor) = left) (hn : 0 < left)
    (hc : (core.reading left).Paced drive.patience) (hs : core.chunkScript = []) :
    Fetches (drive.read size) core ((left + Command.maxChunk - 1) / Command.maxChunk) := by
  obtain ⟨total, rest, ht, -, hk⟩ := takes_readChunks hp drive.patience (h.reading left) hc hn
    (show core.cursor + left ≤ data.length by omega)
    (show ([] : List UInt8).length + left ≤ size by rw [List.length_nil]; omega) 0
  have hk : total = (left + Command.maxChunk - 1) / Command.maxChunk :=
    (hk hs).trans (Nat.zero_add _)
  have hstart := (takes_startRead hp hl h hm hn).mapFailure (Cut.mk [])
  have hfirst : Fetches _ core 0 :=
    fetches_of_conveying (conveying_interlude (concludes_startRead drive size) size []) hstart
      fun parcels h => congrArg List.length h.1
  have hrest : Fetches _ (core.reading left) total :=
    fetches_of_conveying (conveying_readChunks drive size drive.patience [] 0) ht
      fun parcels h => (Nat.zero_add _).symm.trans (h.2 _ rfl).symm
  rw [read, ← hk, show total = 0 + (total + 0) from (Nat.zero_add total).symm]
  refine fetches_say_bind ?_
  rw [if_neg (by omega)]
  refine hfirst.bind hstart (hrest.bind ht ?_)
  dsimp only
  split
  · exact fetches_say_bind (fetches_say_bind (fetches_done _ _))
  · exact fetches_say_bind (fetches_done _ _)

end Offset

/-- A read into a buffer ends as the read does. -/
theorem takes_readInto_of_read {drive : Drive} {buffer : List UInt8} {before after : Core}
    {result : Except Cut (List UInt8)} (h : Takes (drive.read buffer.length) before result after) :
    Takes (drive.readInto buffer : Dialogue Bus Empty Report) before
      (.ok { result := (result.map fun bytes => .count bytes.length).mapError Cut.stop
             buffer := overlay (held id result) buffer }) after := by
  refine h.attempt.bind ?_
  cases result <;> exact takes_done _ _

/-- **Random access.** On any chip with a file open that decides on its own about statuses, the
cursor is set to any offset and nothing else of the disk changes. Then let any chunks be prescribed,
and let a buffer that is not empty be read into in one transfer. From the end of the file on, the
chip has nothing to read, and buffer and cursor stay as they are. Before it, and if the chunks that
are prescribed are part of what can be read, all of that is read: it stands at the front of the
buffer, the rest of which is unchanged, the cursor is behind it, and the disk is unchanged. If none
are prescribed, the read takes as few chunks as it can. -/
theorem read_at_offset (drive : Drive)
    (hp : drive.config.statusMode = .interrupt → 0 < drive.patience) (chip : Chip) (path : Path)
    (data : List UInt8) (ho : chip.openFile = some path)
    (hf : chip.volume.file? path = some data) (hj : chip.injected = []) (offset : UInt32)
    (buffer : List UInt8) (hn : 0 < buffer.length) (hl : buffer.length ≤ Command.maxTransfer)
    (journal : Journal) :
    let sought := (drive.perform (.seek offset) : Dialogue Bus Empty Report).run Chip.device chip
      journal
    sought.result = .ok { result := .ok .nothing } ∧
      sought.state.core = { chip.core with cursor := offset.toNat } ∧
      ∀ script : List Nat,
        let ran := (drive.perform (.read buffer) : Dialogue Bus Empty Report).run
          Chip.device.recorded ({ sought.state with chunkScript := script }, []) sought.journal
        let count := min buffer.length (data.length - offset.toNat)
        (data.length ≤ offset.toNat →
          ran.result = .ok
              { result := .error (.error (.unexpectedStatus .read .success)), buffer } ∧
            ran.state.1.cursor = offset.toNat ∧ ran.state.1.volume = chip.volume) ∧
        (offset.toNat < data.length → (∀ size ∈ script, size ≤ Command.maxChunk) →
          script.sum ≤ count →
          script.length * Command.maxChunk + count ≤ drive.patience * Command.maxChunk →
          ran.result = .ok
              { result := .ok (.count count)
                buffer := (data.drop offset.toNat).take count ++ buffer.drop count } ∧
            ran.state.1.cursor = offset.toNat + count ∧ ran.state.1.volume = chip.volume ∧
            (script = [] → fetches (Bus.transactions ran.state.2.reverse) =
              (count + Command.maxChunk - 1) / Command.maxChunk)) := by
  intro sought
  have hopen : chip.core.openFile.isSome = true := Option.isSome_of_mem ho
  obtain ⟨last, hrun, hlast, -⟩ :=
    takes_report (takes_seek hp hopen hj offset) (fun _ => .nothing) chip rfl
  obtain ⟨hres, hstate⟩ := run_of_outcome hrun journal
  have hcore : sought.state.core = { chip.core with cursor := offset.toNat } :=
    (congrArg core hstate).trans hlast
  refine ⟨hres, hcore, fun script => ?_⟩
  intro ran count
  let middle : Core := { chip.core with cursor := offset.toNat, chunkScript := script }
  have hm : core { sought.state with chunkScript := script } = middle :=
    (core_scripted sought.state script).trans (congrArg (Core.scripted · script) hcore)
  have hs : middle.Serves path data := ⟨ho, hf, hj⟩
  refine ⟨fun hd => ?_, fun hd hz ht hr => ?_⟩
  · obtain ⟨hr, hc⟩ :=
      (takes_readInto_of_read (takes_read_beyond hp hl hs hn hd)).recorded hm sought.journal
    exact ⟨hr, congrArg Core.cursor hc, congrArg Core.volume hc⟩
  · have hk : 0 < count := Nat.lt_min.2 ⟨hn, Nat.sub_pos_of_lt hd⟩
    have hpace : (middle.reading count).Paced drive.patience := ⟨hz, ht, hr⟩
    have hb : ((data.drop offset.toNat).take count).length = count := by
      rw [List.length_take, List.length_drop]
      exact Nat.min_eq_left (Nat.min_le_right _ _)
    obtain ⟨rest, -, ht⟩ := takes_read_paced hp hl hs rfl hk hpace
    obtain ⟨hr, hc⟩ := (takes_readInto_of_read ht).recorded hm sought.journal
    refine ⟨hr.trans ?_, congrArg Core.cursor hc, congrArg Core.volume hc, fun he => ?_⟩
    · show Except.ok (Report.mk (.ok (.count _)) (overlay _ buffer)) = _
      rw [overlay, held, id, show middle.cursor = offset.toNat from rfl, hb]
    · obtain ⟨ht, ha⟩ := transcript_recorded device (drive.perform (.read buffer))
        { sought.state with chunkScript := script } sought.journal
      obtain ⟨ending, report, hread, -⟩ := transcript_readInto ht
      exact (fetches_read hp hl hs rfl hk hpace he _ _ _ _ hm hread ha.of_recorded).2

/-- The last three bytes of a file of five are read into a buffer of four, in chunks of none, of two
and of one. They are one chunk if none are prescribed. -/
theorem read_at_offset_empty_chunk :
    let drive : Drive := { config := {}, patience := 4 }
    let chip : Chip :=
      { attached := true
        volume := ⟨[(['/', 'F'], .file [1, 2, 3, 4, 5])]⟩
        openFile := some ['/', 'F'] }
    let read : Dialogue Bus Empty Report := drive.perform (.read [9, 9, 9, 9])
    ∃ sought ran plain,
      sought = (drive.perform (.seek 2) : Dialogue Bus Empty Report).run Chip.device chip [] ∧
      ran = read.run Chip.device.recorded ({ sought.state with chunkScript := [0, 2] }, [])
        sought.journal ∧
      plain = read.run Chip.device.recorded ({ sought.state with chunkScript := [] }, [])
        sought.journal ∧
      ran.result = .ok { result := .ok (.count 3), buffer := [3, 4, 5, 9] } ∧
      ran.state.1.cursor = 5 ∧
      plain.result = ran.result ∧ fetches (Bus.transactions plain.state.2.reverse) = 1 := by
  intro drive chip read
  obtain ⟨-, -, hread⟩ := read_at_offset drive (fun _ => by decide) chip ['/', 'F']
    [1, 2, 3, 4, 5] rfl rfl rfl 2 [9, 9, 9, 9] (by decide) (by decide) []
  obtain ⟨hr, hc, -⟩ := (hread [0, 2]).2 (by decide) (by decide) (by decide) (by decide)
  obtain ⟨hs, -, -, hf⟩ := (hread []).2 (by decide) nofun (by decide) (by decide)
  refine ⟨_, _, _, rfl, rfl, rfl, hr, ?_, hs.trans hr.symm, ?_⟩
  · rw [hc]
    decide
  · rw [hf rfl]
    decide

end Drive

end DiskBridge

import DiskBridge.Proofs.ChipTransactions

/-!
# The disk stays a tree

Whatever is sent over the bus, in whatever order, the nodes of the disk form a tree: each lies
directly in a directory. The open file stays a file of the disk, and the current directory and the
selected path begin at the root.

1. The parent of a path is what stands before its last separator (`parent?_eq_some_iff`), so
   whatever lies in a directory goes on from its path.
2. A node may be put where its parent is a directory, unless a file takes the place of a directory
   (`Rooted.insert`), and may be erased if nothing goes on from its path (`Rooted.erase`).
3. Of all that happens on the bus, only a command that is carried out changes `Chip.contents`
   (`contents_react`, `contents_poll`). Each command keeps them `Sound` (`sound_complete`).

`sound_after` states it for every sequence of calls.
-/

namespace DiskBridge

namespace Volume

/-! ## Parents -/

theorem parent?_append (parent : Path) {name : List Char} (h : '/' ∉ name) :
    parent? (parent ++ '/' :: name) = some parent := by
  have hd : (name.reverse ++ '/' :: parent.reverse).dropWhile (· ≠ '/') =
      '/' :: parent.reverse := by
    rw [List.dropWhile_append_of_pos]
    · simp
    · intro c hc
      have : c ≠ '/' := fun e => h (e ▸ List.mem_reverse.1 hc)
      simpa using this
  unfold parent?
  rw [if_pos (by simp), List.reverse_append, List.reverse_cons, List.append_assoc,
    List.singleton_append, hd, List.tail_cons, List.reverse_reverse]

theorem parent?_eq_some_iff {path parent : Path} :
    parent? path = some parent ↔ ∃ name, '/' ∉ name ∧ path = parent ++ '/' :: name := by
  constructor
  · intro h
    have hc : '/' ∈ path.reverse := by
      unfold parent? at h
      split at h
      · next hc => simpa using hc
      · cases h
    -- The last separator of the path is the first from behind.
    obtain ⟨name, front, hp, hn⟩ := List.eq_append_cons_of_mem hc
    have hn : '/' ∉ name.reverse := by simpa using hn
    have hp : path = front.reverse ++ '/' :: name.reverse := by
      rw [← List.reverse_reverse path, hp]
      simp
    rw [hp, parent?_append _ hn] at h
    cases h
    exact ⟨_, hn, hp⟩
  · rintro ⟨name, hn, rfl⟩
    exact parent?_append parent hn

/-! ## Nodes and keys -/

theorem isSome_get?_iff {volume : Volume} {path : Path} :
    (volume.get? path).isSome = true ↔ ∃ entry ∈ volume.entries, entry.1 = path := by
  unfold get?
  rw [Option.isSome_map, List.find?_isSome]
  simp

/-- Whether a path goes on from a given one is seen from the nodes alone. -/
theorem hasBelow_iff {volume : Volume} {path : Path} :
    volume.hasBelow path = true ↔
      ∃ other, path ++ ['/'] <+: other ∧ (volume.get? other).isSome = true := by
  unfold hasBelow
  rw [List.any_eq_true]
  constructor
  · rintro ⟨entry, he, hp⟩
    exact ⟨entry.1, List.isPrefixOf_iff_prefix.1 hp, isSome_get?_iff.2 ⟨entry, he, rfl⟩⟩
  · rintro ⟨_, hp, hs⟩
    obtain ⟨entry, he, rfl⟩ := isSome_get?_iff.1 hs
    exact ⟨entry, he, List.isPrefixOf_iff_prefix.2 hp⟩

theorem isDirectory_iff {volume : Volume} {path : Path} :
    volume.isDirectory path = true ↔ path = root ∨ volume.get? path = some .directory := by
  simp [isDirectory]

theorem isSome_file?_iff {volume : Volume} {path : Path} :
    (volume.file? path).isSome = true ↔ ∃ data, volume.get? path = some (.file data) := by
  unfold file?
  split <;> simp_all

/-! ## Trees -/

/-- Every node lies directly in a directory. -/
def Rooted (volume : Volume) : Prop :=
  ∀ path, (volume.get? path).isSome = true → volume.inDirectory path = true

instance (volume : Volume) : Decidable volume.Rooted :=
  decidable_of_iff (∀ entry ∈ volume.entries, volume.inDirectory entry.1 = true)
    ⟨fun h path hs => by obtain ⟨entry, he, rfl⟩ := isSome_get?_iff.1 hs; exact h entry he,
      fun h entry he => h entry.1 (isSome_get?_iff.2 ⟨entry, he, rfl⟩)⟩

theorem inDirectory_nil (volume : Volume) : volume.inDirectory [] = false := rfl

/-- What lies in a directory still does if all directories are kept. -/
theorem inDirectory_mono {volume other : Volume} {path : Path}
    (hd : ∀ parent, parent? path = some parent → volume.isDirectory parent = true →
      other.isDirectory parent = true)
    (h : volume.inDirectory path = true) : other.inDirectory path = true := by
  unfold inDirectory at h ⊢
  split
  · next hp => simp [hp] at h
  · rfl
  · next parent hn hp =>
    apply hd parent hp
    simpa [hp] using h

section Rooted

variable {volume : Volume} (h : volume.Rooted)

include h

theorem Rooted.ne_nil {path : Path} (hs : (volume.get? path).isSome = true) : path ≠ [] := by
  rintro rfl
  have := h [] hs
  rw [inDirectory_nil] at this
  cases this

/-- A node may be put into a directory, unless a file takes the place of a directory. -/
theorem Rooted.insert {path : Path} {node : Node} (hp : volume.inDirectory path = true)
    (hn : volume.get? path = some .directory → node = .directory) :
    (volume.insert path node).Rooted := by
  have hk : ∀ parent, volume.isDirectory parent = true →
      (volume.insert path node).isDirectory parent = true := by
    intro parent hd
    rw [isDirectory_iff, get?_insert]
    rcases isDirectory_iff.1 hd with hr | hg
    · exact .inl hr
    · by_cases he : parent = path
      · rw [if_pos he, hn (he ▸ hg)]
        exact .inr rfl
      · rw [if_neg he]
        exact .inr hg
  intro other hs
  apply inDirectory_mono fun parent _ => hk parent
  by_cases he : other = path
  · rw [he]
    exact hp
  · rw [get?_insert, if_neg he] at hs
    exact h other hs

/-- A node may be erased if nothing goes on from its path. -/
theorem Rooted.erase {path : Path} (hb : volume.hasBelow path = false) :
    (volume.erase path).Rooted := by
  intro other hs
  rw [get?_erase] at hs
  by_cases he : other = path
  · simp [he] at hs
  rw [if_neg he] at hs
  refine inDirectory_mono (fun parent hp hd => ?_) (h other hs)
  rw [isDirectory_iff, get?_erase]
  by_cases hq : parent = path
  · -- Then `other` goes on from `path`.
    obtain ⟨name, -, rfl⟩ := parent?_eq_some_iff.1 hp
    have : volume.hasBelow path = true := hasBelow_iff.2 ⟨_, ⟨name, by simp [hq]⟩, hs⟩
    rw [hb] at this
    cases this
  · simpa [hq] using isDirectory_iff.1 hd

end Rooted

end Volume

namespace Chip

/-! ## What changes the contents -/

section Contents

variable (chip : Chip)

theorem contents_nextChunk (left : Nat) : (chip.nextChunk left).2.contents = chip.contents := by
  unfold nextChunk
  split <;> rfl

/-- Nothing on the disk changes while a transaction is in progress. -/
theorem contents_react (opcode : UInt8) (index : Nat) (byte : UInt8) :
    (chip.react opcode index byte).contents = chip.contents := by
  unfold react
  split
  case h_6 => exact contents_nextChunk chip _
  case h_7 => exact contents_nextChunk chip _
  all_goals rfl

theorem contents_poll : chip.poll.2.contents = chip.contents := by
  unfold poll
  dsimp only
  split
  · split
    · rfl
    · split <;> rfl
  · rfl

end Contents

/-! ## Soundness -/

/-- The disk is a tree, the open file is a file on it, and all paths begin at the root. -/
structure Contents.Sound (contents : Contents) : Prop where
  rooted : contents.volume.Rooted
  openFile : ∀ path ∈ contents.openFile, (contents.volume.file? path).isSome = true
  directory : contents.directory.head? = some '/'
  selected : ∀ path ∈ contents.selected, path.head? = some '/'

instance (contents : Contents) : Decidable contents.Sound :=
  decidable_of_iff
    (contents.volume.Rooted ∧
      (∀ path ∈ contents.openFile, (contents.volume.file? path).isSome = true) ∧
      contents.directory.head? = some '/' ∧ ∀ path ∈ contents.selected, path.head? = some '/')
    ⟨fun ⟨hr, ho, hd, hs⟩ => ⟨hr, ho, hd, hs⟩,
      fun h => ⟨h.rooted, h.openFile, h.directory, h.selected⟩⟩

theorem head_resolveName {directory : Path} (h : directory.head? = some '/') (name : List Char) :
    (resolveName directory name).head? = some '/' := by
  unfold resolveName
  split
  · assumption
  · split
    · rfl
    · rw [List.head?_append, h, Option.some_or]

section Sound

variable {chip : Chip} (h : chip.contents.Sound)

include h

/-- A selected path begins at the root. If none is selected, commands act on the empty path. -/
theorem head_selectedPath (hn : chip.selectedPath ≠ []) :
    chip.selectedPath.head? = some '/' := by
  unfold selectedPath at hn ⊢
  cases hs : chip.selected with
  | none => simp [hs] at hn
  | some path => exact h.selected path hs

theorem sound_open : chip.executeOpen.contents.Sound := by
  unfold executeOpen
  dsimp only
  split
  · next hd =>
    refine ⟨h.rooted, nofun, head_selectedPath h ?_, h.selected⟩
    intro he
    rw [he, Volume.isDirectory_iff] at hd
    rcases hd with hd | hd
    · cases hd
    · exact h.rooted.ne_nil (Option.isSome_of_mem hd) rfl
  · split
    · next hf =>
      refine ⟨h.rooted, ?_, h.directory, h.selected⟩
      rintro _ ⟨⟩
      exact hf
    · exact h

theorem sound_create : chip.executeCreate.contents.Sound := by
  unfold executeCreate
  dsimp only
  split
  · exact h
  · next hd =>
    split
    · next hp =>
      have hn : chip.volume.get? chip.selectedPath ≠ some .directory :=
        fun hg => hd (Volume.isDirectory_iff.2 (.inr hg))
      refine ⟨h.rooted.insert hp fun hg => absurd hg hn, ?_, h.directory, h.selected⟩
      rintro _ ⟨⟩
      refine Volume.isSome_file?_iff.2 ⟨[0], ?_⟩
      exact (Volume.get?_insert ..).trans (if_pos rfl)
    · exact h

theorem sound_createDirectory : chip.executeCreateDirectory.contents.Sound := by
  unfold executeCreateDirectory
  dsimp only
  split
  · exact h
  · next hf =>
    split
    · next hp =>
      refine ⟨h.rooted.insert hp fun _ => rfl, ?_, head_selectedPath h ?_, h.selected⟩
      · intro path ho
        have hs := h.openFile path ho
        obtain ⟨data, hg⟩ := Volume.isSome_file?_iff.1 hs
        -- The open file is another than the selected path, which is no file.
        have hn : path ≠ chip.selectedPath := by
          rintro rfl
          exact hf hs
        exact Volume.isSome_file?_iff.2 ⟨data, ((Volume.get?_insert ..).trans (if_neg hn)).trans hg⟩
      · intro he
        rw [he, Volume.inDirectory_nil] at hp
        cases hp
    · exact h

theorem sound_erase : chip.executeErase.contents.Sound := by
  unfold executeErase
  dsimp only
  split
  · next hc =>
    have hb : chip.volume.hasBelow chip.selectedPath = false := by simp_all
    refine ⟨h.rooted.erase hb, ?_, h.directory, h.selected⟩
    intro path ho
    have ho : (if chip.openFile = some chip.selectedPath then none else chip.openFile) =
        some path := ho
    split at ho
    · cases ho
    · next hn =>
      obtain ⟨data, hg⟩ := Volume.isSome_file?_iff.1 (h.openFile path ho)
      have hn : path ≠ chip.selectedPath := by
        rintro rfl
        exact hn ho
      exact Volume.isSome_file?_iff.2 ⟨data, ((Volume.get?_erase ..).trans (if_neg hn)).trans hg⟩
  · exact h

theorem sound_name (bytes : List UInt8) : (chip.executeName bytes).contents.Sound := by
  refine ⟨h.rooted, h.openFile, h.directory, ?_⟩
  rintro _ ⟨⟩
  exact head_resolveName h.directory _

/-- A chunk is stored in the open file, which stays a file. -/
theorem sound_store (bytes : List UInt8) : (chip.executeStore bytes).contents.Sound := by
  unfold executeStore
  dsimp only
  split
  · next path data ho hd =>
    obtain ⟨_, hg⟩ := Volume.isSome_file?_iff.1 (h.openFile path ho)
    refine ⟨h.rooted.insert (h.rooted path (Option.isSome_of_mem hg)) ?_, ?_, h.directory,
      h.selected⟩
    · intro hd
      cases hg.symm.trans hd
    · intro other hs
      cases ho.symm.trans hs
      exact Volume.isSome_file?_iff.2 ⟨_, (Volume.get?_insert ..).trans (if_pos rfl)⟩
  · exact h

/-- Carrying a command out keeps the contents sound. -/
theorem sound_complete (bytes : List UInt8) : (chip.complete bytes).contents.Sound := by
  unfold complete
  split
  · exact ⟨h.rooted, nofun, rfl, nofun⟩
  · unfold executeRoute
    split <;> exact h
  · exact sound_name h bytes
  · exact h
  · exact h
  · exact sound_open h
  · exact sound_create h
  · exact sound_createDirectory h
  · exact sound_erase h
  · exact ⟨h.rooted, nofun, h.directory, h.selected⟩
  · unfold executeLocate
    split <;> exact h
  · unfold executeRead
    split <;> exact h
  · exact h
  · unfold executeWrite
    split <;> exact h
  · exact sound_store h bytes
  all_goals exact h

/-- One call on the bus keeps the contents sound. -/
theorem sound_device (call : Bus.Call) : (device call chip).state.contents.Sound := by
  cases call with
  | begin => exact h
  | finish =>
    show chip.finish.contents.Sound
    unfold finish
    split
    · exact @sound_complete { chip with inTransaction := false, received := [] } h _
    · exact h
  | exchange byte =>
    show (chip.exchange byte).2.contents.Sound
    unfold exchange
    rw [contents_react]
    exact h
  | poll =>
    show chip.poll.2.contents.Sound
    rw [contents_poll]
    exact h
  | pause span => exact h

end Sound

/-- The chip after some calls on the bus, whatever it replied to them. -/
def after (chip : Chip) (calls : List Bus.Call) : Chip :=
  calls.foldl (fun chip call => (device call chip).state) chip

/-- **Integrity.** Take a chip on whose disk every node lies in a directory, whose open file is a
file on it, and whose current directory and selected path begin at the root. All this still holds
after any calls on the bus, in any order. -/
theorem sound_after (chip : Chip) (calls : List Bus.Call) (h : chip.contents.Sound) :
    (chip.after calls).contents.Sound := by
  induction calls generalizing chip with
  | nil => exact h
  | cons call rest ih => exact ih _ (sound_device h call)

/-- Bytes outside a transaction, then the directory `D/` created beside an open file, with a broken
character sent as a name before the directory above it is erased in vain. -/
theorem sound_after_odd_names :
    let chip : Chip :=
      { attached := true
        volume := ⟨[(['/', 'D'], .directory), (['/', 'D', '/', 'F'], .file [1])]⟩
        openFile := some ['/', 'D', '/', 'F']
        injected := [(0x40, 0xff)] }
    let calls : List Bus.Call :=
      [Bus.Call.exchange 0x40, .finish, .begin] ++ [0x2f, 0x44, 0x2f].map Bus.Call.exchange ++
        [Bus.Call.finish, .poll, .begin, .exchange 0x40, .finish, .begin] ++
        [0x2f, 0xff].map Bus.Call.exchange ++ [Bus.Call.begin] ++
        [0x2f, 0x2f, 0x44, 0x00].map Bus.Call.exchange ++
        [Bus.Call.finish, .begin, .exchange 0x35, .finish]
    chip.contents.Sound ∧ (chip.after calls).contents.Sound ∧
      (chip.after calls).volume.isDirectory ['/', 'D', '/'] = true ∧
      (chip.after calls).volume.isDirectory ['/', 'D'] = true := by
  intro chip calls
  have h : chip.contents.Sound := by decide
  exact ⟨h, sound_after chip calls h, by decide, by decide⟩

end Chip

end DiskBridge

import DiskBridge.Proofs.ReadBack
import DiskBridge.Proofs.ToolRuns
import DiskBridge.Proofs.Transports
import DiskBridge.Tool.Show

/-!
# What is stored is what is shown

A file that one tool stores is what another prints, whatever was in its place, however long it is,
and however the chip is reached.

1. Storing is a step of the core. The directory is created, if need be (`takes_makeParent`), what is
   in the place of the file is cleared away (`takes_eraseAnyway`), and by induction over its pieces
   the new one is written (`takes_storePieces`). Together, `takes_store`.
2. The calls of the tools are such that any transport carries them (`conducted_store`).
3. By induction over the blocks, what is printed is what is left of the file
   (`outcome_showBlocks`), and from the start all of it (`outcome_showFile`).

`shown_as_stored` puts them together.
-/

namespace DiskBridge

open Dialogue Bus Chip

/-! ## The directory a path lies in -/

namespace Route

/-- The way to the directory that a path lies in, unless that is the root. -/
def parent? (route : Route) : Option Route :=
  if route.rest = [] then none
  else some
    { first := route.first
      rest := route.rest.dropLast
      plain := fun name hm => route.plain name (by
        rcases List.mem_cons.1 hm with rfl | hm
        · exact List.mem_cons_self
        · exact List.mem_cons_of_mem _ (List.dropLast_subset _ hm))
      first_short := route.first_short
      rest_short := fun name hm => route.rest_short name (List.dropLast_subset _ hm) }

theorem not_above_of_parent?_eq_none {route : Route} (h : route.parent? = none) (path : Path) :
    ¬route.Above path := by
  rintro ⟨count, hc, -⟩
  unfold parent? at h
  split at h
  · next hr =>
    rw [hr] at hc
    cases hc
  · cases h

section Parent

variable {route parent : Route} (h : route.parent? = some parent)

include h

/-- The last name of a path stands in its parent. -/
theorem exists_last_name :
    ∃ name, '/' ∉ name ∧ route.first = parent.first ∧ route.rest = parent.rest ++ [name] := by
  unfold parent? at h
  split at h
  · cases h
  · next hr =>
    cases h
    have hm := List.getLast_mem hr
    exact ⟨route.rest.getLast hr, (route.plain _ (List.mem_cons_of_mem _ hm)).2.1, rfl,
      (List.dropLast_concat_getLast hr).symm⟩

theorem path_eq_append : ∃ name, '/' ∉ name ∧ route.path = parent.path ++ '/' :: name := by
  obtain ⟨name, hn, hf, hr⟩ := exists_last_name h
  refine ⟨name, hn, ?_⟩
  simp [path, pathOf, hf, hr]

theorem not_prefix_parent : ¬route.path <+: parent.path := by
  intro hl
  obtain ⟨name, -, hp⟩ := path_eq_append h
  have := hl.length_le
  rw [hp, List.length_append, List.length_cons] at this
  omega

/-- What is above a path is its parent and what is above that. -/
theorem above_of_parent {path : Path} (ha : route.Above path) :
    path = parent.path ∨ parent.Above path := by
  obtain ⟨name, -, hf, hr⟩ := exists_last_name h
  obtain ⟨count, hc, rfl⟩ := ha
  rw [hr, List.length_append, List.length_singleton] at hc
  rw [hf, hr]
  rcases Nat.lt_succ_iff_lt_or_eq.1 hc with hc | rfl
  · right
    exact ⟨count, hc, by rw [List.take_append_of_le_length (Nat.le_of_lt hc)]⟩
  · left
    rw [List.take_left]
    rfl

end Parent

theorem parentOf?_append (base : Path) {name : List Char} (h : '/' ∉ name) :
    Tool.parentOf? (String.ofList (base ++ '/' :: name)) =
      if base.isEmpty then none else some (String.ofList base) := by
  have hp := Volume.parent?_append base h
  unfold Volume.parent? at hp
  rw [if_pos (by simp)] at hp
  simp only [Tool.parentOf?, String.toList_ofList, Option.some.inj hp]

/-- The tool finds the directory that a path lies in. -/
theorem parentOf?_text (route : Route) : Tool.parentOf? route.text = route.parent?.map text := by
  cases h : route.parent? with
  | none =>
    unfold parent? at h
    split at h
    · next hr =>
      have hp : route.path = [] ++ '/' :: route.first := by simp [path, pathOf, hr]
      rw [text, hp, parentOf?_append _ (route.plain _ List.mem_cons_self).2.1]
      rfl
    · cases h
  | some parent =>
    obtain ⟨name, hn, hp⟩ := path_eq_append h
    rw [text, hp, parentOf?_append _ hn]
    rfl

end Route

namespace Tool

open Drive

/-! ## Storing -/

/-- What a file holds after data was stored in it: the chip has no empty files. -/
def kept (data : List UInt8) : List UInt8 := if data = [] then [0] else data

theorem splice_new (data : List UInt8) : splice [0] data 0 = kept data := by
  unfold kept
  split
  · next hd => rw [hd, splice_nil (Nat.zero_le _)]
  · next hd => exact splice_zero (List.length_pos_iff.2 hd)

/-- A file can be stored at a path: it leads through directories, with `parents` only as far as the
directory it lies in, which can be created, and nothing is below what is in its place. -/
structure Admits (volume : Volume) (route : Route) (parents : Bool) : Prop where
  above : parents = false → ∀ path, route.Above path → volume.isDirectory path = true
  parent : parents = true → ∀ parent, route.parent? = some parent →
    volume.file? parent.path = none ∧
      ∀ path, parent.Above path → volume.isDirectory path = true
  bare : (volume.get? route.path).isSome = true →
    ∀ other, route.path ++ ['/'] <+: other → volume.get? other = none

/-- The path of the file that is stored, and with `parents` of the directory it lies in. -/
def Touched (route : Route) (parents : Bool) (path : Path) : Prop :=
  path = route.path ∨ parents = true ∧ ∃ parent, route.parent? = some parent ∧ path = parent.path

section Storing

variable {drive : Drive} (hp : drive.config.statusMode = .interrupt → 0 < drive.patience)

include hp

section Route

variable (route : Route) (core : Core) (hj : core.injected = [])
  (hd : ∀ path, route.Above path → core.volume.isDirectory path = true)

include hj hd

/-- A directory is created where no file is, and nothing else is changed. -/
theorem takes_createDirectoryPath (hf : core.volume.file? route.path = none) :
    ∃ after, Takes (drive.createDirectoryPath route.text) core (.ok ()) after ∧
      after.volume.get? route.path = some .directory ∧
      (∀ other, other ≠ route.path → after.volume.get? other = core.volume.get? other) ∧
      after.injected = [] ∧ after.chunkScript = core.chunkScript := by
  have hi := route.inDirectory_path hd
  obtain ⟨middle, ht, hc, hk⟩ := takes_selectPath hp route core hj hd
  rw [← hk.volume] at hf hi ⊢
  rw [← hc] at hf hi ⊢
  have hj' := hk.injected.trans hj
  refine ⟨_, ht.bind (takes_createDirectory hp hj' hf hi), ?_, ?_, hj', hk.chunkScript⟩
  · exact (Volume.get?_insert ..).trans (if_pos rfl)
  · intro other ho
    exact (Volume.get?_insert ..).trans (if_neg ho)

/-- What is in the place of a file is cleared away, unless something is below it. -/
theorem takes_eraseAnyway
    (hb : (core.volume.get? route.path).isSome = true →
      ∀ other, route.path ++ ['/'] <+: other → core.volume.get? other = none) :
    ∃ after, Takes (eraseAnyway drive route.text) core (.ok ()) after ∧
      after.volume.get? route.path = none ∧
      (∀ other, other ≠ route.path → after.volume.get? other = core.volume.get? other) ∧
      after.injected = [] ∧ after.chunkScript = core.chunkScript := by
  obtain ⟨middle, ht, hc, hk⟩ := takes_selectPath hp route core hj hd
  have he := core.volume.erasable_iff route.path_ne_root
  rw [← hk.volume] at he hb ⊢
  rw [← hc] at he hb ⊢
  have hj' := hk.injected.trans hj
  cases hx : (middle.path ≠ Volume.root && middle.volume.contains middle.path &&
    !middle.volume.hasBelow middle.path) with
  | true =>
    have hm : Takes (drive.erasePath route.text) core _ _ := ht.bind (takes_erase hp hj' hx rfl)
    refine ⟨_, hm.attempt.bind (takes_done () _), ?_, ?_, hj', hk.chunkScript⟩
    · exact (Volume.get?_erase ..).trans (if_pos rfl)
    · intro other ho
      exact (Volume.get?_erase ..).trans (if_neg ho)
  | false =>
    have hm : Takes (drive.erasePath route.text) core _ _ :=
      ht.bind (takes_erase_missing hp hj' hx rfl)
    refine ⟨_, hm.attempt.bind (takes_done () _), ?_, fun _ _ => rfl, hj', hk.chunkScript⟩
    -- A node with nothing below it would have been erased.
    rw [← Option.not_isSome_iff_eq_none]
    intro hs
    rw [he.2 ⟨hs, hb hs⟩] at hx
    cases hx

end Route

/-- The directory that a path lies in is created, if need be, so that the path leads through
directories. -/
theorem takes_makeParent (route : Route) (core : Core) (hj : core.injected = []) {parents : Bool}
    (ha : Admits core.volume route parents) :
    ∃ made, Takes (makeParent drive route.text parents) core (.ok ()) made ∧
      (∀ path, route.Above path → made.volume.isDirectory path = true) ∧
      (∀ other, ¬(parents = true ∧ ∃ parent, route.parent? = some parent ∧ other = parent.path) →
        made.volume.get? other = core.volume.get? other) ∧
      made.injected = [] ∧ made.chunkScript = core.chunkScript := by
  unfold makeParent
  rw [route.parentOf?_text]
  cases parents with
  | false => exact ⟨core, takes_done () core, ha.above rfl, fun _ _ => rfl, hj, rfl⟩
  | true =>
    cases hu : route.parent? with
    | none =>
      exact ⟨core, takes_done () core,
        fun path hp => (Route.not_above_of_parent?_eq_none hu path hp).elim, fun _ _ => rfl, hj, rfl⟩
    | some parent =>
      obtain ⟨hf, hd⟩ := ha.parent rfl parent hu
      obtain ⟨made, ht, hg, ho, hj', hs⟩ := takes_createDirectoryPath hp parent core hj hd hf
      refine ⟨made, ht, fun path hp => ?_, fun other hn => ?_, hj', hs⟩
      · rcases Route.above_of_parent hu hp with rfl | hp
        · exact Volume.isDirectory_iff.2 (.inr hg)
        · rw [Volume.isDirectory, ho path (Route.ne_path_of_above hp)]
          exact hd path hp
      · exact ho other fun he => hn ⟨rfl, parent, rfl, he⟩

variable (hr : Command.maxTransfer ≤ drive.patience * Command.maxChunk)

include hr

/-- The pieces of a file are written behind one another. -/
theorem takes_storePieces {path : Path} (data : List UInt8) (written : Nat) {core : Core}
    {before : List UInt8} (h : core.Streams path before) (hc : core.cursor ≤ before.length) :
    ∃ after, Takes (storePieces drive data written) core (.ok (written + data.length)) after ∧
      after.Streams path (splice before data core.cursor) ∧
      ∀ other, other ≠ path → after.volume.get? other = core.volume.get? other := by
  fun_induction storePieces drive data written generalizing core before with
  | case1 written =>
    rw [splice_nil hc]
    exact ⟨core, takes_done _ _, h, fun _ _ => rfl⟩
  | case2 data written hd ih =>
    let piece := data.take Command.maxTransfer
    have hn : 0 < piece.length := by
      have := List.length_pos_iff.2 hd
      have : 0 < Command.maxTransfer := by decide
      simp only [piece, List.length_take]
      omega
    have hl : piece.length ≤ Command.maxTransfer := List.length_take_le _ _
    obtain ⟨after, ht, hs, ho⟩ :=
      ih piece.length ((h.writing piece.length).stored piece) (length_splice hc piece)
    refine ⟨after, ?_, ?_, ?_⟩
    · have he : written + piece.length + (data.drop Command.maxTransfer).length =
          written + data.length := by
        rw [Nat.add_assoc, ← List.length_append, List.take_append_drop]
      rw [he] at ht
      exact (takes_write hp hr hn hl h).bind ht
    · have he : splice before data core.cursor =
          splice (splice before piece core.cursor) (data.drop Command.maxTransfer)
            (core.cursor + piece.length) := by
        rw [splice_splice, List.take_append_drop]
      rw [he]
      exact hs
    · intro other hne
      rw [ho other hne]
      exact (Volume.get?_insert ..).trans (if_neg hne)

section Store

variable (route : Route) (core : Core) (hj : core.injected = []) (hs : core.chunkScript = [])

include hj hs

/-- A file is put in the place of what is there. -/
theorem takes_replace (hd : ∀ path, route.Above path → core.volume.isDirectory path = true)
    (hb : (core.volume.get? route.path).isSome = true →
      ∀ other, route.path ++ ['/'] <+: other → core.volume.get? other = none)
    (data : List UInt8) :
    ∃ after, Takes (replace drive route.text data) core (.ok data.length) after ∧
      after.volume.get? route.path = some (.file (kept data)) ∧
      ∀ other, other ≠ route.path → after.volume.get? other = core.volume.get? other := by
  obtain ⟨cleared, hx, hn, ho, hj', hs'⟩ := takes_eraseAnyway hp route core hj hd hb
  have hd' : ∀ path, route.Above path → cleared.volume.isDirectory path = true := by
    intro path ha
    rw [Volume.isDirectory, ho path (Route.ne_path_of_above ha)]
    exact hd path ha
  obtain ⟨created, hc, hf, hz, ho'⟩ :=
    takes_createPath hp route cleared hj' (hs'.trans hs) hd' (by simp [hn])
  obtain ⟨written, hw, hf, ho''⟩ :=
    takes_storePieces hp hr data 0 hf (by rw [hz]; exact Nat.zero_le _)
  rw [hz, splice_new] at hf
  rw [Nat.zero_add] at hw
  refine ⟨_, hx.bind (hc.bind (hw.bind ((takes_close hp hf.injected).bind (takes_done _ _)))),
    ?_, ?_⟩
  · exact Volume.file?_eq_some_iff.1 hf.file
  · intro other hne
    exact (ho'' other hne).trans ((ho' other hne).trans (ho other hne))

/-- A file is stored, with `parents` after the directory it lies in. -/
theorem takes_store {parents : Bool} (ha : Admits core.volume route parents) (data : List UInt8) :
    ∃ after, Takes (store drive route.text data parents) core (.ok data.length) after ∧
      after.volume.get? route.path = some (.file (kept data)) ∧
      (∀ path, route.Above path → after.volume.isDirectory path = true) ∧
      ∀ other, ¬Touched route parents other →
        after.volume.get? other = core.volume.get? other := by
  obtain ⟨made, hm, hd, ho, hj', hs'⟩ := takes_makeParent hp route core hj ha
  -- The directory that was made is neither at the path nor below it.
  have hk : ∀ other, route.path <+: other → made.volume.get? other = core.volume.get? other := by
    intro other hl
    refine ho other ?_
    rintro ⟨-, parent, hu, rfl⟩
    exact Route.not_prefix_parent hu hl
  have hb : (made.volume.get? route.path).isSome = true →
      ∀ other, route.path ++ ['/'] <+: other → made.volume.get? other = none := by
    intro hi other hl
    rw [hk _ List.prefix_rfl] at hi
    rw [hk _ ((List.prefix_append _ _).trans hl)]
    exact ha.bare hi other hl
  obtain ⟨after, ht, hf, ho'⟩ := takes_replace hp hr route made hj' (hs'.trans hs) hd hb data
  rw [store_eq]
  refine ⟨after, hm.bind ht, hf, fun path hu => ?_, fun other ht => ?_⟩
  · rw [Volume.isDirectory, ho' path (Route.ne_path_of_above hu)]
    exact hd path hu
  · obtain ⟨hn, ht⟩ := not_or.1 ht
    exact (ho' other hn).trans (ho other ht)

end Store

end Storing

/-! ## Conduct -/

section Conduct

variable (drive : Drive) (path : String)

theorem conducted_makeParent (parents : Bool) :
    Always Conducted (makeParent drive path parents) := by
  unfold makeParent
  split
  · next parent _ =>
    exact conducted_of_perform drive (.createDirectoryPath parent) nofun rfl fun _ => ⟨_, rfl⟩
  · exact always_done conducted ()
  · exact always_done conducted ()

theorem conducted_eraseAnyway : Always Conducted (eraseAnyway drive path) := by
  have he : Always Conducted (drive.erasePath path) :=
    conducted_of_perform drive (.erasePath path) nofun rfl fun _ => ⟨_, rfl⟩
  refine he.attempt.bind conducted fun ending => ?_
  split
  · exact always_failed conducted _
  · exact always_done conducted ()
  · exact always_done conducted ()

theorem conducted_storePieces (data : List UInt8) (written : Nat) :
    Always Conducted (storePieces drive data written) := by
  fun_induction storePieces drive data written with
  | case1 written => exact always_done conducted written
  | case2 data written hd ih =>
    exact (conducted_of_perform drive (.write _) nofun rfl fun _ => ⟨_, rfl⟩).bind conducted ih

theorem conducted_store (data : List UInt8) (parents : Bool) :
    Always Conducted (store drive path data parents) := by
  rw [store_eq]
  refine (conducted_makeParent drive path parents).bind conducted fun _ => ?_
  refine (conducted_eraseAnyway drive path).bind conducted fun _ => ?_
  refine Always.bind conducted
    (conducted_of_perform drive (.createPath path) nofun rfl fun _ => ⟨_, rfl⟩) fun _ => ?_
  refine (conducted_storePieces drive data 0).bind conducted fun written => ?_
  refine Always.bind conducted
    (conducted_of_perform drive .close nofun rfl fun _ => ⟨_, rfl⟩) fun _ => ?_
  exact always_done conducted written

theorem conducted_read (size : Nat) : Always Conducted (drive.read size) := by
  have h := conducted_of_perform drive (.read (List.replicate size 0)) nofun rfl
    fun ending => by cases ending <;> exact ⟨_, rfl⟩
  rw [List.length_replicate] at h
  exact h

end Conduct

/-! ## Showing -/

/-- A drive has the patience for a bring-up of a chip with a backlog, and for the longest
transfer. -/
structure Patient (backlog : Nat) (drive : Drive) : Prop where
  waits : backlog < drive.patience
  transfers : Command.maxTransfer ≤ drive.patience * Command.maxChunk

theorem Patient.polls {backlog : Nat} {drive : Drive} (h : Patient backlog drive) :
    drive.config.statusMode = .interrupt → 0 < drive.patience :=
  fun _ => Nat.zero_lt_of_lt h.waits

section Showing

variable {τ α : Type} {transport : Transport τ} {backlog : Nat} {used : τ} {chip : Chip}

/-- A program takes a step of the core through a transport. -/
theorem outcome_perform_linked (h : transport.Linked backlog used chip) {operation : Operation α}
    (hc : Always Conducted operation) {value : α} {after : Core}
    (ht : Takes operation chip.core (.ok value) after) (printed : List (List UInt8)) :
    ∃ next last, (perform operation).outcome transport.bus.withConsole (used, printed) =
        (.ok value, (next, printed)) ∧
      transport.Linked backlog next last ∧ last.core = after := by
  obtain ⟨next, last, ho, hl, hc⟩ := h.follow hc ht
  exact ⟨next, last, outcome_perform_ok ho printed, hl, hc⟩

variable {drive : Drive} (hp : Patient backlog drive)

include hp

/-- The blocks that are printed, put together, are what is left of the file. -/
theorem outcome_showBlocks (left : Nat) (h : transport.Linked backlog used chip) {path : Path}
    {data : List UInt8} (hs : chip.core.Streams path data)
    (hd : chip.core.cursor + left = data.length) (printed : List (List UInt8)) :
    ∃ next last shown, (showBlocks drive left).outcome transport.bus.withConsole (used, printed) =
        (.ok (), (next, shown)) ∧
      transport.Linked backlog next last ∧
      shown.reverse.flatten = printed.reverse.flatten ++ data.drop chip.core.cursor := by
  fun_induction showBlocks drive left generalizing used chip printed with
  | case1 =>
    have he : data.drop chip.core.cursor = [] := List.drop_of_length_le (Nat.le_of_eq hd.symm)
    rw [he, List.append_nil]
    exact ⟨used, chip, printed, rfl, h, rfl⟩
  | case2 left hl size =>
    rename_i ih
    have hn : 0 < size := Nat.lt_min.2 ⟨Nat.pos_of_ne_zero hl, by decide⟩
    have hm : size ≤ Command.maxTransfer := Nat.le_trans (Nat.min_le_right _ _) (by decide)
    have hle : size ≤ left := Nat.min_le_left _ _
    have ht := takes_read hp.polls hp.transfers hn hm hs (by omega)
    obtain ⟨next, last, ho, hk, hcore⟩ := outcome_perform_linked h
      ((conducted_read drive size).mapFailure Cut.stop) (ht.mapFailure Cut.stop) printed
    let block := (data.drop chip.core.cursor).take size
    have hb : block.length = size := by
      rw [List.length_take, List.length_drop]
      omega
    have hs' : last.core.Streams path data := by
      rw [hcore]
      exact (hs.reading size).fetched size
    have hcur : last.core.cursor = chip.core.cursor + size := by
      rw [hcore]
      rfl
    obtain ⟨rest, after, shown, ho', hk', hf⟩ := ih block hk hs' (by omega) (block :: printed)
    refine ⟨rest, after, shown, ?_, hk', ?_⟩
    · have hw : ¬block.length < size := Nat.not_lt.2 hb.ge
      rw [outcome_bind_ok ho, outcome_bind_ok (outcome_print _ _ _ _), if_neg hw]
      exact ho'
    · rw [hf, hcur, List.reverse_cons, List.flatten_append, List.flatten_singleton,
        List.append_assoc, ← List.drop_drop, List.take_append_drop]

/-- A file on the disk is printed. -/
theorem outcome_showFile (hr : transport.reaches used chip) (hi : chip.inTransaction = false)
    (ho : chip.Obliging backlog) (route : Route)
    (hd : ∀ path, route.Above path → chip.volume.isDirectory path = true) {data : List UInt8}
    (hf : chip.volume.get? route.path = some (.file data)) (hl : data.length < 2 ^ 32) :
    ∃ next shown, (showFile drive route.text).outcome transport.bus.withConsole (used, []) =
        (.ok (), (next, shown)) ∧ shown.reverse.flatten = data := by
  obtain ⟨ready, mounted, hb, hk, hv⟩ := Transport.linked_bringUp hr hi ho hp.waits
  rw [← hv, ← Volume.file?_eq_some_iff] at hf
  rw [← hv] at hd
  obtain ⟨core, ht, hs, hz, -⟩ := takes_openPath hp.polls route mounted.core hk.obliging.injected
    hk.obliging.chunkScript hd hf
  obtain ⟨ready', opened, hopen, hk, rfl⟩ := outcome_perform_linked hk
    (conducted_of_perform drive (.openPath route.text) nofun rfl fun _ => ⟨_, rfl⟩) ht []
  obtain ⟨ready'', sized, hsize, hk, hc⟩ := outcome_perform_linked hk
    (conducted_of_perform drive .fileSize nofun rfl fun _ => ⟨_, rfl⟩) (takes_fileSize hs) []
  rw [← hc] at hs hz
  obtain ⟨shown, after, blocks, hshow, hk, hflat⟩ := outcome_showBlocks hp data.length hk hs
    (by rw [hz, Nat.zero_add]) []
  obtain ⟨last, closed, hclose, -, -⟩ := outcome_perform_linked hk
    (conducted_of_perform drive .close nofun rfl fun _ => ⟨_, rfl⟩)
    (takes_close hp.polls hk.obliging.injected) blocks
  refine ⟨last, blocks, ?_, ?_⟩
  · have hn : (UInt32.ofNat data.length).toNat = data.length := UInt32.toNat_ofNat_of_lt' hl
    rw [showFile, outcome_bind_ok (outcome_perform_ok hb []), outcome_bind_ok hopen,
      if_neg (by simp), outcome_bind_ok hsize, hn, outcome_bind_ok hshow]
    exact hclose
  · rw [hflat, hz, List.drop_zero]
    rfl

end Showing

/-- **Stored and shown.** Take an obliging chip outside a transaction, reached through any transport,
and drives with the patience for it. A file of less than four gigabytes that can be stored is stored,
and the tool says how much it wrote. The path then names a file with the data, of one byte if there
is no data, and no other node has changed, with `parents` apart from the directory it lies in. From
the chip as it is then, the file is printed as it is. -/
theorem shown_as_stored {τ : Type} (transport : Transport τ) {backlog : Nat} {chip : Chip}
    (hi : chip.inTransaction = false) (ho : chip.Obliging backlog) {used : τ}
    (hr : transport.reaches used chip) {writer reader : Drive} (hw : Patient backlog writer)
    (hs : Patient backlog reader) (route : Route) {data : List UInt8} (hl : data.length < 2 ^ 32)
    {parents : Bool} (ha : Admits chip.volume route parents) :
    let stored := (storeFile writer route.text data parents).run transport.bus.withConsole
      (used, []) []
    ∃ last : Chip,
      (stored.result = .ok () ∧ stored.state.2 = [storedLine route.text data.length] ∧
        transport.reaches stored.state.1 last) ∧
      last.volume.get? route.path = some (.file (kept data)) ∧
      (∀ other, ¬Touched route parents other →
        last.volume.get? other = chip.volume.get? other) ∧
      ∀ again, transport.reaches again last →
        let shown := (showFile reader route.text).run transport.bus.withConsole (again, []) []
        shown.result = .ok () ∧ shown.state.2.reverse.flatten = kept data := by
  intro stored
  obtain ⟨ready, mounted, hb, hk, hv⟩ := Transport.linked_bringUp hr hi ho hw.waits
  rw [← hv] at ha ⊢
  obtain ⟨core, ht, hf, hd, hn⟩ := takes_store hw.polls hw.transfers route mounted.core
    hk.obliging.injected hk.obliging.chunkScript ha data
  obtain ⟨next, last, hx, hk, rfl⟩ := hk.follow (conducted_store writer route.text data parents) ht
  have hrun : (storeFile writer route.text data parents).outcome transport.bus.withConsole
      (used, []) = (.ok (), (next, [storedLine route.text data.length])) := by
    rw [outcome_storeFile, outcome_bind_ok hb, hx]
  obtain ⟨hres, hstate⟩ := run_of_outcome hrun []
  refine ⟨last, ⟨hres, ?_, ?_⟩, hf, hn, fun again hr => ?_⟩
  · rw [show stored.state = _ from hstate]
  · rw [show stored.state = _ from hstate]
    exact hk.reaches
  · have hlk : (kept data).length < 2 ^ 32 := by
      unfold kept
      split
      · decide
      · exact hl
    obtain ⟨next, shown, hx, he⟩ := outcome_showFile hs hr hk.shows.idle hk.obliging route hd hf hlk
    obtain ⟨hres, hstate⟩ := run_of_outcome hx []
    refine ⟨hres, ?_⟩
    rw [hstate]
    exact he

/-- A chip with a status to report before its disk, which holds one file. -/
def outpost : Chip :=
  { attached := true, queued := [0x16], volume := ⟨[(['/', 'B'], .file [4])]⟩ }

/-- The path `/L/B`. -/
def nested : Route := ⟨['L'], [['B']], by decide, by decide, by decide⟩

/-- A drive with the patience for the longest transfer. -/
def steadfast : Drive := { config := .standard, patience := 257 }

/-- Over a bridge, a file is stored in a directory that is created for it, beside one of that name in
the root. -/
theorem shown_as_stored_bridged :
    (outpost.inTransaction = false ∧ outpost.Obliging 1 ∧ Patient 1 steadfast ∧
      Admits outpost.volume nested true) ∧
    let stored := (storeFile steadfast nested.text [1, 2, 3] true).run
      Transport.bridge.bus.withConsole ({ device := outpost }, []) []
    ∃ last : Chip, (stored.result = .ok () ∧ stored.state.1 = { device := last }) ∧
      last.volume.get? ['/', 'L', '/', 'B'] = some (.file [1, 2, 3]) ∧
      last.volume.get? ['/', 'B'] = some (.file [4]) ∧
      let shown := (showFile steadfast nested.text).run Transport.bridge.bus.withConsole
        ({ device := last }, []) []
      shown.result = .ok () ∧ shown.state.2.reverse.flatten = [1, 2, 3] := by
  have ho : outpost.Obliging 1 := ⟨rfl, rfl, Nat.le_refl 1, rfl, rfl⟩
  have hp : Patient 1 steadfast := ⟨by decide, by decide⟩
  have ha : Admits outpost.volume nested true :=
    { above := nofun
      parent := by
        rintro - parent ⟨⟩
        exact ⟨rfl, fun _ ⟨count, hc, _⟩ => absurd hc (Nat.not_lt_zero count)⟩
      bare := nofun }
  have hr : Transport.bridge.reaches { device := outpost } outpost := rfl
  have hn : ¬Touched nested true ['/', 'B'] := by
    rintro (h | ⟨-, parent, ⟨⟩, h⟩) <;> cases h
  refine ⟨⟨rfl, ho, hp, ha⟩, ?_⟩
  obtain ⟨last, ⟨hres, -, hlast⟩, hf, hu, hs⟩ := shown_as_stored Transport.bridge rfl ho hr hp hp
    nested (show [1, 2, 3].length < 2 ^ 32 by decide) ha
  exact ⟨last, ⟨hres, hlast⟩, hf, hu _ hn, hs _ rfl⟩

end Tool

end DiskBridge

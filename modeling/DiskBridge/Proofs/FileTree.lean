import DiskBridge.Proofs.CoreSteps
import DiskBridge.Proofs.TreeIntegrity
import Mathlib.Data.Nat.Find

/-!
# Paths as operations on a tree

Seen from outside, a drive and its chip are a tree of files and directories: whether an operation on
a path succeeds, what it answers and what it changes can be told from the nodes alone, wherever on
the disk the chip stands.

1. A name on the way is entered if it is that of a directory (`takes_enter`), and reported if it is
   missing (`takes_enter_missing`).
2. So a walk goes through directories one by one (`takes_walk_cons`). It selects the path it was
   given, and enters the last directory on the way (`takes_selectPath_arrived`), or ends at the
   first name that is missing (`takes_selectPath_missing`).
3. There the operation does to the node what it does to the selected path (`ends_openPath`,
   `puts_createPath`, `puts_createDirectoryPath`, `puts_erasePath`).

`pathOperations_on_tree` puts the four operations together.
-/

namespace DiskBridge

open Dialogue Utf8 Chip

namespace Volume

theorem isDirectory_of_contains {volume : Volume} {path : Path} (hc : volume.contains path = true)
    (hf : volume.file? path = none) : volume.isDirectory path = true := by
  rw [isDirectory_iff]
  by_cases hr : path = root
  · exact .inl hr
  · right
    unfold contains at hc
    unfold file? at hf
    cases hg : volume.get? path with
    | none => simp [hr, hg] at hc
    | some node =>
      cases node with
      | directory => rfl
      | file data => simp [hg] at hf

theorem get?_eq_none_of_contains {volume : Volume} {path : Path}
    (h : volume.contains path = false) : path ≠ root ∧ volume.get? path = none := by
  unfold contains at h
  simpa using h

/-- Whether a node can be erased is seen from the nodes alone. -/
theorem erasable_iff (volume : Volume) {path : Path} (hr : path ≠ root) :
    (path ≠ root && volume.contains path && !volume.hasBelow path) = true ↔
      (volume.get? path).isSome = true ∧
        ∀ other, path ++ ['/'] <+: other → volume.get? other = none := by
  have hb : volume.hasBelow path = false ↔
      ∀ other, path ++ ['/'] <+: other → volume.get? other = none := by
    rw [← Bool.not_eq_true, hasBelow_iff]
    simp
  simp [contains, hr, hb]

end Volume

namespace Route

variable (route : Route)

/-- The names of a route as they are sent: the first with the separator before it. -/
def segments : List (List Char) := ('/' :: route.first) :: route.rest

/-- The path of a route up to the name at an index. -/
def upTo (index : Nat) : Path := pathOf (route.first :: route.rest.take index)

theorem rest_plain : ∀ name ∈ route.rest, (name ≠ [] ∧ '/' ∉ name ∧ '\x00' ∉ name) ∧
    (encodeChars name).length ≤ Command.maxName :=
  fun name hm => ⟨route.plain name (List.mem_cons_of_mem _ hm), route.rest_short name hm⟩

/-- Where a route leads through directories, its path lies in one. -/
theorem inDirectory_path {volume : Volume}
    (h : ∀ path, route.Above path → volume.isDirectory path = true) :
    volume.inDirectory route.path = true := by
  have hp := route.plain
  unfold path
  rcases List.eq_nil_or_concat route.rest with hr | ⟨init, name, hr⟩
  · have hn := Volume.parent?_append [] (hp route.first List.mem_cons_self).2.1
    rw [hr, pathOf_cons, pathOf, List.flatMap_nil, List.append_nil]
    unfold Volume.inDirectory
    rw [List.nil_append] at hn
    rw [hn]
  · have hm : name ∈ route.first :: route.rest := by simp [hr]
    have hn := Volume.parent?_append (pathOf (route.first :: init)) (hp name hm).2.1
    have hs : pathOf (route.first :: route.rest) = pathOf (route.first :: init) ++ '/' :: name := by
      simp [hr, pathOf]
    have hd : volume.isDirectory (pathOf (route.first :: init)) = true :=
      h _ ⟨init.length, by simp [hr], by simp [hr]⟩
    unfold Volume.inDirectory
    rw [hs, hn]
    exact hd

end Route

namespace Drive

/-- What a walk leaves as it is. -/
structure Kept (before after : Core) : Prop where
  volume : after.volume = before.volume
  injected : after.injected = before.injected
  chunkScript : after.chunkScript = before.chunkScript

/-- The core after the directory at a path was entered. -/
def entered (core : Core) (path : Path) : Core :=
  { core with directory := path, selected := some path, openFile := none }

/-- The core after a walk that began with a name for `base` and went on along the names `rest`. If
there are some, the last directory on the way is entered and no file is open. -/
def reached (core : Core) (base : Path) (rest : List (List Char)) : Core :=
  { core with
    directory := if rest = [] then core.directory else base ++ pathOf rest.dropLast
    selected := some (base ++ pathOf rest)
    openFile := if rest = [] then core.openFile else none }

theorem reached_nil (core : Core) (base : Path) :
    reached core base [] = { core with selected := some base } := by
  rw [reached, append_pathOf_nil]
  rfl

/-- To walk on from a directory is to have come through it. -/
theorem reached_entered (core : Core) (base : Path) (next : List Char) (rest : List (List Char)) :
    reached (entered core base) (base ++ '/' :: next) rest = reached core base (next :: rest) := by
  cases rest with
  | nil => simp [reached, entered, pathOf]
  | cons last rest => simp [reached, entered, append_pathOf_cons]

/-- The core after the walk along a route. -/
abbrev arrived (core : Core) (route : Route) : Core := reached core ('/' :: route.first) route.rest

/-- The core after a file was created at the end of a route. -/
def created (core : Core) (route : Route) : Core :=
  { arrived core route with
    volume := core.volume.insert route.path (.file [0])
    openFile := some route.path
    cursor := 0 }

theorem kept_reached (core : Core) (base : Path) (rest : List (List Char)) :
    Kept core (reached core base rest) := ⟨rfl, rfl, rfl⟩

section Patient

variable {drive : Drive} (hp : drive.config.statusMode = .interrupt → 0 < drive.patience)

include hp

/-! ## Walking -/

section Enter

variable {name : List Char} (hn : '\x00' ∉ name) {core : Core} (hj : core.injected = [])

include hn hj

/-- A directory on the way is entered. -/
theorem takes_enter (hd : core.volume.isDirectory (resolveName core.directory name) = true) :
    Takes (drive.enterDirectory (encodeChars name)) core (.ok ())
      (entered core (resolveName core.directory name)) := by
  have ho : Takes drive.openSelected
      { core with selected := some (resolveName core.directory name) } _ _ :=
    takes_open_directory hp hj hd
  rw [enterDirectory]
  exact (takes_sendName hn core).bind (ho.attempt.bind (takes_done () _))

/-- A name on the way that is missing is reported. -/
theorem takes_enter_missing (hr : resolveName core.directory name ≠ Volume.root)
    (hm : core.volume.get? (resolveName core.directory name) = none) :
    Takes (drive.enterDirectory (encodeChars name)) core
      (.error (.error (.path (.directoryOpen (String.ofList name) .missing))))
      { core with selected := some (resolveName core.directory name) } := by
  have hl : decodeLossy (encodeChars name) = String.ofList name := by
    rw [decodeLossy, decodeLossyChars_encodeChars]
  have ho : Takes drive.openSelected
      { core with selected := some (resolveName core.directory name) } _ _ :=
    takes_open_missing hp hj hr hm
  rw [enterDirectory]
  refine (takes_sendName hn core).bind (ho.attempt.bind ?_)
  rw [hl]
  exact takes_failed _ _

end Enter

/-- A walk from a directory goes on in it. -/
theorem takes_walk_cons (path : String) {name : List Char} (hn : '\x00' ∉ name) {core : Core}
    (hj : core.injected = [])
    (hd : core.volume.isDirectory (resolveName core.directory name) = true)
    {next : List Char} (hs : '/' ∉ next) (hl : (encodeChars next).length ≤ Command.maxName)
    {rest : List (List Char)} {result : Except Stop Unit} {after : Core}
    (hw : Takes (drive.walk path (encodeChars next) (encodeChars (pathOf rest)))
      (entered core (resolveName core.directory name)) result after) :
    Takes (drive.walk path (encodeChars name) (encodeChars (pathOf (next :: rest)))) core result
      after := by
  have hsep : separator ∉ encodeChars next := not_mem_encodeChars rfl (by decide) hs
  rw [encodeChars_pathOf_cons, walk_separator]
  refine (takes_enter hp hn hj hd).bind ?_
  rw [walk_name drive path hsep (by simpa using hl)]
  exact hw

section Walk

variable (path : String) {name : List Char} (hn : name ≠ [] ∧ '\x00' ∉ name)
  {rest : List (List Char)}
  (hs : ∀ name ∈ rest, (name ≠ [] ∧ '/' ∉ name ∧ '\x00' ∉ name) ∧
    (encodeChars name).length ≤ Command.maxName)
  {core : Core} (hj : core.injected = []) {base : Path}
  (hb : resolveName core.directory name = base) (hr : base ≠ Volume.root)

include hn hs hj hb hr

/-- A walk through directories selects the path it was given. -/
theorem takes_walk
    (hd : ∀ count < rest.length,
      core.volume.isDirectory (base ++ pathOf (rest.take count)) = true) :
    Takes (drive.walk path (encodeChars name) (encodeChars (pathOf rest))) core (.ok ())
      (reached core base rest) := by
  induction rest generalizing name core base with
  | nil =>
    have hw : drive.walk path (encodeChars name) (encodeChars (pathOf [])) =
        sendName (encodeChars name) := walk_end drive path (encodeChars_ne_nil hn.1)
    rw [hw, reached_nil, ← hb]
    exact takes_sendName hn.2 core
  | cons next rest ih =>
    obtain ⟨⟨⟨hne, hns, hnn⟩, hnl⟩, hs⟩ := List.forall_mem_cons.1 hs
    subst hb
    have hd0 := hd 0 (Nat.succ_pos _)
    rw [List.take_zero, append_pathOf_nil] at hd0
    have hb' := resolveName_below hns hr
    have hj' : (entered core (resolveName core.directory name)).injected = [] := hj
    have hw := ih ⟨hne, hnn⟩ hs hj' hb'
      (hb' ▸ resolveName_ne_root hns hne) (by
        intro count hc
        rw [← append_pathOf_cons]
        exact hd (count + 1) (Nat.succ_lt_succ hc))
    rw [reached_entered] at hw
    exact takes_walk_cons hp path hn.2 hj hd0 hns hnl hw

/-- A walk ends at the first name that is missing. -/
theorem takes_walk_missing {index : Nat} (hi : index < rest.length) {segment : List Char}
    (hx : (name :: rest)[index]? = some segment)
    (hd : ∀ earlier < index,
      core.volume.isDirectory (base ++ pathOf (rest.take earlier)) = true)
    (hm : core.volume.get? (base ++ pathOf (rest.take index)) = none) :
    ∃ after, Takes (drive.walk path (encodeChars name) (encodeChars (pathOf rest))) core
        (.error (.error (.path (.directoryOpen (String.ofList segment) .missing)))) after ∧
      Kept core after := by
  induction rest generalizing name core base index with
  | nil => cases hi
  | cons next rest ih =>
    obtain ⟨⟨⟨hne, hns, hnn⟩, hnl⟩, hs⟩ := List.forall_mem_cons.1 hs
    subst hb
    cases index with
    | zero =>
      obtain rfl : name = segment := Option.some.inj hx
      rw [List.take_zero, append_pathOf_nil] at hm
      rw [encodeChars_pathOf_cons, walk_separator]
      exact ⟨_, (takes_enter_missing hp hn.2 hj hr hm).bind_error, rfl, rfl, rfl⟩
    | succ index =>
      have hd0 := hd 0 (Nat.succ_pos _)
      rw [List.take_zero, append_pathOf_nil] at hd0
      have hb' := resolveName_below hns hr
      rw [List.take_succ_cons, append_pathOf_cons] at hm
      obtain ⟨after, hw, hk⟩ :=
        ih ⟨hne, hnn⟩ hs (show (entered core _).injected = [] from hj) hb'
          (hb' ▸ resolveName_ne_root hns hne) (Nat.lt_of_succ_lt_succ hi) hx (by
            intro earlier he
            rw [← append_pathOf_cons]
            exact hd (earlier + 1) (Nat.succ_lt_succ he)) hm
      exact ⟨after, takes_walk_cons hp path hn.2 hj hd0 hns hnl hw, hk.volume, hk.injected,
        hk.chunkScript⟩

end Walk

section Select

variable (route : Route) (core : Core) (hj : core.injected = [])

include hj

/-- A path that leads through directories is selected, and the last of them entered. -/
theorem takes_selectPath_arrived
    (hd : ∀ path, route.Above path → core.volume.isDirectory path = true) :
    Takes (drive.selectPath route.text) core (.ok ()) (arrived core route) := by
  intro chip hc
  rw [selectPath_route]
  exact takes_walk hp route.text ⟨List.cons_ne_nil '/' route.first, route.nul_not_mem_root_first⟩
    route.rest_plain hj rfl route.root_first_ne_root (fun count hc => hd _ ⟨count, hc, rfl⟩) chip hc

theorem takes_selectPath (hd : ∀ path, route.Above path → core.volume.isDirectory path = true) :
    ∃ after, Takes (drive.selectPath route.text) core (.ok ()) after ∧
      after.path = route.path ∧ Kept core after :=
  ⟨_, takes_selectPath_arrived hp route core hj hd, rfl, kept_reached _ _ _⟩

/-- A file is created where no directory is in its place, and left open at its start. -/
theorem takes_createPath_created
    (hd : ∀ path, route.Above path → core.volume.isDirectory path = true)
    (hn : core.volume.get? route.path ≠ some .directory) :
    Takes (drive.createPath route.text) core (.ok ()) (created core route) := by
  have hf : core.volume.isDirectory route.path = false := by
    simp [Volume.isDirectory, route.path_ne_root, hn]
  have hj' : (arrived core route).injected = [] := hj
  exact (takes_selectPath_arrived hp route core hj hd).bind
    (takes_create hp hj' hf (route.inDirectory_path hd))

/-- The first directory on the way that is missing is reported by its name. -/
theorem takes_selectPath_missing {index : Nat} (hi : index < route.rest.length)
    {segment : List Char} (hx : route.segments[index]? = some segment)
    (hd : ∀ earlier < index, core.volume.isDirectory (route.upTo earlier) = true)
    (hm : core.volume.get? (route.upTo index) = none) :
    ∃ after, Takes (drive.selectPath route.text) core
        (.error (.error (.path (.directoryOpen (String.ofList segment) .missing)))) after ∧
      Kept core after := by
  obtain ⟨after, hw, hk⟩ := takes_walk_missing hp route.text
    ⟨List.cons_ne_nil '/' route.first, route.nul_not_mem_root_first⟩ route.rest_plain hj rfl
    route.root_first_ne_root hi hx hd hm
  refine ⟨after, ?_, hk⟩
  intro chip hc
  rw [selectPath_route]
  exact hw chip hc

end Select

end Patient

/-! ## Operations on a path -/

/-- How an operation on a chip ends: with a result, and with the chip ready for the next operation
and as described. -/
def Ends {α : Type} (operation : Operation α) (chip : Chip) (result : Except Stop α)
    (described : Chip → Prop) : Prop :=
  ∀ journal, (operation.run Chip.device chip journal).result = result ∧
    (operation.run Chip.device chip journal).state.Ready ∧
    described (operation.run Chip.device chip journal).state

/-- An operation fails and leaves the disk as it is. -/
def Refuses {α : Type} (operation : Operation α) (chip : Chip) (error : Error) : Prop :=
  Ends operation chip (.error (.error error)) fun last => last.volume = chip.volume

/-- An operation succeeds on a condition, and then puts `node?` at `path` and leaves the chip as
described. Without the condition it fails. -/
def Puts (operation : Operation Unit) (chip : Chip) (path : Path) (node? : Option Node)
    (condition : Prop) (described : Chip → Prop) (error : Error) : Prop :=
  (condition → Ends operation chip (.ok ()) fun last =>
      (∀ other, last.volume.get? other = if other = path then node? else chip.volume.get? other) ∧
        described last) ∧
    (¬condition → Refuses operation chip error)

theorem Ends.of_takes {α : Type} {operation : Operation α} {chip : Chip} {after : Core}
    {result : Except Stop α} {described : Chip → Prop} (hr : chip.Ready)
    (h : Takes operation chip.core result after) (hj : after.injected = [])
    (hd : ∀ last : Chip, last.core = after → described last) :
    Ends operation chip result described := by
  intro journal
  obtain ⟨last, ho, hl, hi⟩ := h chip rfl
  obtain ⟨hr', hs⟩ := run_of_outcome ho journal
  rw [hr', hs]
  exact ⟨rfl, ⟨hi hr.idle, (congrArg Core.injected hl).trans hj⟩, hd last hl⟩

section Route

variable {drive : Drive} (hp : drive.config.statusMode = .interrupt → 0 < drive.patience)
  {route : Route} {chip : Chip} (h : chip.Ready)

include hp h

/-- Where a directory on the way is missing, every operation on the path fails alike. -/
theorem refuses_missing {index : Nat} (hi : index < route.rest.length) {segment : List Char}
    (hs : route.segments[index]? = some segment)
    (hd : ∀ earlier < index, chip.volume.isDirectory (route.upTo earlier) = true)
    (hm : chip.volume.get? (route.upTo index) = none) {α : Type} (operation : Operation α) :
    Refuses (drive.selectPath route.text >>= fun _ => operation) chip
      (.path (.directoryOpen (String.ofList segment) .missing)) := by
  obtain ⟨after, ht, hk⟩ := takes_selectPath_missing hp route chip.core h.plain hi hs hd hm
  exact .of_takes h ht.bind_error (hk.injected.trans h.plain)
    fun last hl => (congrArg Core.volume hl).trans hk.volume

variable (hd : ∀ path, route.Above path → chip.volume.isDirectory path = true)

include hd

/-- Where all on the way is a directory, an operation on a path is one on the selected path. -/
theorem ends_select {α : Type} {operation : Operation α} {result : Except Stop α}
    {described : Chip → Prop}
    (hn : ∀ core : Core, core.injected = [] → core.path = route.path →
      core.volume = chip.volume → ∃ after, Takes operation core result after ∧
        after.injected = [] ∧ ∀ last : Chip, last.core = after → described last) :
    Ends (drive.selectPath route.text >>= fun _ => operation) chip result described := by
  obtain ⟨core, hs, hc, hk⟩ := takes_selectPath hp route chip.core h.plain hd
  obtain ⟨after, ht, hj, hl⟩ := hn core (hk.injected.trans h.plain) hc hk.volume
  exact .of_takes h (hs.bind ht) hj hl

/-- What an open answers is what the path names. -/
theorem ends_openPath :
    Ends (drive.openPath route.text) chip
      (match chip.volume.get? route.path with
        | some .directory => .ok ⟨true⟩
        | some (.file _) => .ok ⟨false⟩
        | none => .error (.error (.unexpectedStatus .fileOpen .missing)))
      fun last => last.volume = chip.volume := by
  refine ends_select hp h hd fun core hj hc hv => ?_
  have hr := route.path_ne_root
  rw [← hc] at hr
  rw [← hc, ← hv]
  cases hg : core.volume.get? core.path with
  | none =>
    exact ⟨_, takes_open_missing hp hj hr hg, hj, fun last hl => congrArg Core.volume hl⟩
  | some node =>
    cases node with
    | directory =>
      exact ⟨_, takes_open_directory hp hj (Volume.isDirectory_iff.2 (.inr hg)), hj,
        fun last hl => congrArg Core.volume hl⟩
    | file data =>
      have hn : core.volume.isDirectory core.path = false := by
        simp [Volume.isDirectory, hr, hg]
      have hf : core.volume.file? core.path = some data := by
        rw [Volume.file?, hg]
      exact ⟨_, takes_open_file hp hj hn hf, hj, fun last hl => congrArg Core.volume hl⟩

/-- A file is created unless a directory is in its place. -/
theorem puts_createPath :
    Puts (drive.createPath route.text) chip route.path (some (.file [0]))
      (chip.volume.get? route.path ≠ some .directory)
      (fun last => last.openFile = some route.path ∧ last.cursor = 0)
      (.unexpectedStatus .fileCreate .nameTaken) := by
  have hr := route.path_ne_root
  have hi := route.inDirectory_path hd
  constructor
  · intro hg
    refine ends_select hp h hd fun core hj hc hv => ?_
    rw [← hc] at hr
    rw [← hc, ← hv] at hg hi ⊢
    have hn : core.volume.isDirectory core.path = false := by
      simp [Volume.isDirectory, hr, hg]
    refine ⟨_, takes_create hp hj hn hi, hj, fun last hl => ⟨fun other => ?_, ?_, ?_⟩⟩
    · rw [show last.volume = _ from congrArg Core.volume hl, Volume.get?_insert]
    · exact congrArg Core.openFile hl
    · exact congrArg Core.cursor hl
  · intro hg
    refine ends_select hp h hd fun core hj hc hv => ?_
    rw [← hc, ← hv] at hg
    have hn : core.volume.isDirectory core.path = true :=
      Volume.isDirectory_iff.2 (.inr (Decidable.not_not.1 hg))
    exact ⟨_, takes_create_taken hp hj hn, hj, fun last hl => (congrArg Core.volume hl).trans hv⟩

/-- A directory is created unless a file is in its place. -/
theorem puts_createDirectoryPath :
    Puts (drive.createDirectoryPath route.text) chip route.path (some .directory)
      (chip.volume.file? route.path = none) (fun last => last.directory = route.path)
      (.unexpectedStatus .dirCreate .nameTaken) := by
  have hi := route.inDirectory_path hd
  constructor
  · intro hf
    refine ends_select hp h hd fun core hj hc hv => ?_
    rw [← hc, ← hv] at hf hi ⊢
    refine ⟨_, takes_createDirectory hp hj hf hi, hj, fun last hl => ⟨fun other => ?_, ?_⟩⟩
    · rw [show last.volume = _ from congrArg Core.volume hl, Volume.get?_insert]
    · exact congrArg Core.directory hl
  · intro hf
    refine ends_select hp h hd fun core hj hc hv => ?_
    rw [← hc, ← hv] at hf
    obtain ⟨data, hf⟩ := Option.ne_none_iff_exists'.1 hf
    exact ⟨_, takes_createDirectory_taken hp hj hf, hj,
      fun last hl => (congrArg Core.volume hl).trans hv⟩

/-- What has nothing below it is erased. -/
theorem puts_erasePath :
    Puts (drive.erasePath route.text) chip route.path none
      ((chip.volume.get? route.path).isSome = true ∧
        ∀ other, route.path ++ ['/'] <+: other → chip.volume.get? other = none)
      (fun last => last.openFile ≠ some route.path) (.unexpectedStatus .fileErase .missing) := by
  have he := chip.volume.erasable_iff route.path_ne_root
  constructor
  · intro hg
    refine ends_select hp h hd fun core hj hc hv => ?_
    rw [← hc, ← hv] at he hg ⊢
    refine ⟨_, takes_erase hp hj rfl (he.2 hg), hj, fun last hl => ⟨fun other => ?_, ?_⟩⟩
    · rw [show last.volume = _ from congrArg Core.volume hl, Volume.get?_erase]
    · have ho : last.openFile = _ := congrArg Core.openFile hl
      show last.openFile ≠ some core.path
      rw [ho]
      split
      · exact nofun
      · assumption
  · intro hg
    refine ends_select hp h hd fun core hj hc hv => ?_
    rw [← hc, ← hv] at he hg
    exact ⟨_, takes_erase_missing hp hj rfl (Bool.eq_false_iff.2 (mt he.1 hg)), hj,
      fun last hl => (congrArg Core.volume hl).trans hv⟩

end Route

/-- **Paths on a tree.** Take any chip outside a transaction that reports the statuses it computes,
and a path in canonical form above which there is no file. If something above it is missing, each
operation fails with the name of the first that is, as it was sent. Otherwise an open answers what
the path names, a file is created unless a directory is in its place, a directory is created unless
a file is in its place, and what has nothing below it is erased. No other node changes, and none at
all if the operation fails. -/
theorem pathOperations_on_tree (drive : Drive)
    (hp : drive.config.statusMode = .interrupt → 0 < drive.patience) (route : Route) (chip : Chip)
    (h : chip.Ready) (hf : ∀ path, route.Above path → chip.volume.file? path = none) :
    ((∃ path, route.Above path ∧ chip.volume.contains path = false) →
      ∃ index segment, index < route.rest.length ∧ route.segments[index]? = some segment ∧
        (∀ earlier < index, chip.volume.contains (route.upTo earlier) = true) ∧
        chip.volume.contains (route.upTo index) = false ∧
        let error : Error := .path (.directoryOpen (String.ofList segment) .missing)
        Refuses (drive.openPath route.text) chip error ∧
          Refuses (drive.createPath route.text) chip error ∧
          Refuses (drive.createDirectoryPath route.text) chip error ∧
          Refuses (drive.erasePath route.text) chip error) ∧
    ((∀ path, route.Above path → chip.volume.contains path = true) →
      Ends (drive.openPath route.text) chip
          (match chip.volume.get? route.path with
            | some .directory => .ok ⟨true⟩
            | some (.file _) => .ok ⟨false⟩
            | none => .error (.error (.unexpectedStatus .fileOpen .missing)))
          (fun last => last.volume = chip.volume) ∧
        Puts (drive.createPath route.text) chip route.path (some (.file [0]))
          (chip.volume.get? route.path ≠ some .directory)
          (fun last => last.openFile = some route.path ∧ last.cursor = 0)
          (.unexpectedStatus .fileCreate .nameTaken) ∧
        Puts (drive.createDirectoryPath route.text) chip route.path (some .directory)
          (chip.volume.file? route.path = none) (fun last => last.directory = route.path)
          (.unexpectedStatus .dirCreate .nameTaken) ∧
        Puts (drive.erasePath route.text) chip route.path none
          ((chip.volume.get? route.path).isSome = true ∧
            ∀ other, route.path ++ ['/'] <+: other → chip.volume.get? other = none)
          (fun last => last.openFile ≠ some route.path)
          (.unexpectedStatus .fileErase .missing)) := by
  constructor
  · rintro ⟨_, ⟨count, hc, rfl⟩, hm⟩
    have hx : ∃ index, chip.volume.contains (route.upTo index) = false := ⟨count, hm⟩
    have hi : Nat.find hx < route.rest.length := Nat.lt_of_le_of_lt (Nat.find_min' hx hm) hc
    have he : ∀ earlier < Nat.find hx, chip.volume.contains (route.upTo earlier) = true :=
      fun earlier hl => eq_true_of_ne_false (Nat.find_min hx hl)
    obtain ⟨segment, hs⟩ : ∃ segment, route.segments[Nat.find hx]? = some segment :=
      ⟨_, List.getElem?_eq_getElem (Nat.lt_succ_of_lt hi)⟩
    have hd : ∀ earlier < Nat.find hx, chip.volume.isDirectory (route.upTo earlier) = true :=
      fun earlier hl => Volume.isDirectory_of_contains (he earlier hl)
        (hf _ ⟨earlier, Nat.lt_trans hl hi, rfl⟩)
    have hn := (Volume.get?_eq_none_of_contains (Nat.find_spec hx)).2
    have hr {α : Type} (operation : Operation α) :=
      refuses_missing hp h hi hs hd hn operation
    exact ⟨_, segment, hi, hs, he, Nat.find_spec hx, hr _, hr _, hr _, hr _⟩
  · intro hc
    have hd : ∀ path, route.Above path → chip.volume.isDirectory path = true :=
      fun path ha => Volume.isDirectory_of_contains (hc path ha) (hf path ha)
    exact ⟨ends_openPath hp h hd, puts_createPath hp h hd, puts_createDirectoryPath hp h hd,
      puts_erasePath hp h hd⟩

/-- A directory `/L` with a file `/L/B` that is open, while the chip stands elsewhere: the file can
be opened and created anew, but no directory made in its place. Nothing is found at `/M/B`, for want
of `/M`. -/
theorem pathOperations_on_tree_nested :
    let drive : Drive := { config := {}, patience := 1 }
    let inside : Route := ⟨['L'], [['B']], by decide, by decide, by decide⟩
    let outside : Route := ⟨['M'], [['B']], by decide, by decide, by decide⟩
    let chip : Chip :=
      { attached := true
        volume := ⟨[(['/', 'L'], .directory), (['/', 'L', '/', 'B'], .file [1])]⟩
        directory := ['/', 'X']
        openFile := some ['/', 'L', '/', 'B'] }
    chip.Ready ∧ (∀ path, inside.Above path → chip.volume.file? path = none) ∧
      (∀ path, outside.Above path → chip.volume.file? path = none) ∧
      Ends (drive.openPath inside.text) chip (.ok ⟨false⟩) (fun last => last.volume = chip.volume) ∧
      Ends (drive.createPath inside.text) chip (.ok ())
        (fun last => last.volume.get? inside.path = some (.file [0])) ∧
      Refuses (drive.createDirectoryPath inside.text) chip
        (.unexpectedStatus .dirCreate .nameTaken) ∧
      Refuses (drive.erasePath outside.text) chip (.path (.directoryOpen "/M" .missing)) := by
  intro drive inside outside chip
  have hp : drive.config.statusMode = .interrupt → 0 < drive.patience := fun _ => Nat.one_pos
  have h : chip.Ready := ⟨rfl, rfl⟩
  have hi : ∀ path, inside.Above path → path = ['/', 'L'] := by
    rintro _ ⟨count, hc, rfl⟩
    obtain rfl : count = 0 := Nat.lt_one_iff.1 hc
    rfl
  have ho : ∀ path, outside.Above path → path = ['/', 'M'] := by
    rintro _ ⟨count, hc, rfl⟩
    obtain rfl : count = 0 := Nat.lt_one_iff.1 hc
    rfl
  have hfi : ∀ path, inside.Above path → chip.volume.file? path = none := by
    intro path ha
    rw [hi path ha]
    rfl
  have hfo : ∀ path, outside.Above path → chip.volume.file? path = none := by
    intro path ha
    rw [ho path ha]
    rfl
  obtain ⟨hopen, hcreate, hdirectory, -⟩ :=
    (pathOperations_on_tree drive hp inside chip h hfi).2 (by
      intro path ha
      rw [hi path ha]
      rfl)
  obtain ⟨index, segment, hl, hs, -, -, -, -, -, herase⟩ :=
    (pathOperations_on_tree drive hp outside chip h hfo).1 ⟨['/', 'M'], ⟨0, Nat.one_pos, rfl⟩, rfl⟩
  obtain rfl : index = 0 := Nat.lt_one_iff.1 hl
  obtain rfl : ['/', 'M'] = segment := Option.some.inj hs
  refine ⟨h, hfi, hfo, hopen, fun journal => ?_, hdirectory.2 (by decide), herase⟩
  obtain ⟨hr, hl, hn, -⟩ := hcreate.1 (by decide) journal
  exact ⟨hr, hl, hn inside.path⟩

end Drive

end DiskBridge

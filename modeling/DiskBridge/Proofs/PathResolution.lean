import DiskBridge.Drive.Path
import DiskBridge.Proofs.ChipTransactions
import DiskBridge.Proofs.Utf8

/-!
# Paths and the nodes they name

A drive resolves a path by selecting and opening one name after the other. Opening a directory
enters it, and the next name is looked up there. Opening a file succeeds as well, but the chip stays
where it was.

1. A name is read off the path up to its separator (`walk_name`, `walk_separator`, `walk_end`), and
   selected on the chip as it stands in the path (`outcome_sendName`).
2. Where no file stands in the way, a name that can be opened is the name of a directory, and the
   chip enters it (`outcome_enterDirectory`).
3. By induction over the names, the path that is selected at the end is the one that was given
   (`outcome_walk`, `outcome_selectPath`).
4. What is done to the selected path then leaves all other nodes as they are (`onlyAt_of_effect`).

`selectPath_names_node` states when a path names its node, and `selectPath_through_file` that a file
in the way makes it name another.
-/

namespace DiskBridge

open Dialogue Utf8

/-! ## Routes -/

/-- The path made of some names, each after a separator. -/
def pathOf (names : List (List Char)) : Path := names.flatMap ('/' :: ·)

/-- A path from the root, name by name. No name is empty or holds a separator or the character
that ends names, and each is short enough to be sent, the first with the separator before it. -/
structure Route where
  first : List Char
  rest : List (List Char)
  plain : ∀ name ∈ first :: rest, name ≠ [] ∧ '/' ∉ name ∧ '\x00' ∉ name
  first_short : (encodeChars first).length < Command.maxName
  rest_short : ∀ name ∈ rest, (encodeChars name).length ≤ Command.maxName

namespace Route

def path (route : Route) : Path := pathOf (route.first :: route.rest)

def text (route : Route) : String := String.ofList route.path

/-- The paths that a route leads through, below the root: those of some of its names, not of all. -/
def Above (route : Route) (path : Path) : Prop :=
  ∃ count < route.rest.length, path = pathOf (route.first :: route.rest.take count)

end Route

theorem pathOf_cons (name : List Char) (rest : List (List Char)) :
    pathOf (name :: rest) = '/' :: (name ++ pathOf rest) := rfl

theorem pathOf_ne_root {name : List Char} (h : name ≠ []) (rest : List (List Char)) :
    pathOf (name :: rest) ≠ Volume.root := by
  intro hr
  rw [pathOf_cons, Volume.root, List.cons.injEq, List.append_eq_nil_iff] at hr
  exact h hr.2.1

namespace Route

theorem path_ne_root (route : Route) : route.path ≠ Volume.root :=
  pathOf_ne_root (route.plain route.first List.mem_cons_self).1 _

theorem root_first_ne_root (route : Route) : '/' :: route.first ≠ Volume.root := by
  intro hr
  exact (route.plain route.first List.mem_cons_self).1 (List.cons.inj hr).2

theorem nul_not_mem_root_first (route : Route) : '\x00' ∉ '/' :: route.first := by
  intro hm
  rcases List.mem_cons.1 hm with hm | hm
  · cases hm
  · exact (route.plain route.first List.mem_cons_self).2.2 hm

/-- No path is above itself. -/
theorem ne_path_of_above {route : Route} {path : Path} (h : route.Above path) :
    path ≠ route.path := by
  obtain ⟨count, hc, rfl⟩ := h
  obtain ⟨name, names, hd⟩ : ∃ name names, route.rest.drop count = name :: names :=
    List.exists_cons_of_ne_nil (mt List.drop_eq_nil_iff.1 (Nat.not_le.2 hc))
  have hp : route.path = pathOf (route.first :: route.rest.take count) ++ pathOf (name :: names) := by
    rw [← hd, pathOf, pathOf, ← List.flatMap_append, List.cons_append, List.take_append_drop]
    rfl
  rw [hp, pathOf_cons name]
  simp

/-- A directory that a route leads through is no file. -/
theorem file?_above {route : Route} {volume : Volume} {path : Path} (h : route.Above path)
    (hd : volume.isDirectory path = true) : volume.file? path = none := by
  obtain ⟨count, -, rfl⟩ := h
  have hr := pathOf_ne_root (route.plain route.first List.mem_cons_self).1
    (route.rest.take count)
  have hg : volume.get? (pathOf (route.first :: route.rest.take count)) = some .directory := by
    simpa [Volume.isDirectory, hr] using hd
  rw [Volume.file?, hg]

end Route

theorem append_pathOf_nil (base : Path) : base ++ pathOf [] = base := List.append_nil base

theorem append_pathOf_cons (base : Path) (name : List Char) (rest : List (List Char)) :
    base ++ pathOf (name :: rest) = base ++ '/' :: name ++ pathOf rest := by
  rw [pathOf_cons, List.append_assoc, List.cons_append]

theorem encodeChars_pathOf_cons (name : List Char) (rest : List (List Char)) :
    encodeChars (pathOf (name :: rest)) =
      Drive.separator :: (encodeChars name ++ encodeChars (pathOf rest)) := by
  rw [pathOf_cons, encodeChars_cons, encodeChars_append]
  rfl

theorem encodeChars_ne_nil {chars : List Char} (h : chars ≠ []) : encodeChars chars ≠ [] := by
  obtain ⟨c, rest, rfl⟩ := List.exists_cons_of_ne_nil h
  rw [encodeChars_cons]
  exact List.append_ne_nil_of_left_ne_nil String.utf8EncodeChar_ne_nil _

namespace Drive

/-! ## Reading names off a path -/

section Walk

variable (drive : Drive) (path : String)

/-- Bytes other than separators are added to the name. -/
theorem walk_name {name part rest : List UInt8} (hs : separator ∉ part)
    (hl : name.length + part.length ≤ Command.maxName) :
    drive.walk path name (part ++ rest) = drive.walk path (name ++ part) rest := by
  induction part generalizing name with
  | nil => rw [List.nil_append, List.append_nil]
  | cons byte part ih =>
    obtain ⟨hb, hp⟩ := not_or.1 (mt List.mem_cons.2 hs)
    rw [List.length_cons] at hl
    have hn : (name ++ [byte]).length + part.length ≤ Command.maxName := by
      rw [List.length_append, List.length_singleton]
      omega
    rw [List.cons_append, walk, if_neg (Ne.symm hb), if_neg (by omega), ih hp hn,
      List.append_assoc]
    rfl

/-- A separator ends a name, which is entered. -/
theorem walk_separator (name rest : List UInt8) :
    drive.walk path name (separator :: rest) =
      drive.enterDirectory name >>= fun _ => drive.walk path [] rest := by
  rw [walk, if_pos rfl]

/-- The end of the path ends the last name, which is only selected. -/
theorem walk_end {name : List UInt8} (h : name ≠ []) : drive.walk path name [] = sendName name := by
  rw [walk, if_neg (by simpa using h)]

end Walk

/-! ## Names on the chip -/

theorem takeWhile_nameEnd {name : List UInt8} (h : Command.nameEnd ∉ name) :
    (name ++ [Command.nameEnd]).takeWhile (· ≠ Command.nameEnd) = name := by
  rw [List.takeWhile_append_of_pos]
  · simp
  · intro byte hb
    simpa using ne_of_mem_of_not_mem hb h

/-- The chip after a name was sent: it is selected, from the root or in the current directory. -/
def named (chip : Chip) (name : List Char) : Chip :=
  { chip.settled with
    selected := some (Chip.resolveName chip.directory name)
    transactions :=
      (Command.fileName.opcode :: (encodeChars name ++ [Command.nameEnd])) :: chip.transactions }

theorem outcome_sendName {name : List Char} (hn : '\x00' ∉ name) (chip : Chip) :
    (sendName (encodeChars name)).outcome Chip.device chip = (.ok (), named chip name) := by
  have hq : Chip.Quiet Command.fileName.opcode := Chip.quiet_of_unanswered (by decide)
  have he : Command.nameEnd ∉ encodeChars name := not_mem_encodeChars rfl (by decide) hn
  have hc (chip : Chip) : chip.complete (Command.fileName.opcode :: (encodeChars name ++
      [Command.nameEnd])) =
        { chip with selected := some (Chip.resolveName chip.directory name) } := by
    rw [Chip.complete, List.head?_cons, Option.bind_some, Command.ofOpcode?_opcode]
    simp only [Chip.executeName, List.drop_succ_cons, List.drop_zero]
    rw [takeWhile_nameEnd he, decodeLossyChars_encodeChars]
  have ho := Chip.outcome_sendCommand hq chip (encodeChars name ++ [Command.nameEnd])
  rw [Chip.carryOut_eq, hc] at ho
  rw [sendName, outcome_say_bind]
  exact ho

theorem ready_named {chip : Chip} (h : chip.Ready) (name : List Char) : (named chip name).Ready :=
  ⟨rfl, h.plain⟩

/-- Opening the selected path has its effect, whether it succeeds or not. -/
theorem outcome_openSelected (drive : Drive) {chip : Chip} (h : chip.Ready) :
    ∃ result status last, drive.openSelected.outcome Chip.device chip = (result, last) ∧
      Chip.Effect chip.contents .fileOpen status last.contents ∧ last.Ready ∧
      ∀ opened, result = .ok opened →
        opened.isDirectory = false ∧ status = .success ∨
          opened.isDirectory = true ∧ status = .openedDirectory := by
  obtain ⟨result, status, last, ho, hr, he, hl⟩ :=
    Chip.outcome_onSelected drive .fileOpen (by decide) h
  rw [openSelected, outcome_say_bind]
  rcases hr with rfl | rfl
  · rw [outcome_bind_ok ho]
    split
    · exact ⟨_, _, last, rfl, he, hl, fun opened hk => by cases hk; exact .inl ⟨rfl, rfl⟩⟩
    · exact ⟨_, _, last, rfl, he, hl, fun opened hk => by cases hk; exact .inr ⟨rfl, rfl⟩⟩
    · exact ⟨_, _, last, rfl, he, hl, nofun⟩
  · rw [outcome_bind_error ho]
    exact ⟨_, _, last, rfl, he, hl, nofun⟩

/-- A name is entered without a change to the disk. Where no file of the name stands in the way, a
name that can be entered is that of a directory, and the chip is in it afterwards. -/
theorem outcome_enterDirectory (drive : Drive) {name : List Char} (hn : '\x00' ∉ name) {chip : Chip}
    (h : chip.Ready) :
    ∃ result last, (drive.enterDirectory (encodeChars name)).outcome Chip.device chip =
        (result, last) ∧
      last.Ready ∧ last.volume = chip.volume ∧
      (chip.volume.file? (Chip.resolveName chip.directory name) = none →
        (last.openFile = none ∨ last.openFile = chip.openFile) ∧
          (result = .ok () →
            chip.volume.isDirectory (Chip.resolveName chip.directory name) = true ∧
              last.directory = Chip.resolveName chip.directory name)) := by
  have hs := outcome_sendName hn chip
  obtain ⟨result, status, last, ho, he, hl, hk⟩ :=
    outcome_openSelected drive (ready_named h name)
  obtain ⟨ending, hm, hi⟩ : ∃ ending,
      (drive.enterDirectory (encodeChars name)).outcome Chip.device chip = (ending, last) ∧
        (ending = .ok () → ∃ opened, result = .ok opened) := by
    have ht : (drive.openSelected.attempt : Operation (Except Stop Opened)).outcome Chip.device
        (named chip name) = (.ok result, last) := by
      rw [outcome_attempt, ho]
    rw [enterDirectory, outcome_bind_ok hs, outcome_bind_ok ht]
    split
    · next opened => exact ⟨_, rfl, fun _ => ⟨opened, rfl⟩⟩
    · exact ⟨_, rfl, nofun⟩
    · exact ⟨_, rfl, nofun⟩
  refine ⟨ending, last, hm, hl, ?_⟩
  generalize ha : last.contents = after at he
  cases he with
  | entered hd =>
    exact ⟨congrArg Chip.Contents.volume ha, fun _ => ⟨.inl (congrArg Chip.Contents.openFile ha),
      fun _ => ⟨hd, congrArg Chip.Contents.directory ha⟩⟩⟩
  | opened hd =>
    exact ⟨congrArg Chip.Contents.volume ha,
      fun hf => absurd hf (Option.isSome_iff_ne_none.1 hd)⟩
  | notOpened hd =>
    refine ⟨congrArg Chip.Contents.volume ha,
      fun _ => ⟨.inr (congrArg Chip.Contents.openFile ha), fun hr => ?_⟩⟩
    obtain ⟨opened, hr⟩ := hi hr
    rcases hk opened hr with ⟨-, hs⟩ | ⟨-, hs⟩ <;> cases hs
  | refused hc => exact absurd rfl hc

/-! ## Paths on the chip -/

section Resolve

variable {directory name : Path} (hs : '/' ∉ name)

include hs

/-- A name without a separator is looked up in the current directory. -/
theorem resolveName_below (hd : directory ≠ Volume.root) :
    Chip.resolveName directory name = directory ++ '/' :: name := by
  have hh : name.head? ≠ some '/' := fun h => hs (List.mem_of_head? h)
  rw [Chip.resolveName, if_neg hh, if_neg hd]

theorem resolveName_ne_root (hn : name ≠ []) : Chip.resolveName directory name ≠ Volume.root := by
  have hh : name.head? ≠ some '/' := fun h => hs (List.mem_of_head? h)
  have hl := List.length_pos_iff.2 hn
  intro hr
  have := congrArg List.length hr
  rw [Chip.resolveName, if_neg hh, Volume.root, List.length_singleton] at this
  split at this
  · rw [List.length_cons] at this
    omega
  · rw [List.length_append, List.length_cons] at this
    omega

end Resolve

/-- No file stands in the way from `base` along the names `rest`. -/
def Clear (volume : Volume) (base : Path) (rest : List (List Char)) : Prop :=
  ∀ count < rest.length, volume.file? (base ++ pathOf (rest.take count)) = none

/-- How a walk ends that began at `chip` with a name for `base` and went on along the names
`rest`. -/
structure Walked (chip : Chip) (base : Path) (rest : List (List Char)) (result : Except Stop Unit)
    (last : Chip) : Prop where
  ready : last.Ready
  volume : last.volume = chip.volume
  openFile : Clear chip.volume base rest →
    last.openFile = none ∨ last.openFile = chip.openFile
  directories : Clear chip.volume base rest → result = .ok () → ∀ count < rest.length,
    chip.volume.isDirectory (base ++ pathOf (rest.take count)) = true
  selected : Clear chip.volume base rest → result = .ok () →
    last.selected = some (base ++ pathOf rest)

section Cons

variable {chip middle last : Chip} {base : Path} {next : List Char} {rest : List (List Char)}
  {result : Except Stop Unit} (hv : middle.volume = chip.volume)

include hv

theorem Clear.tail (h : Clear chip.volume base (next :: rest)) :
    Clear middle.volume (base ++ '/' :: next) rest := by
  intro count hc
  rw [hv, ← append_pathOf_cons]
  exact h (count + 1) (Nat.succ_lt_succ hc)

/-- A walk that entered `base` and went on from there. -/
theorem Walked.cons (hw : Walked middle (base ++ '/' :: next) rest result last)
    (ho : middle.openFile = none ∨ middle.openFile = chip.openFile)
    (hd : chip.volume.isDirectory base = true) :
    Walked chip base (next :: rest) result last where
  ready := hw.ready
  volume := hw.volume.trans hv
  openFile := by
    intro hc
    rcases hw.openFile (hc.tail hv) with h | h
    · exact .inl h
    · rw [h]
      exact ho
  directories := by
    intro hc hr count hl
    cases count with
    | zero =>
      rw [List.take_zero, append_pathOf_nil]
      exact hd
    | succ count =>
      rw [List.take_succ_cons, append_pathOf_cons, ← hv]
      exact hw.directories (hc.tail hv) hr count (Nat.lt_of_succ_lt_succ hl)
  selected := by
    intro hc hr
    rw [append_pathOf_cons]
    exact hw.selected (hc.tail hv) hr

end Cons

/-- A walk leaves the disk as it is, and where no file stands in the way it ends at the path it was
given. -/
theorem outcome_walk (drive : Drive) (path : String) (name : List Char) {rest : List (List Char)}
    {chip : Chip} {base : Path} (h : chip.Ready) (hn : name ≠ []) (he : '\x00' ∉ name)
    (hp : ∀ name ∈ rest, name ≠ [] ∧ '/' ∉ name ∧ '\x00' ∉ name)
    (hs : ∀ name ∈ rest, (encodeChars name).length ≤ Command.maxName)
    (hb : Chip.resolveName chip.directory name = base) (hr : base ≠ Volume.root) :
    ∃ result last, (drive.walk path (encodeChars name) (encodeChars (pathOf rest))).outcome
        Chip.device chip = (result, last) ∧ Walked chip base rest result last := by
  induction rest generalizing name chip base with
  | nil =>
    refine ⟨_, named chip name, ?_, ready_named h name, rfl, fun _ => .inr rfl, nofun,
      fun _ _ => ?_⟩
    · rw [← outcome_sendName he chip]
      exact congrArg (·.outcome Chip.device chip) (walk_end drive path (encodeChars_ne_nil hn))
    · rw [append_pathOf_nil, ← hb]
      rfl
  | cons next rest ih =>
    obtain ⟨⟨hnn, hns, hne⟩, hp⟩ := List.forall_mem_cons.1 hp
    obtain ⟨hnl, hs⟩ := List.forall_mem_cons.1 hs
    have hsep : separator ∉ encodeChars next := not_mem_encodeChars rfl (by decide) hns
    obtain ⟨entered, middle, ho, hm, hv, hf⟩ := outcome_enterDirectory drive he h
    rw [hb] at hf
    have hc0 (hc : Clear chip.volume base (next :: rest)) : chip.volume.file? base = none := by
      rw [← append_pathOf_nil base]
      exact hc 0 (Nat.succ_pos _)
    rw [encodeChars_pathOf_cons, walk_separator]
    cases entered with
    | error cause =>
      rw [outcome_bind_error ho]
      exact ⟨_, middle, rfl, hm, hv, fun hc => (hf (hc0 hc)).1, nofun, nofun⟩
    | ok entered =>
      rw [outcome_bind_ok ho, walk_name drive path hsep (by simpa using hnl), List.nil_append]
      obtain ⟨result, last, hl, hw⟩ :=
        ih next hm hnn hne hp hs rfl (resolveName_ne_root hns hnn)
      refine ⟨result, last, hl, ?_⟩
      by_cases hb0 : chip.volume.file? base = none
      · obtain ⟨ho, hd⟩ := hf hb0
        obtain ⟨hd, hm⟩ := hd rfl
        rw [hm, resolveName_below hns hr] at hw
        exact hw.cons hv ho hd
      -- The chip has stayed where it was, and the rest of the walk starts from there.
      · exact ⟨hw.ready, hw.volume.trans hv, fun hc => absurd (hc0 hc) hb0,
          fun hc => absurd (hc0 hc) hb0, fun hc => absurd (hc0 hc) hb0⟩

theorem clear_of_above {route : Route} {volume : Volume}
    (h : ∀ path, route.Above path → volume.file? path = none) :
    Clear volume ('/' :: route.first) route.rest :=
  fun count hc => h _ ⟨count, hc, rfl⟩

/-- To select the path of a route is to walk along its names. -/
theorem selectPath_route (drive : Drive) (route : Route) (chip : Chip) :
    (drive.selectPath route.text).outcome Chip.device chip =
      (drive.walk route.text (encodeChars ('/' :: route.first))
        (encodeChars (pathOf route.rest))).outcome Chip.device chip := by
  have hs := (route.plain route.first List.mem_cons_self).2.1
  have hc : encode route.text =
      separator :: (encodeChars route.first ++ encodeChars (pathOf route.rest)) := by
    rw [encode, Route.text, String.toList_ofList]
    exact encodeChars_pathOf_cons _ _
  have hsep : separator ∉ encodeChars route.first := not_mem_encodeChars rfl (by decide) hs
  have hl : [separator].length + (encodeChars route.first).length ≤ Command.maxName := by
    have := route.first_short
    rw [List.length_singleton]
    omega
  rw [selectPath, outcome_say_bind, hc]
  dsimp only
  rw [if_pos rfl, walk_name drive route.text hsep hl]
  rfl

/-- Where no file stands in the way, the path that is selected is the one that was given. -/
theorem outcome_selectPath (drive : Drive) (route : Route) {chip : Chip} (h : chip.Ready) :
    ∃ result last, (drive.selectPath route.text).outcome Chip.device chip = (result, last) ∧
      Walked chip ('/' :: route.first) route.rest result last := by
  rw [selectPath_route]
  exact outcome_walk drive route.text ('/' :: route.first) h (List.cons_ne_nil _ _)
    route.nul_not_mem_root_first (List.forall_mem_cons.1 route.plain).2 route.rest_short rfl
    route.root_first_ne_root

/-! ## Operations on a path -/

/-- Nothing but the node at `path` has changed, and if another file is open than before, it is the
one at `path`. -/
structure OnlyAt (path : Path) (before after : Chip) : Prop where
  nodes : ∀ other, other ≠ path → after.volume.get? other = before.volume.get? other
  openFile : after.openFile = some path ∨ after.openFile = none ∨
    after.openFile = before.openFile

theorem OnlyAt.trans {path : Path} {first middle last : Chip} (hf : OnlyAt path first middle)
    (hl : OnlyAt path middle last) : OnlyAt path first last where
  nodes other ho := (hl.nodes other ho).trans (hf.nodes other ho)
  openFile := by
    rcases hl.openFile with h | h | h
    · exact .inl h
    · exact .inr (.inl h)
    · rw [h]
      exact hf.openFile

theorem Walked.onlyAt {chip last : Chip} {base : Path} {rest : List (List Char)}
    {result : Except Stop Unit} (hw : Walked chip base rest result last)
    (hc : Clear chip.volume base rest) (path : Path) : OnlyAt path chip last where
  nodes _ _ := by rw [hw.volume]
  openFile := .inr (hw.openFile hc)

/-- A command on the selected path touches no other. -/
theorem onlyAt_of_effect {chip last : Chip} {command : Command} {status : Status}
    (he : Chip.Effect chip.contents command status last.contents) :
    OnlyAt chip.contents.path chip last := by
  generalize ha : last.contents = after at he
  have hv : last.volume = after.volume := congrArg Chip.Contents.volume ha
  have ho : last.openFile = after.openFile := congrArg Chip.Contents.openFile ha
  constructor
  · intro other hn
    rw [hv]
    cases he with
    | entered | opened | notOpened | refused => rfl
    | created | madeDirectory => exact (Volume.get?_insert ..).trans (if_neg hn)
    | erased => exact (Volume.get?_erase ..).trans (if_neg hn)
  · rw [ho]
    cases he with
    | entered => exact .inr (.inl rfl)
    | opened | created => exact .inl rfl
    | notOpened | madeDirectory | refused => exact .inr (.inr rfl)
    | erased =>
      dsimp only
      split
      · exact .inr (.inl rfl)
      · exact .inr (.inr rfl)

/-- An operation touches only the node at `path`, and has `achieved` its purpose if it returns a
value. -/
def ActsAt {α : Type} (path : Path) (achieved : α → Chip → Prop) (operation : Operation α)
    (chip : Chip) : Prop :=
  ∀ journal, OnlyAt path chip (operation.run Chip.device chip journal).state ∧
    ∀ value, (operation.run Chip.device chip journal).result = .ok value →
      achieved value (operation.run Chip.device chip journal).state

section Acts

variable {α : Type} {path : Path} {achieved : α → Chip → Prop} {operation : Operation α}
  {chip : Chip}

theorem ActsAt.of_outcome {result : Except Stop α} {last : Chip}
    (h : operation.outcome Chip.device chip = (result, last)) (ho : OnlyAt path chip last)
    (ha : ∀ value, result = .ok value → achieved value last) :
    ActsAt path achieved operation chip := by
  intro journal
  obtain ⟨hr, hl⟩ := run_of_outcome h journal
  rw [hr, hl]
  exact ⟨ho, ha⟩

theorem ActsAt.outcome (h : ActsAt path achieved operation chip) :
    ∃ result last, operation.outcome Chip.device chip = (result, last) ∧
      OnlyAt path chip last ∧ ∀ value, result = .ok value → achieved value last :=
  ⟨_, _, outcome_run _ _ _ [], h []⟩

/-- Where no file stands in the way, an operation on the selected path is one on the given path. -/
theorem actsAt_select (drive : Drive) (route : Route) (h : chip.Ready)
    (hf : ∀ path, route.Above path → chip.volume.file? path = none)
    (hn : ∀ middle : Chip, middle.Ready → middle.selected = some route.path →
      ActsAt route.path achieved operation middle) :
    ActsAt route.path achieved (drive.selectPath route.text >>= fun _ => operation) chip := by
  have hc := clear_of_above hf
  obtain ⟨result, middle, ho, hw⟩ := outcome_selectPath drive route h
  cases result with
  | error cause => exact .of_outcome (outcome_bind_error ho) (hw.onlyAt hc _) nofun
  | ok =>
    obtain ⟨result, last, hl, ha, hv⟩ := (hn middle hw.ready (hw.selected hc rfl)).outcome
    exact .of_outcome ((outcome_bind_ok ho).trans hl) ((hw.onlyAt hc _).trans ha) hv

end Acts

section Selected

variable (drive : Drive) {chip : Chip} (h : chip.Ready) {path : Path}
  (hs : chip.selected = some path)

include h in
/-- A command that has to succeed has its effect, whether it succeeds or not. -/
theorem outcome_simpleCommand (command : Command) (hc : command ∈ Chip.onSelected) :
    ∃ result status last,
      (drive.simpleCommand command []).outcome Chip.device chip = (result, last) ∧
        Chip.Effect chip.contents command status last.contents ∧ last.Ready ∧
        (result = .ok () → status = .success) := by
  obtain ⟨result, status, last, ho, hr, he, hl⟩ := Chip.outcome_onSelected drive command hc h
  rw [simpleCommand]
  rcases hr with rfl | rfl
  · rw [outcome_bind_ok ho, expectStatus]
    split
    · next hk => exact ⟨_, status, last, rfl, he, hl, fun _ => hk⟩
    · exact ⟨_, status, last, rfl, he, hl, nofun⟩
  · rw [outcome_bind_error ho]
    exact ⟨_, status, last, rfl, he, hl, nofun⟩

include hs in
theorem path_selected : chip.contents.path = path := by
  show chip.selected.getD [] = path
  rw [hs, Option.getD_some]

include h hs

theorem actsAt_openSelected :
    ActsAt path (fun opened last => last.volume = chip.volume ∧
      if opened.isDirectory then last.volume.isDirectory path = true ∧ last.directory = path
      else last.openFile = some path) drive.openSelected chip := by
  obtain ⟨result, status, last, ho, he, -, hk⟩ := outcome_openSelected drive h
  have ha := onlyAt_of_effect he
  rw [path_selected hs] at ha
  refine .of_outcome ho ha fun opened hr => ?_
  generalize hl : last.contents = after at he
  rcases hk opened hr with ⟨hi, rfl⟩ | ⟨hi, rfl⟩
  · rw [hi]
    cases he with
    | opened =>
      have hf : last.openFile = _ := congrArg Chip.Contents.openFile hl
      rw [path_selected hs] at hf
      exact ⟨congrArg Chip.Contents.volume hl, hf⟩
    | refused hc => exact absurd rfl hc
  · rw [hi]
    cases he with
    | entered hd =>
      have hv : last.volume = chip.volume := congrArg Chip.Contents.volume hl
      have hp : last.directory = _ := congrArg Chip.Contents.directory hl
      rw [path_selected hs] at hd hp
      rw [hv]
      exact ⟨rfl, hd, hp⟩
    | refused hc => exact absurd rfl hc

/-- A file that was created is the one that is then opened. -/
theorem actsAt_createFile (hr : path ≠ Volume.root) :
    ActsAt path (fun _ last => last.volume.get? path = some (.file [0]) ∧ last.openFile = some path)
      drive.createFile chip := by
  obtain ⟨result, status, middle, ho, he, hm, hk⟩ :=
    outcome_simpleCommand drive h .fileCreate (by decide)
  have ha := onlyAt_of_effect he
  rw [path_selected hs] at ha
  cases result with
  | error cause =>
    have hd : drive.createFile.outcome Chip.device chip = (.error cause, middle) := by
      rw [createFile, outcome_say_bind, outcome_bind_error ho]
    exact .of_outcome hd ha nofun
  | ok =>
    cases hk rfl
    generalize hl : middle.contents = after at he
    cases he with
    | refused _ hn => exact absurd rfl hn
    | created =>
      have hv : middle.volume = _ := congrArg Chip.Contents.volume hl
      have hg : middle.volume.get? path = some (.file [0]) := by
        rw [hv, path_selected hs, Volume.get?_insert, if_pos rfl]
      have hn : middle.volume.isDirectory path = false := by
        rw [Volume.isDirectory, hg]
        simpa using hr
      obtain ⟨opened, last, hp, hb, hc⟩ := (actsAt_openSelected drive hm
        ((congrArg Chip.Contents.selected hl).trans hs)).outcome
      cases opened with
      | error cause =>
        have hd : drive.createFile.outcome Chip.device chip = (.error cause, last) := by
          rw [createFile, outcome_say_bind, outcome_bind_ok ho, outcome_bind_error hp]
        exact .of_outcome hd (ha.trans hb) nofun
      | ok opened =>
        obtain ⟨hv, hc⟩ := hc opened rfl
        split at hc
        · rw [hv, hn] at hc
          cases hc.1
        · next hi =>
          have hd : drive.createFile.outcome Chip.device chip = (.ok (), last) := by
            rw [createFile, outcome_say_bind, outcome_bind_ok ho, outcome_bind_ok hp, if_neg hi]
            rfl
          exact .of_outcome hd (ha.trans hb) fun _ _ => ⟨hv ▸ hg, hc⟩

theorem actsAt_createDirectory :
    ActsAt path (fun _ last => last.volume.get? path = some .directory) drive.createDirectory
      chip := by
  obtain ⟨result, status, last, ho, he, -, hk⟩ :=
    outcome_simpleCommand drive h .dirCreate (by decide)
  have ha := onlyAt_of_effect he
  rw [path_selected hs] at ha
  refine .of_outcome ho ha fun _ hr => ?_
  cases hk hr
  generalize hl : last.contents = after at he
  cases he with
  | madeDirectory =>
    have hv : last.volume = _ := congrArg Chip.Contents.volume hl
    rw [hv, path_selected hs, Volume.get?_insert, if_pos rfl]
  | refused _ hn => exact absurd rfl hn

theorem actsAt_erase :
    ActsAt path (fun _ last => last.volume.get? path = none) drive.erase chip := by
  obtain ⟨result, status, last, ho, he, -, hk⟩ :=
    outcome_simpleCommand drive h .fileErase (by decide)
  have ha := onlyAt_of_effect he
  rw [path_selected hs] at ha
  refine .of_outcome ho ha fun _ hr => ?_
  cases hk hr
  generalize hl : last.contents = after at he
  cases he with
  | erased =>
    have hv : last.volume = _ := congrArg Chip.Contents.volume hl
    rw [hv, path_selected hs, Volume.get?_erase, if_pos rfl]
  | refused _ hn => exact absurd rfl hn

end Selected

/-- **Path resolution.** Take any chip outside a transaction that reports the statuses it computes,
and a path in canonical form. If the path can be selected, then everything above it is a directory
and it is the path that is selected, exactly when no file stands above it. In that case what is
opened, created and erased by the path is the node it names, and all other nodes stay as they
are. -/
theorem selectPath_names_node (drive : Drive) (route : Route) (chip : Chip) (h : chip.Ready) :
    (∀ journal, let ran := (drive.selectPath route.text).run Chip.device chip journal
      ran.result = .ok () → ran.state.volume = chip.volume ∧
        ((∀ path, route.Above path → ran.state.volume.isDirectory path = true) ∧
            ran.state.selected = some route.path ↔
          ∀ path, route.Above path → chip.volume.file? path = none)) ∧
      ((∀ path, route.Above path → chip.volume.file? path = none) →
        ActsAt route.path (fun opened last =>
            if opened.isDirectory then
              last.volume.isDirectory route.path = true ∧ last.directory = route.path
            else last.openFile = some route.path)
          (drive.openPath route.text) chip ∧
        ActsAt route.path (fun _ last =>
            last.volume.get? route.path = some (.file [0]) ∧ last.openFile = some route.path)
          (drive.createPath route.text) chip ∧
        ActsAt route.path (fun _ last => last.volume.get? route.path = some .directory)
          (drive.createDirectoryPath route.text) chip ∧
        ActsAt route.path (fun _ last => last.volume.get? route.path = none)
          (drive.erasePath route.text) chip) := by
  constructor
  · intro journal ran hk
    obtain ⟨result, last, ho, hw⟩ := outcome_selectPath drive route h
    obtain ⟨hr, hl⟩ := run_of_outcome ho journal
    cases hk.symm.trans hr
    rw [hl]
    refine ⟨hw.volume, fun ⟨hd, _⟩ path ha => ?_, fun hf => ⟨?_, ?_⟩⟩
    · exact Route.file?_above ha (hw.volume ▸ hd path ha)
    · rintro path ⟨count, hc, rfl⟩
      rw [hw.volume]
      exact hw.directories (clear_of_above hf) rfl count hc
    · exact hw.selected (clear_of_above hf) rfl
  · intro hf
    refine ⟨?_, ?_, ?_, ?_⟩
    · refine actsAt_select drive route h hf fun middle hm hs => ?_
      obtain ⟨result, last, ho, ha, hk⟩ := (actsAt_openSelected drive hm hs).outcome
      exact .of_outcome ho ha fun opened hr => (hk opened hr).2
    · exact actsAt_select drive route h hf fun middle hm hs =>
        actsAt_createFile drive hm hs route.path_ne_root
    · exact actsAt_select drive route h hf fun middle hm hs => actsAt_createDirectory drive hm hs
    · exact actsAt_select drive route h hf fun middle hm hs => actsAt_erase drive hm hs

/-- A directory `/L`, and a file `/B` beside it: the path `/L/B` names the node in the directory,
though the chip stands in another. -/
theorem selectPath_names_node_nested :
    let drive : Drive := { config := {}, patience := 1 }
    let route : Route := ⟨['L'], [['B']], by decide, by decide, by decide⟩
    let chip : Chip :=
      { attached := true
        volume := ⟨[(['/', 'L'], .directory), (['/', 'B'], .file [1])]⟩
        directory := ['/', 'X'] }
    chip.Ready ∧ (∀ path, route.Above path → chip.volume.file? path = none) ∧
      ((drive.selectPath route.text).run Chip.device chip []).result = .ok () ∧
      (∀ path, route.Above path →
        ((drive.selectPath route.text).run Chip.device chip []).state.volume.isDirectory path =
          true) ∧
      ((drive.selectPath route.text).run Chip.device chip []).state.selected =
        some ['/', 'L', '/', 'B'] := by
  have hk : ((selectPath { config := {}, patience := 1 } (String.ofList ['/', 'L', '/', 'B'])).run
      Chip.device
        { attached := true
          volume := ⟨[(['/', 'L'], .directory), (['/', 'B'], .file [1])]⟩
          directory := ['/', 'X'] } []).result = .ok () := rfl
  intro drive route chip
  have h : chip.Ready := ⟨rfl, rfl⟩
  have hf : ∀ path, route.Above path → chip.volume.file? path = none := by
    rintro _ ⟨count, hc, rfl⟩
    obtain rfl : count = 0 := Nat.lt_one_iff.1 hc
    rfl
  obtain ⟨hs, -⟩ := selectPath_names_node drive route chip h
  exact ⟨h, hf, hk, (hs [] hk).2.2 hf⟩

/-- A file `/A` stands where the path `/A/B` has a directory: the path is selected all the same, and
what it then names is `/B`. -/
theorem selectPath_through_file :
    let drive : Drive := { config := {}, patience := 1 }
    let chip := Chip.stocked true [] [(['/', 'A'], [1])]
    let selected := (drive.selectPath "/A/B").run Chip.device chip []
    let created := (drive.createPath "/A/B").run Chip.device chip []
    chip.Ready ∧ chip.volume.isDirectory ['/', 'A'] = false ∧
      (selected.result = .ok () ∧ selected.state.selected = some ['/', 'B']) ∧
      created.result = .ok () ∧ created.state.volume.contains ['/', 'B'] = true ∧
        created.state.volume.contains ['/', 'A', '/', 'B'] = false := by
  refine ⟨⟨rfl, rfl⟩, rfl, ⟨rfl, ?_⟩, rfl, ?_, ?_⟩
  all_goals decide

end Drive

end DiskBridge

import DiskBridge.Proofs.FileTree

/-!
# A file that is created anew

To create a file clears what was in its place, so nothing is left to do for an erasure before it.

1. An erasure walks to the path as a creation does, and at most removes the node there and closes
   the file (`takes_erasePath`).
2. To walk to a path once more changes nothing (`reached_reached`), and what is put in a place does
   not depend on what was removed from it (`insert_erase`). So a file is created alike after an
   erasure and without one (`created_removed`).

`erase_then_create` says so of whole runs.
-/

namespace DiskBridge

open Dialogue Chip

/-- What is put in a place stands there as if nothing had been removed from it. -/
theorem Volume.insert_erase (volume : Volume) (path : Path) (node : Node) :
    (volume.erase path).insert path node = volume.insert path node := by
  simp [insert, erase, List.filter_filter]

namespace Drive

/-- What an erasure can leave of a core that walked to the path: the node there may be gone, and the
file closed. -/
inductive Removed (core : Core) (path : Path) : Core → Prop
  | refused : Removed core path core
  | erased (openFile : Option Path) :
    Removed core path { core with volume := core.volume.erase path, openFile }

/-- A walk to where the chip stands ends there. -/
theorem reached_reached (core : Core) (base : Path) (rest : List (List Char)) :
    reached (reached core base rest) base rest = reached core base rest := by
  cases rest <;> rfl

section Removed

variable {core : Core} {route : Route} {after : Core}

/-- What leads to the path is still there. -/
theorem Removed.isDirectory_above (h : Removed (arrived core route) route.path after)
    (hd : ∀ path, route.Above path → core.volume.isDirectory path = true) :
    ∀ path, route.Above path → after.volume.isDirectory path = true := by
  intro path ha
  cases h with
  | refused => exact hd path ha
  | erased openFile =>
    have hg : (core.volume.erase route.path).get? path = core.volume.get? path := by
      rw [Volume.get?_erase, if_neg (Route.ne_path_of_above ha)]
    show (core.volume.erase route.path).isDirectory path = true
    rw [Volume.isDirectory, hg]
    exact hd path ha

theorem Removed.get?_ne_directory (h : Removed (arrived core route) route.path after)
    (hn : core.volume.get? route.path ≠ some .directory) :
    after.volume.get? route.path ≠ some .directory := by
  cases h with
  | refused => exact hn
  | erased openFile =>
    show (core.volume.erase route.path).get? route.path ≠ some .directory
    rw [Volume.get?_erase, if_pos rfl]
    exact nofun

theorem Removed.injected (h : Removed (arrived core route) route.path after) :
    after.injected = core.injected := by
  cases h <;> rfl

/-- A file that is created after an erasure leaves nothing of it. -/
theorem created_removed (h : Removed (arrived core route) route.path after) :
    created after route = created core route := by
  cases h with
  | refused =>
    unfold created
    rw [arrived, reached_reached]
    rfl
  | erased openFile =>
    unfold created arrived
    cases route.rest <;> simp [reached, Volume.insert_erase]

end Removed

section Route

variable {drive : Drive} (hp : drive.config.statusMode = .interrupt → 0 < drive.patience)
  (route : Route) (core : Core) (hj : core.injected = [])
  (hd : ∀ path, route.Above path → core.volume.isDirectory path = true)

include hp hj hd

/-- An erasure removes the node at the path, or fails and leaves all as it is. -/
theorem takes_erasePath :
    ∃ result after, Takes (drive.erasePath route.text) core result after ∧
      Removed (arrived core route) route.path after := by
  have hs := takes_selectPath_arrived hp route core hj hd
  have hj' : (arrived core route).injected = [] := hj
  cases he : route.path ≠ Volume.root && core.volume.contains route.path &&
      !core.volume.hasBelow route.path with
  | true => exact ⟨_, _, hs.bind (takes_erase hp hj' he rfl), .erased _⟩
  | false => exact ⟨_, _, hs.bind (takes_erase_missing hp hj' he rfl), .refused⟩

end Route

/-- **Erase and create.** Take any chip outside a transaction that reports the statuses it computes,
wherever it stands, and a path in canonical form that leads through directories and is none itself.
To create the file succeeds, and to erase first what is there, with whatever result, and then create
it succeeds as well. Both leave the same nodes, current directory, selected path, open file and
cursor. -/
theorem erase_then_create (drive : Drive)
    (hp : drive.config.statusMode = .interrupt → 0 < drive.patience) (route : Route) (chip : Chip)
    (h : chip.Ready) (hd : ∀ path, route.Above path → chip.volume.isDirectory path = true)
    (hn : chip.volume.get? route.path ≠ some .directory) (journal : Journal) :
    let alone := (drive.createPath route.text).run Chip.device chip journal
    let erased := (drive.erasePath route.text).run Chip.device chip journal
    let anew := (drive.createPath route.text).run Chip.device erased.state erased.journal
    alone.result = .ok () ∧ anew.result = alone.result ∧
      (∀ path, anew.state.volume.get? path = alone.state.volume.get? path) ∧
      anew.state.directory = alone.state.directory ∧
      anew.state.selected = alone.state.selected ∧
      anew.state.openFile = alone.state.openFile ∧
      anew.state.cursor = alone.state.cursor := by
  intro alone erased anew
  obtain ⟨last, ho, hl, -⟩ := takes_createPath_created hp route chip.core h.plain hd hn chip rfl
  obtain ⟨hr, hs⟩ : alone.result = .ok () ∧ alone.state = last := run_of_outcome ho journal
  obtain ⟨result, middle, hx, hm⟩ := takes_erasePath hp route chip.core h.plain hd
  obtain ⟨half, ho, hh, -⟩ := hx chip rfl
  have he : erased.state = half := (run_of_outcome ho journal).2
  obtain ⟨final, ho, hf, -⟩ := takes_createPath_created hp route middle
    (hm.injected.trans h.plain) (hm.isDirectory_above hd) (hm.get?_ne_directory hn) half hh
  rw [← he] at ho
  obtain ⟨hr', hs'⟩ : anew.result = .ok () ∧ anew.state = final := run_of_outcome ho erased.journal
  have hc : anew.state.core = alone.state.core := by
    rw [hs', hf, created_removed hm, hs, hl]
  clear_value alone erased anew
  have hv : anew.state.volume = alone.state.volume := congrArg Core.volume hc
  refine ⟨hr, hr'.trans hr.symm, fun path => by rw [hv], congrArg Core.directory hc,
    congrArg Core.selected hc, congrArg Core.openFile hc, congrArg Core.cursor hc⟩

/-- A file `/L/B` that is open, with the cursor beyond its end, while the chip stands in `/X`: it is
created anew at its start, with `/L` for the current directory, erased or not. -/
theorem erase_then_create_open_file :
    let drive : Drive := { config := {}, patience := 1 }
    let route : Route := ⟨['L'], [['B']], by decide, by decide, by decide⟩
    let chip : Chip :=
      { attached := true
        volume := ⟨[(['/', 'L'], .directory), (['/', 'L', '/', 'B'], .file [1])]⟩
        directory := ['/', 'X']
        openFile := some ['/', 'L', '/', 'B']
        cursor := 5 }
    chip.Ready ∧ (∀ path, route.Above path → chip.volume.isDirectory path = true) ∧
      chip.volume.get? route.path ≠ some .directory ∧
      let alone := (drive.createPath route.text).run Chip.device chip []
      let erased := (drive.erasePath route.text).run Chip.device chip []
      let anew := (drive.createPath route.text).run Chip.device erased.state erased.journal
      alone.result = .ok () ∧ anew.result = alone.result ∧
        (∀ path, anew.state.volume.get? path = alone.state.volume.get? path) ∧
        anew.state.directory = alone.state.directory ∧
        anew.state.selected = alone.state.selected ∧
        anew.state.openFile = alone.state.openFile ∧
        anew.state.cursor = alone.state.cursor := by
  intro drive route chip
  have hd : ∀ path, route.Above path → chip.volume.isDirectory path = true := by
    rintro _ ⟨count, hc, rfl⟩
    obtain rfl : count = 0 := Nat.lt_one_iff.1 hc
    rfl
  have hn : chip.volume.get? route.path ≠ some .directory := by decide
  exact ⟨⟨rfl, rfl⟩, hd, hn,
    erase_then_create drive (fun _ => Nat.one_pos) route chip ⟨rfl, rfl⟩ hd hn []⟩

end Drive

end DiskBridge

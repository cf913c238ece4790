/-!
# Volumes

The files and directories of a disk, by absolute path. The root is always a directory and needs no
entry. `get?` is the view of a volume: `get?_insert` and `get?_erase` say what each change does
to it.
-/

namespace DiskBridge

/-- A path as the chip keeps it. -/
abbrev Path := List Char

inductive Node where
  | directory
  | file (data : List UInt8)
  deriving DecidableEq

structure Volume where
  entries : List (Path × Node) := []
  deriving DecidableEq

namespace Volume

def root : Path := ['/']

/-- The node at a path. -/
def get? (volume : Volume) (path : Path) : Option Node :=
  (volume.entries.find? (·.1 = path)).map Prod.snd

def erase (volume : Volume) (path : Path) : Volume :=
  ⟨volume.entries.filter (·.1 ≠ path)⟩

/-- Puts a node at a path, in place of any node there. -/
def insert (volume : Volume) (path : Path) (node : Node) : Volume :=
  ⟨(path, node) :: (volume.erase path).entries⟩

theorem get?_erase (volume : Volume) (path other : Path) :
    (volume.erase path).get? other = if other = path then none else volume.get? other := by
  simp only [get?, erase]
  induction volume.entries with
  | nil => simp
  | cons entry rest ih => grind

theorem get?_insert (volume : Volume) (path other : Path) (node : Node) :
    (volume.insert path node).get? other =
      if other = path then some node else volume.get? other := by
  have := volume.get?_erase path other
  simp only [get?, insert] at this ⊢
  grind

/-- The contents of the file at a path, if there is a file. -/
def file? (volume : Volume) (path : Path) : Option (List UInt8) :=
  match volume.get? path with
  | some (.file data) => some data
  | _ => none

def isDirectory (volume : Volume) (path : Path) : Bool :=
  path = root || volume.get? path = some .directory

def contains (volume : Volume) (path : Path) : Bool :=
  path = root || (volume.get? path).isSome

/-- What stands before the last separator of a path. -/
def parent? (path : Path) : Option Path :=
  if path.contains '/' then some (path.reverse.dropWhile (· ≠ '/')).tail.reverse else none

/-- Whether a path lies directly in a directory. -/
def inDirectory (volume : Volume) (path : Path) : Bool :=
  match parent? path with
  | none => false
  | some [] => true
  | some parent => volume.isDirectory parent

/-- Whether some path of the volume goes on from the given one. -/
def hasBelow (volume : Volume) (path : Path) : Bool :=
  volume.entries.any fun entry => (path ++ ['/']).isPrefixOf entry.1

end Volume

end DiskBridge

/-!
# Journal

What a run has to say about itself: notes, each with a level.
-/

namespace DiskBridge

/-- How much a note matters, most severe first. -/
inductive Level where
  | error
  | warn
  | info
  | debug
  | trace
  deriving DecidableEq, Inhabited

namespace Level

def all : List Level := [error, warn, info, debug, trace]

/-- Zero for the most severe level. -/
def rank : Level → Nat
  | error => 0
  | warn => 1
  | info => 2
  | debug => 3
  | trace => 4

def name : Level → String
  | error => "ERROR"
  | warn => "WARN"
  | info => "INFO"
  | debug => "DEBUG"
  | trace => "TRACE"

end Level

structure Note where
  level : Level
  text : String
  deriving DecidableEq

namespace Note

def render (note : Note) : String := note.level.name ++ " " ++ note.text

end Note

/-- Notes, the newest first. -/
abbrev Journal := List Note

namespace Journal

/-- The notes at `level` or more severe, the oldest first, as text. -/
def render (journal : Journal) (level : Level) : List String :=
  (journal.reverse.filter fun note => note.level.rank ≤ level.rank).map Note.render

end Journal

end DiskBridge

import DiskBridge.Duration
import DiskBridge.Text.Inspect

/-!
# Driver configuration

How a driver learns the status of a command, and how long it lets the chip settle.
-/

namespace DiskBridge

/-- How the status of an interrupting command is learnt. -/
inductive StatusMode where
  /-- Wait for the interrupt, then read the status. -/
  | interrupt
  /-- Read the status at once. -/
  | poll
  deriving DecidableEq, Inhabited

namespace StatusMode

def all : List StatusMode := [interrupt, poll]

def name : StatusMode → String
  | interrupt => "Interrupt"
  | poll => "Poll"

end StatusMode

structure Config where
  statusMode : StatusMode := .interrupt
  /-- Pause before the reset command. -/
  beforeReset : Duration := { secs := 0, nanos := 60000000 }
  /-- Pause after the reset command. -/
  afterReset : Duration := { secs := 0, nanos := 100000000 }
  /-- Pause between sending a USB mode and reading its status. -/
  modeSwitch : Duration := { secs := 0, nanos := 1000000 }
  /-- Pause between a command and a value it answers directly. -/
  directAnswer : Duration := { secs := 0, nanos := 1000000 }
  deriving DecidableEq

namespace Config

/-- The settle times of the chip's data sheet. -/
def standard : Config := {}

instance : Inhabited Config := ⟨standard⟩

/-- No settle times, for chips that need none. -/
def fast : Config where
  beforeReset := .zero
  afterReset := .zero
  modeSwitch := .zero
  directAnswer := .zero

def inspect (config : Config) : String :=
  Inspect.record "DriverConfig"
    [("status_mode", config.statusMode.name),
      ("initial_settle", config.beforeReset.inspect),
      ("reset_settle", config.afterReset.inspect),
      ("mode_settle", config.modeSwitch.inspect),
      ("command_settle", config.directAnswer.inspect)]

end Config

end DiskBridge

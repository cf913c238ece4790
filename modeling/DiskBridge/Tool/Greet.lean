import DiskBridge.Tool.Basic

/-!
# Greeting the chip

Shows that the chip answers, waits for a disk, and opens its root.
-/

namespace DiskBridge.Tool

def greet (drive : Drive) : Program Unit := do
  perform Drive.selfTest
  let version ← perform drive.version
  printLine ("CH376 IC version: 0x" ++ hexByte version)
  printLine "Waiting for a USB disk..."
  perform drive.bringUp
  printLine "USB disk mounted"
  let opened ← perform (drive.openPath "/")
  printLine (s!"Root directory opened: is_directory=" ++ toString opened.isDirectory)

end DiskBridge.Tool

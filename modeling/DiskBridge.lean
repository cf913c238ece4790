import DiskBridge.Adapter.Pins
import DiskBridge.Bench.Rig
import DiskBridge.Bench.Trace
import DiskBridge.Bench.Visit
import DiskBridge.Bench.Wire
import DiskBridge.Drive.Session
import DiskBridge.Proofs.Abandonment
import DiskBridge.Proofs.Bracketing
import DiskBridge.Proofs.BringUpScript
import DiskBridge.Proofs.FileTree
import DiskBridge.Proofs.PathResolution
import DiskBridge.Proofs.ReadBack
import DiskBridge.Proofs.Transparency
import DiskBridge.Proofs.TreeIntegrity
import DiskBridge.Tool.Greet
import DiskBridge.Tool.Run
import DiskBridge.Tool.Show
import DiskBridge.Tool.Store
import DiskBridge.Proofs.Recovery
import DiskBridge.Proofs.ServedRequests
import DiskBridge.Proofs.Endings
import DiskBridge.Proofs.ReceivedBytes
import DiskBridge.Proofs.SentBytes
import DiskBridge.Proofs.FailStop
import DiskBridge.Proofs.UnexpectedStatus
import DiskBridge.Proofs.Courses
import DiskBridge.Proofs.RaisedStatuses
import DiskBridge.Proofs.StatusModes
import DiskBridge.Proofs.Deeds
import DiskBridge.Proofs.Interrupts
import DiskBridge.Proofs.Signals
import DiskBridge.Proofs.Observers
import DiskBridge.Proofs.RoutedPolls
import DiskBridge.Proofs.ChipSelect
import DiskBridge.Proofs.AdapterTransparency
import DiskBridge.Proofs.ShownInterrupts
import DiskBridge.Proofs.CanonicalForm
import DiskBridge.Proofs.ToolRuns
import DiskBridge.Proofs.Uploads
import DiskBridge.Proofs.Transports
import DiskBridge.Proofs.StoredFiles
import DiskBridge.Proofs.PathTraffic
import DiskBridge.Proofs.RandomAccess
import DiskBridge.Proofs.Replacement
import DiskBridge.Proofs.PreparedChip
import DiskBridge.Proofs.AcknowledgedWrites
import DiskBridge.Proofs.TransferTermination
import DiskBridge.Proofs.ClientAnswers
import DiskBridge.Proofs.AdapterSearch

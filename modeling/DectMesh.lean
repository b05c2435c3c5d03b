import DectMesh.Acknowledgement
import DectMesh.AtText
import DectMesh.Attribution
import DectMesh.Authenticity
import DectMesh.Board
import DectMesh.Completion
import DectMesh.Config.Acceptance
import DectMesh.Config.Counter
import DectMesh.Config.Destinations
import DectMesh.Config.Intact
import DectMesh.Config.Model
import DectMesh.Config.Origin
import DectMesh.Config.Push
import DectMesh.Config.Rejection
import DectMesh.Config.Retries
import DectMesh.Config.Store
import DectMesh.Delivered
import DectMesh.Destinations
import DectMesh.Discovery
import DectMesh.Emission
import DectMesh.Floods
import DectMesh.Frames
import DectMesh.HexFields
import DectMesh.Host.Acceptance
import DectMesh.Host.Builders
import DectMesh.Host.Parsers
import DectMesh.InFlight
import DectMesh.LargeData.Announcement
import DectMesh.LargeData.Bystanders
import DectMesh.LargeData.Delivered
import DectMesh.LargeData.Destinations
import DectMesh.LargeData.Expiry
import DectMesh.LargeData.Forwarding
import DectMesh.LargeData.Framings
import DectMesh.LargeData.Idempotence
import DectMesh.LargeData.InFlight
import DectMesh.LargeData.Integrity
import DectMesh.LargeData.Metadata
import DectMesh.LargeData.Model
import DectMesh.LargeData.Moves
import DectMesh.LargeData.Origin
import DectMesh.LargeData.Pages
import DectMesh.LargeData.Reassembly
import DectMesh.LargeData.Reception
import DectMesh.LargeData.Run
import DectMesh.LargeData.Sending
import DectMesh.LargeData.Service
import DectMesh.LargeData.Staging
import DectMesh.LargeData.Steady
import DectMesh.LargeData.Store
import DectMesh.LargeData.Windows
import DectMesh.Latency
import DectMesh.Library.ArrayLoop
import DectMesh.Library.Bitmap
import DectMesh.Library.BubbleSort
import DectMesh.Library.ByteStore
import DectMesh.Library.Checksum
import DectMesh.Library.ClassQueues
import DectMesh.Library.FlatMemory
import DectMesh.Library.Flood
import DectMesh.Library.HexText
import DectMesh.Library.Ledger
import DectMesh.Library.Lines
import DectMesh.Library.Link
import DectMesh.Library.PackedLayout
import DectMesh.Library.PageMap
import DectMesh.Library.RecordStore
import DectMesh.Library.RingBuf
import DectMesh.Library.Runs
import DectMesh.Library.SortLoop
import DectMesh.Library.Tally
import DectMesh.Library.Trace
import DectMesh.LineLoop
import DectMesh.LiveNet
import DectMesh.LiveParts
import DectMesh.Lookup
import DectMesh.MainSub
import DectMesh.Mesh.Admission
import DectMesh.Mesh.Atomicity
import DectMesh.Mesh.BootBounds
import DectMesh.Mesh.Candidates
import DectMesh.Mesh.Destinations
import DectMesh.Mesh.Directory
import DectMesh.Mesh.Eviction
import DectMesh.Mesh.Fidelity
import DectMesh.Mesh.Handshake
import DectMesh.Mesh.Hops
import DectMesh.Mesh.Image
import DectMesh.Mesh.Invariant
import DectMesh.Mesh.Joining
import DectMesh.Mesh.Model
import DectMesh.Mesh.Neighbours
import DectMesh.Mesh.Network
import DectMesh.Mesh.Pairing
import DectMesh.Mesh.Parent
import DectMesh.Mesh.ParentRun
import DectMesh.Mesh.Pings
import DectMesh.Mesh.Receivers
import DectMesh.Mesh.Recovery
import DectMesh.Mesh.Refinement
import DectMesh.Mesh.Reload
import DectMesh.Mesh.Removal
import DectMesh.Mesh.Run
import DectMesh.Mesh.Selection
import DectMesh.Mesh.Session
import DectMesh.Mesh.Sorting
import DectMesh.Mesh.Spares
import DectMesh.Mesh.Storage
import DectMesh.Mesh.Tables
import DectMesh.Mesh.Updates
import DectMesh.Protocol
import DectMesh.Psram
import DectMesh.PsramBus
import DectMesh.PsramPages
import DectMesh.Queue
import DectMesh.QuotedFields
import DectMesh.Radio
import DectMesh.Relay
import DectMesh.Report.Counters
import DectMesh.Report.Delivered
import DectMesh.Report.Destinations
import DectMesh.Report.Duplicates
import DectMesh.Report.Fidelity
import DectMesh.Report.Forwarding
import DectMesh.Report.Handover
import DectMesh.Report.InFlight
import DectMesh.Report.Invariant
import DectMesh.Report.Isolation
import DectMesh.Report.Metadata
import DectMesh.Report.Model
import DectMesh.Report.Moves
import DectMesh.Report.Origin
import DectMesh.Report.Reassembly
import DectMesh.Report.Retention
import DectMesh.Report.Run
import DectMesh.Report.Scheduling
import DectMesh.RoundTrip
import DectMesh.Route
import DectMesh.RouteService
import DectMesh.Routing
import DectMesh.Timeout
import DectMesh.Tracked
import DectMesh.Tracker.Ids
import DectMesh.Tracker.Model
import DectMesh.Tracker.Payloads
import DectMesh.Tracker.Run
import DectMesh.Tracker.Schedule
import DectMesh.Uart
import DectMesh.UartTx.Draining
import DectMesh.Wire

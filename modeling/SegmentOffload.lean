import SegmentOffload.Binary64
import SegmentOffload.Bytes
import SegmentOffload.Catalog
import SegmentOffload.Chunk
import SegmentOffload.Client
import SegmentOffload.ClientConfig
import SegmentOffload.ClientError
import SegmentOffload.CommandLine.Help
import SegmentOffload.CommandLine.Parse
import SegmentOffload.CommandLine.Scan
import SegmentOffload.CommandLine.Usage
import SegmentOffload.Commands
import SegmentOffload.ConfigLoading
import SegmentOffload.Decimal
import SegmentOffload.Disk
import SegmentOffload.Download
import SegmentOffload.DownloadSource
import SegmentOffload.Environment
import SegmentOffload.Failure
import SegmentOffload.Holdings
import SegmentOffload.Host
import SegmentOffload.IoError
import SegmentOffload.Journal
import SegmentOffload.Json.Parse
import SegmentOffload.Json.Record
import SegmentOffload.Json.Value
import SegmentOffload.Listing
import SegmentOffload.Load
import SegmentOffload.LogFilter
import SegmentOffload.LogFilter.Directive
import SegmentOffload.LogFilter.FieldMatch
import SegmentOffload.LogFilter.Pattern
import SegmentOffload.Main
import SegmentOffload.Md5
import SegmentOffload.Network
import SegmentOffload.Offload
import SegmentOffload.Overflow
import SegmentOffload.Path
import SegmentOffload.Peer.ObjectStore
import SegmentOffload.Peer.PacedStore
import SegmentOffload.Peer.Scripted
import SegmentOffload.Peer.Unreachable
import SegmentOffload.Proofs.ChunkPaths
import SegmentOffload.Proofs.Connections
import SegmentOffload.Proofs.DecimalDigits
import SegmentOffload.Proofs.Delivery
import SegmentOffload.Proofs.DiskFrame
import SegmentOffload.Proofs.DownloadAccounts
import SegmentOffload.Proofs.DownloadCursor
import SegmentOffload.Proofs.DownloadLoop
import SegmentOffload.Proofs.DownloadSteps
import SegmentOffload.Proofs.LoadCopies
import SegmentOffload.Proofs.OffloadEffect
import SegmentOffload.Proofs.OffloadHistory
import SegmentOffload.Proofs.PlanResolution
import SegmentOffload.Proofs.RowOrder
import SegmentOffload.Proofs.SegmentFiles
import SegmentOffload.Proofs.SegmentRows
import SegmentOffload.Proofs.StoreAnswers
import SegmentOffload.Proofs.StoreUpload
import SegmentOffload.Proofs.TemporaryFiles
import SegmentOffload.Proofs.TextBytes
import SegmentOffload.Proofs.UploadCalls
import SegmentOffload.Proofs.UploadConversation
import SegmentOffload.Proofs.Wire.Announcement
import SegmentOffload.Proofs.Wire.Arrivals
import SegmentOffload.Proofs.Wire.Bodies
import SegmentOffload.Proofs.Wire.Fields
import SegmentOffload.Proofs.Wire.FirstValues
import SegmentOffload.Proofs.Wire.Fragmentation
import SegmentOffload.Proofs.Wire.Framing
import SegmentOffload.Proofs.Wire.Grammar
import SegmentOffload.Proofs.Wire.RoundTrip
import SegmentOffload.ReadPlan
import SegmentOffload.Records
import SegmentOffload.Removal
import SegmentOffload.Session
import SegmentOffload.Text
import SegmentOffload.Text.Alphanumeric
import SegmentOffload.Text.Printable
import SegmentOffload.Text.Quoted
import SegmentOffload.Text.Slice
import SegmentOffload.Toml.Parse
import SegmentOffload.Toml.Scan
import SegmentOffload.Toml.Table
import SegmentOffload.Transfer
import SegmentOffload.Upload
import SegmentOffload.Verbosity
import SegmentOffload.Wire.Decoding
import SegmentOffload.Wire.Field
import SegmentOffload.Wire.Header
import SegmentOffload.Wire.Malformed
import SegmentOffload.Wire.Message
import SegmentOffload.Wire.Stream
import SegmentOffload.Proofs.RetryBudget
import SegmentOffload.Proofs.ChunkRequests
import SegmentOffload.Proofs.NewDirectories
import SegmentOffload.Proofs.FileDrafts
import SegmentOffload.Proofs.Interleaving
import SegmentOffload.Proofs.JsonRoundTrip
import SegmentOffload.Proofs.LoadOutcomes
import SegmentOffload.Proofs.RecordRoundTrip
import SegmentOffload.Proofs.CatalogAgreement
import SegmentOffload.Proofs.CatalogHistory
import SegmentOffload.Proofs.SessionLifetime
import SegmentOffload.Proofs.RelationPaths
import SegmentOffload.Proofs.StoreRequests
import SegmentOffload.Proofs.RelationHoldings
import SegmentOffload.Proofs.Wire.UnbrokenStreams
import SegmentOffload.Proofs.ListingAnswers
import SegmentOffload.Proofs.ListingFragments
import SegmentOffload.Proofs.OffloadedRange
import SegmentOffload.Proofs.LoadCommand
import SegmentOffload.Proofs.PathWords
import SegmentOffload.Proofs.PullSteps
import SegmentOffload.Proofs.LoadSteps
import SegmentOffload.Proofs.SharedDisks
import SegmentOffload.Proofs.OpenedDirectories
import SegmentOffload.Proofs.ImpartialPeers
import SegmentOffload.Proofs.LoadHoldings
import SegmentOffload.Proofs.SettledFiles
import SegmentOffload.Proofs.SettledPulls
import SegmentOffload.Proofs.SettledLoads
import SegmentOffload.Proofs.ParallelLoads
import SegmentOffload.Proofs.Wire.BufferedFrames
import SegmentOffload.Proofs.PlanStability
import SegmentOffload.Proofs.FinalPulls
import SegmentOffload.Proofs.StoreIntake
import SegmentOffload.Proofs.StagedUploads
import SegmentOffload.Proofs.SealedUploads
import SegmentOffload.Proofs.Transfers
import SegmentOffload.Proofs.AcknowledgedDeletes
import SegmentOffload.Proofs.LoadReports
import SegmentOffload.Proofs.GapFreeLoads
import SegmentOffload.Proofs.FileSettings
import SegmentOffload.Proofs.ConfigLayers
import SegmentOffload.Proofs.ExactSums
import SegmentOffload.Proofs.OffloadConversation
import SegmentOffload.Proofs.LegibleRequests
import SegmentOffload.Proofs.DownloadFields
import SegmentOffload.Proofs.FieldAgreement
import SegmentOffload.Proofs.Wire.SlicedFrames
import SegmentOffload.Proofs.Wire.FieldLoops

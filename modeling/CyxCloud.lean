import CyxCloud.Cli.DirectoryModes
import CyxCloud.Core.Chunk
import CyxCloud.Core.ErasureRoundTrip
import CyxCloud.Core.HalfOpenProbes
import CyxCloud.Core.Reassembly
import CyxCloud.Core.ShardVerification
import CyxCloud.Gateway.Acknowledgement
import CyxCloud.Gateway.AuthInterceptor
import CyxCloud.Gateway.BucketRaces
import CyxCloud.Gateway.ByteRanges
import CyxCloud.Gateway.CachedReads
import CyxCloud.Gateway.DatasetManifest
import CyxCloud.Gateway.DatasetTrust
import CyxCloud.Gateway.EvacuationTargets
import CyxCloud.Gateway.EventDelivery
import CyxCloud.Gateway.ForwardedEvents
import CyxCloud.Gateway.ListingModes
import CyxCloud.Gateway.LiveNodes
import CyxCloud.Gateway.LostHeartbeats
import CyxCloud.Gateway.ManifestEncoding
import CyxCloud.Gateway.MemoryMap
import CyxCloud.Gateway.MemoryRaces
import CyxCloud.Gateway.NodeConnections
import CyxCloud.Gateway.Overwrite
import CyxCloud.Gateway.PaymentRecords
import CyxCloud.Gateway.Quarantine
import CyxCloud.Gateway.Removal
import CyxCloud.Gateway.ReputationScore
import CyxCloud.Gateway.Revocation
import CyxCloud.Gateway.RewardSplit
import CyxCloud.Gateway.RoundTrip
import CyxCloud.Gateway.SilentNodes
import CyxCloud.Gateway.Slashing
import CyxCloud.Gateway.StreamFraming
import CyxCloud.Gateway.StreamedFiles
import CyxCloud.Gateway.TokenMinting
import CyxCloud.Gateway.TokenPaths
import CyxCloud.Gateway.TokenSoundness
import CyxCloud.Gateway.UptimeAccounting
import CyxCloud.Gateway.VerifiedLocations
import CyxCloud.Gateway.WalletChallenges
import CyxCloud.Gateway.XmlEscape
import CyxCloud.Metadata.FileCache
import CyxCloud.Metadata.Health
import CyxCloud.Metadata.Locks
import CyxCloud.Metadata.OutageClock
import CyxCloud.Metadata.PlacementTurns
import CyxCloud.Metadata.Quorum
import CyxCloud.Metadata.RateLimits
import CyxCloud.Metadata.Replicas
import CyxCloud.Metadata.TopologyLimits
import CyxCloud.Network.PeerAnnouncements
import CyxCloud.Node.ChainInstructions
import CyxCloud.Node.ChunkStreams
import CyxCloud.Node.CommandExecutor
import CyxCloud.Node.DataStreamClient
import CyxCloud.Node.HeartbeatService
import CyxCloud.Node.PublicHashes
import CyxCloud.Node.RegistryAccounts
import CyxCloud.Node.RepairingNodes
import CyxCloud.Node.ResumedStreams
import CyxCloud.Node.RewardAddresses
import CyxCloud.Node.RewardClaims
import CyxCloud.Node.ShuffledEpochs
import CyxCloud.Node.TerminalStates
import CyxCloud.Rebalancer.Completeness
import CyxCloud.Rebalancer.PlanBudgets
import CyxCloud.Rebalancer.ProgressChannel
import CyxCloud.Rebalancer.QuarantinedTargets
import CyxCloud.Rebalancer.RepairPlans
import CyxCloud.Rebalancer.RepairPriority
import CyxCloud.Rebalancer.RepairRound
import CyxCloud.Rebalancer.TransferReports
import CyxCloud.Rebalancer.WritingLimit
import CyxCloud.Storage.EncryptedFiles
import CyxCloud.Storage.Interchangeable
import CyxCloud.Storage.MemoryCounter
import CyxCloud.Storage.SledMetadata

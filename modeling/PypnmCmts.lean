import PypnmCmts.AbandonedAttempts
import PypnmCmts.AtomicKeepers
import PypnmCmts.Attempt
import PypnmCmts.AttemptLedger
import PypnmCmts.BackedAnswers
import PypnmCmts.CableModemPages
import PypnmCmts.CacheReadiness
import PypnmCmts.CallTree
import PypnmCmts.CancelHonoured
import PypnmCmts.CaptureExecutor
import PypnmCmts.CaptureExecutorRuns
import PypnmCmts.CaptureRequest
import PypnmCmts.CaptureResponses
import PypnmCmts.CaptureStores
import PypnmCmts.CellStore
import PypnmCmts.ChannelBounds
import PypnmCmts.ChannelInventory
import PypnmCmts.ChannelListCodec
import PypnmCmts.CmtsOperation
import PypnmCmts.ConfigMerge
import PypnmCmts.ConfigOnDisk
import PypnmCmts.CoordinationManager
import PypnmCmts.CoordinationPaths
import PypnmCmts.CoordinationSystem
import PypnmCmts.CorruptRecords
import PypnmCmts.DirectoryLock
import PypnmCmts.ExclusiveSections
import PypnmCmts.FailedCollection
import PypnmCmts.Failover
import PypnmCmts.FileLeases
import PypnmCmts.FileLinks
import PypnmCmts.FixedLayout
import PypnmCmts.GreedyShare
import PypnmCmts.GroupTopology
import PypnmCmts.GuardRestarts
import PypnmCmts.GuardWindow
import PypnmCmts.HeavyPayload
import PypnmCmts.HeavyPoller
import PypnmCmts.HeldSet
import PypnmCmts.InventoryChanges
import PypnmCmts.InventoryDiscovery
import PypnmCmts.JsonDumps
import PypnmCmts.JsonLoads
import PypnmCmts.KeeperPrograms
import PypnmCmts.KeyedLoop
import PypnmCmts.KeyedSort
import PypnmCmts.KeyedTree
import PypnmCmts.LabelledRun
import PypnmCmts.LastAttempts
import PypnmCmts.LauncherRun
import PypnmCmts.LeaderClaims
import PypnmCmts.LeaderElection
import PypnmCmts.LeaderIds
import PypnmCmts.LeaderSafety
import PypnmCmts.LeaseGatedWork
import PypnmCmts.LeaseImplementation
import PypnmCmts.LeaseSafety
import PypnmCmts.LeaseUpkeep
import PypnmCmts.LightMembership
import PypnmCmts.LockedKeepers
import PypnmCmts.MetadataTimes
import PypnmCmts.ModemOperations
import PypnmCmts.ModemScope
import PypnmCmts.NamespaceSeparation
import PypnmCmts.NodeStatusIndex
import PypnmCmts.OperationModels
import PypnmCmts.OperationRestarts
import PypnmCmts.OperationRun
import PypnmCmts.OperationRunner
import PypnmCmts.OperationStateMachine
import PypnmCmts.OperationSteps
import PypnmCmts.OperationStore
import PypnmCmts.OperationTimestamps
import PypnmCmts.OperationalStatus
import PypnmCmts.OrchestratorLauncher
import PypnmCmts.OrderedDict
import PypnmCmts.OwnerIdResolver
import PypnmCmts.PidFile
import PypnmCmts.PlanWithinInventory
import PypnmCmts.PlannedCapacity
import PypnmCmts.PosixPath
import PypnmCmts.PreEqualizationResults
import PypnmCmts.ProgressCounters
import PypnmCmts.PyCodecs
import PypnmCmts.PyConvert
import PypnmCmts.PyJson
import PypnmCmts.PyNumber
import PypnmCmts.PyText
import PypnmCmts.RecordDisk
import PypnmCmts.RecordFile
import PypnmCmts.RecordRefinement
import PypnmCmts.RecordText
import PypnmCmts.RefreshIsolation
import PypnmCmts.RefreshLoop
import PypnmCmts.RefreshRequests
import PypnmCmts.RegisteredModems
import PypnmCmts.ReloadWatch
import PypnmCmts.ReplicaPartition
import PypnmCmts.ResultFiles
import PypnmCmts.ResultPaths
import PypnmCmts.ResultRecords
import PypnmCmts.ResultsAttribution
import PypnmCmts.RfChannels
import PypnmCmts.RunnerAccounting
import PypnmCmts.RxMerFile
import PypnmCmts.RxMerFileCodec
import PypnmCmts.RxMerResults
import PypnmCmts.ScopedJobs
import PypnmCmts.SelectionFilters
import PypnmCmts.ServiceGroupJoin
import PypnmCmts.ServiceGroupLease
import PypnmCmts.ServingGroupWorker
import PypnmCmts.SgwCacheStore
import PypnmCmts.SgwManager
import PypnmCmts.SgwMetadata
import PypnmCmts.SgwWorld
import PypnmCmts.ShardConvergence
import PypnmCmts.SlidingWindow
import PypnmCmts.SnapshotHonesty
import PypnmCmts.SnmpClient
import PypnmCmts.SnmpTable
import PypnmCmts.StateFiles
import PypnmCmts.StopSignal
import PypnmCmts.TextLines
import PypnmCmts.TickAccounting
import PypnmCmts.TickRules
import PypnmCmts.TickWindow
import PypnmCmts.TopologyPaths
import PypnmCmts.TtlLease
import PypnmCmts.WorkRunner
import PypnmCmts.WorkerGuard
import PypnmCmts.WorkerPool

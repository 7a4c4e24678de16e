import PowerSync.Util.JsMap
import PowerSync.Storage.BucketData
import PowerSync.Sync.ChecksumState
import PowerSync.Sync.Stream
import PowerSync.Sync.Positions
import PowerSync.Replication.SaveOperation
import PowerSync.Replication.ReplicateBatch
import PowerSync.Sync.CheckpointDiff
import PowerSync.Replication.Checkpoints
import PowerSync.Replication.Transactions
import PowerSync.Replication.OpIdSequence
import PowerSync.Streams.Demultiplexer
import PowerSync.Sync.Preemption
import PowerSync.Storage.Chunking
import PowerSync.Replication.Truncate
import PowerSync.Storage.PartialChecksums
import PowerSync.Replication.MongoLSN
import PowerSync.Auth.KeyStore
import PowerSync.Migrations.MigrationAgent
import PowerSync.Storage.ChecksumCache
import PowerSync.Storage.ActiveCheckpoint
import PowerSync.Storage.SourceTables
import PowerSync.Storage.ParameterSets
import PowerSync.Replication.LookupTracking
import PowerSync.Replication.BatchedPath
import PowerSync.Replication.SourceRows

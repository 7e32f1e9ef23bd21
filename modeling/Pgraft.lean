import Pgraft.Basic
import Pgraft.Kv
import Pgraft.KvMap
import Pgraft.Log
import Pgraft.LogInv
import Pgraft.Ring
import Pgraft.Worker
import Pgraft.WorkerQueues
import Pgraft.Json
import Pgraft.Apply
import Pgraft.ApplySound
import Pgraft.Surface
import Pgraft.Cluster
import Pgraft.ClusterSound
import Pgraft.Snapshot
import Pgraft.SnapshotLayout
import Pgraft.Digits
import Pgraft.RecordSound
import Pgraft.StateFile
import Pgraft.Guc
import Pgraft.GoLoader
import Pgraft.WorkerLoop
import Pgraft.JsonSound
import Pgraft.KeyList
import Pgraft.GucSound
import Pgraft.GoLoaderSound
import Pgraft.KvStats
import Pgraft.LogPipeline
import Pgraft.QueueStatus
import Pgraft.Replication

import ShardedKvStore.Shard

/-!
# The cluster: keys spread over shards

`Cluster` owns `shardCount` shards and routes every key to one of them.  All
shards live in one process, so a crash stops all of them at once, between two
events of whichever shard was at work.
-/

namespace ShardedKvStore

open Foundation

/-- `Cluster`. -/
structure Cluster (shardCount replicaCount : Nat) where
  shards : Fin shardCount → Shard replicaCount

/-- An event of one of the shards. -/
abbrev ClusterEvent (shardCount replicaCount : Nat) : Type :=
  Fin shardCount × ShardEvent replicaCount

/-- An operation of a cluster. -/
abbrev ClusterCall (shardCount replicaCount : Nat) (Value : Type) : Type :=
  Journaled (ClusterEvent shardCount replicaCount)
    (Cluster shardCount replicaCount) KvError Value

namespace Cluster

variable {shardCount replicaCount : Nat}

/-- Call a member function of one shard. -/
def onShard {Value : Type}
    (shard : Fin shardCount) (call : ShardCall replicaCount Value) :
    ClusterCall shardCount replicaCount Value :=
  fun cluster =>
    let outcome := call (cluster.shards shard)
    { result := outcome.result
      state :=
        { shards := Function.update cluster.shards shard outcome.state }
      journal := outcome.journal.map (Prod.mk shard) }

section Routing

variable [NeZero shardCount]

/-- `shard_for_key`. -/
def shardForKey (key : Bytes) : Fin shardCount :=
  Fin.ofNat shardCount (fnv1a64 key).toNat

/-- `put`. -/
def put (key value : Bytes) :
    ClusterCall shardCount replicaCount OperationResult :=
  onShard (shardForKey key) (Shard.put key value)

/-- `erase`. -/
def erase (key : Bytes) :
    ClusterCall shardCount replicaCount OperationResult :=
  onShard (shardForKey key) (Shard.erase key)

/-- `get`. -/
def get (key : Bytes) :
    ClusterCall shardCount replicaCount OperationResult :=
  onShard (shardForKey key) (Shard.get key)

end Routing

/-- Call a shard by its number; there is nothing to call beyond the last. -/
def onNumber
    (shardId : Nat) (call : ShardCall replicaCount Bool) :
    ClusterCall shardCount replicaCount Bool :=
  if inRange : shardId < shardCount then
    onShard ⟨shardId, inRange⟩ call
  else
    pure false

/-- `fail_replica`. -/
def failReplica (shardId : Nat) (failed : Bytes) :
    ClusterCall shardCount replicaCount Bool :=
  onNumber shardId (Shard.failReplica failed)

/-- `recover_replica`. -/
def recoverReplica (shardId : Nat) (wanted : Bytes) :
    ClusterCall shardCount replicaCount Bool :=
  onNumber shardId (Shard.recoverReplica wanted)

/-- `elect`. -/
def elect (shardId : Nat) : ClusterCall shardCount replicaCount Bool :=
  onNumber shardId Shard.electLeader

/-! ## Construction and files -/

/-- The databases of a cluster. -/
abbrev ClusterFiles (shardCount replicaCount : Nat) : Type :=
  Fin shardCount → Shard.Files replicaCount

/-- The files of a running cluster. -/
def files (cluster : Cluster shardCount replicaCount) :
    ClusterFiles shardCount replicaCount :=
  fun shard => (cluster.shards shard).files

/-- The shards of a cluster before their constructors have run. -/
def opened (files : ClusterFiles shardCount replicaCount) :
    Cluster shardCount replicaCount where
  shards := fun shard => Shard.opened shard (files shard)

/-- The body of the constructor: the shards are built one after the other. -/
def constructor : ClusterCall shardCount replicaCount Unit := do
  if shardCount < 1 then
    Journaled.fail .shardCount
  Journaled.forEach (fun shard => onShard shard Shard.constructor)
    (List.finRange shardCount)

/-- `Cluster::Cluster` on the given files. -/
def construct (files : ClusterFiles shardCount replicaCount) :
    Outcome (ClusterEvent shardCount replicaCount)
      (Cluster shardCount replicaCount) KvError Unit :=
  constructor (opened files)

/-- The effect of an event on the files. -/
def performOnFiles
    (files : ClusterFiles shardCount replicaCount)
    (event : ClusterEvent shardCount replicaCount) :
    ClusterFiles shardCount replicaCount :=
  Function.update files event.1
    (Shard.performOnFiles (files event.1) event.2)

/-- The files after a list of events. -/
def filesAfter
    (files : ClusterFiles shardCount replicaCount)
    (events : List (ClusterEvent shardCount replicaCount)) :
    ClusterFiles shardCount replicaCount :=
  events.foldl performOnFiles files

end Cluster

end ShardedKvStore

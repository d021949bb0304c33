import ShardedKvStore.Cluster

/-!
# Status documents

`status_json` of a replica, of a shard and of the cluster.  A shard writes its
document under its mutex; the cluster asks one shard after the other, so the parts
of its document may be from different times.
-/

namespace ShardedKvStore

/-- `operator<<` of a signed number. -/
def signedDecimal (number : Int) : Bytes :=
  if number < 0 then 45 :: toDecimal number.natAbs else toDecimal number.toNat

/-- `role_to_string`. -/
def roleToString : Role → Bytes
  | .follower => bytes "follower"
  | .candidate => bytes "candidate"
  | .leader => bytes "leader"

/-- `status_json` of a replica. -/
def RaftReplica.statusJson (replica : RaftReplica) : Bytes :=
  bytes "\x7b\"id\":\"" ++ jsonEscape replica.id ++ bytes "\"" ++
    bytes ",\"online\":" ++
      (if replica.online = true then bytes "true" else bytes "false") ++
    bytes ",\"role\":\"" ++ roleToString replica.role ++ bytes "\"" ++
    bytes ",\"term\":" ++ signedDecimal replica.currentTerm ++
    bytes ",\"commit_index\":" ++ signedDecimal replica.commitIndex ++
    bytes ",\"last_log_index\":" ++
      signedDecimal replica.store.lastLogIndex ++
    bytes "\x7d"

/-- `status_json` of a shard. -/
def Shard.statusJson {count : Nat} (shard : Shard count) : Bytes :=
  bytes "\x7b\"shard\":" ++ toDecimal shard.shardId ++
    bytes ",\"leader\":\"" ++ jsonEscape shard.leaderId ++ bytes "\"" ++
    bytes ",\"replicas\":[" ++
    List.intercalate [44]
      (List.ofFn fun position => (shard.replicas position).statusJson) ++
    bytes "]\x7d"

/-- The document of a cluster from the documents of its shards. -/
def clusterStatusJson (shardCount : Nat) (shards : List Bytes) : Bytes :=
  bytes "\x7b\"shard_count\":" ++ toDecimal shardCount ++
    bytes ",\"shards\":[" ++ List.intercalate [44] shards ++ bytes "]\x7d"

end ShardedKvStore

import ShardedKvStore.Server.Threads
import ShardedKvStore.Shard.Counting

/-!
# What threads have to count

What is counted inside a call of the gateway or the cluster is at most one addition:
a refusal of a breaker, a retry, a failure, an election.  A replication never fails
while the process does not crash.
-/

namespace ShardedKvStore

open Foundation

section Counting

variable {shardCount replicaCount : Nat}

/-! ## Calls of the cluster -/

theorem electionsIn_onShard_le
    {shard : Fin shardCount} {Value : Type}
    {call : ShardCall replicaCount Value}
    (elects : Shard.ElectsAtMost 1 call)
    (cluster : Cluster shardCount replicaCount) :
    electionsIn (Cluster.onShard shard call cluster).journal ≤ 1 := by
  unfold electionsIn Cluster.onShard
  rw [List.countP_map]
  exact elects (cluster.shards shard)

variable [NeZero shardCount]

/-- An operation of the cluster wins at most one election. -/
theorem ClusterOperation.electionsIn_le
    (operation : ClusterOperation)
    (cluster : Cluster shardCount replicaCount) :
    electionsIn (operation.call cluster).journal ≤ 1 := by
  rw [operation.call_apply]
  split
  · exact electionsIn_onShard_le (Shard.electsAtMost_call _) cluster
  · exact Nat.zero_le 1

/-- The shards of a server are in clean states. -/
theorem ServerRun.cleanState
    {settings : Settings} {labels : List ServerLabel}
    {state : ServerState shardCount replicaCount}
    (positive : 0 < replicaCount) (run : ServerRun settings labels state)
    (shard : Fin shardCount) :
    ∃ agreed bound elections,
      Shard.CleanState shard agreed bound
        (.running (state.server.gateway.cluster.shards shard)
          elections) := by
  obtain ⟨gatewayLabels, _, behind⟩ := ServerRun.behind run
  have clusterRun := GatewayRun.clusterRun positive behind.run
  obtain ⟨_, elections, view⟩ := clusterRun.shardView positive shard
  have cleanRun : Shard.CleanRun shard _ _ :=
    ⟨view.run, view.clean (clusterLabels_clean gatewayLabels)⟩
  obtain ⟨agreed, bound, clean⟩ := cleanRun.cleanState positive
  exact ⟨agreed, bound, elections, clean⟩

/-- In a run of a server no replication fails. -/
theorem ServerRun.replicationFailures_eq
    {settings : Settings} {labels : List ServerLabel}
    {state : ServerState shardCount replicaCount}
    (positive : 0 < replicaCount) (run : ServerRun settings labels state)
    (operation : ClusterOperation) :
    operation.replicationFailures state.server.gateway.cluster = 0 := by
  cases operation with
  | put key value =>
      obtain ⟨_, _, _, clean⟩ :=
        run.cleanState positive (Cluster.shardForKey key)
      simp only [ClusterOperation.replicationFailures,
        clean.replicationFailures_eq (Or.inl rfl)]
  | erase key =>
      obtain ⟨_, _, _, clean⟩ :=
        run.cleanState positive (Cluster.shardForKey key)
      simp only [ClusterOperation.replicationFailures,
        clean.replicationFailures_eq (Or.inr rfl)]
  | _ =>
      rfl

/-- What an operation of the cluster counts in a run of a server. -/
theorem ServerRun.additions_eq
    {settings : Settings} {labels : List ServerLabel}
    {state : ServerState shardCount replicaCount}
    (positive : 0 < replicaCount) (run : ServerRun settings labels state)
    (operation : ClusterOperation) :
    operation.additions state.server.gateway.cluster = [] ∨
      operation.additions state.server.gateway.cluster = [.elections] := by
  have atMost := operation.electionsIn_le state.server.gateway.cluster
  unfold ClusterOperation.additions
  rw [run.replicationFailures_eq positive, List.replicate_zero,
    List.append_nil]
  rcases Nat.le_one_iff_eq_zero_or_eq_one.mp atMost with none | one
  · rw [none]
    exact Or.inl rfl
  · rw [one]
    exact Or.inr rfl

/-! ## Steps of the gateway -/

@[simp]
theorem Metrics.additions_self (metrics : Metrics) :
    metrics.additions metrics = [] := by
  simp [Metrics.additions]

/-- A breaker that refuses is counted. -/
theorem Gateway.additions_askBreaker
    (gateway : Gateway shardCount replicaCount) (now : Int)
    (sent : KvRequest) :
    ((gateway.askBreaker now sent).1 = .attempting 0 ∧
        gateway.metrics.additions
          (gateway.askBreaker now sent).2.metrics = []) ∨
      (gateway.askBreaker now sent).1 =
          .answered
            (circuitOpenResponse
              (Cluster.shardForKey sent.key : Fin shardCount)) ∧
        gateway.metrics.additions
          (gateway.askBreaker now sent).2.metrics = [.circuitOpen] := by
  unfold Gateway.askBreaker
  simp only
  split
  · exact Or.inl ⟨rfl, Metrics.additions_self _⟩
  · right
    refine ⟨rfl, ?_⟩
    simp [Metrics.additions]

/-- A retry is counted, and a failure. -/
theorem Gateway.additions_record
    (gateway : Gateway shardCount replicaCount) (now : Int)
    (sent : KvRequest) (attempt : UInt64) (result : OperationResult) :
    ((gateway.record now sent attempt result).1 =
          .answered (sent.response result) ∧
        gateway.metrics.additions
            (gateway.record now sent attempt result).2.metrics =
          if 500 ≤ result.status then [.gatewayFailures] else []) ∨
      500 ≤ result.status ∧
        (gateway.record now sent attempt result).1 =
          .attempting (attempt + 1) ∧
        gateway.metrics.additions
            (gateway.record now sent attempt result).2.metrics =
          if attempt < gateway.maxRetries then [.retries] else [] := by
  unfold Gateway.record Gateway.finish
  simp only
  split
  case isTrue succeeded =>
    left
    rw [if_neg (not_le.mpr succeeded), if_neg (not_le.mpr succeeded)]
    exact ⟨rfl, Metrics.additions_self _⟩
  case isFalse notLess =>
    have failed : 500 ≤ result.status := not_lt.mp notLess
    split
    case isTrue again =>
      right
      refine ⟨failed, rfl, ?_⟩
      by_cases early : attempt < gateway.maxRetries
      · simp [Metrics.additions, early]
      · simp [Metrics.additions, early]
    case isFalse ended =>
      left
      have last : ¬ attempt < gateway.maxRetries := by
        intro early
        apply ended
        rw [UInt64.lt_iff_toNat_lt] at early
        have small := gateway.maxRetries.toNat_lt
        rw [UInt64.le_iff_toNat_le, UInt64.toNat_add]
        simp only [UInt64.reduceToNat]
        omega
      refine ⟨rfl, ?_⟩
      simp [Metrics.additions, last]

/-! ## Threads -/

/-- What a thread may have to count when it comes to a stage. -/
inductive Stage.MayCount : Stage → List Counter → Prop
  | nothing (stage : Stage) : stage.MayCount []
  | rateLimited :
      (Stage.finishing rateLimitedResponse).MayCount [.rateLimited]
  | circuitOpen (sent : KvRequest) (response : HttpResponse) :
      response.status = 503 →
      (Stage.executing sent (.answered response)).MayCount [.circuitOpen]
  | retries (sent : KvRequest) (attempt : UInt64) :
      (Stage.executing sent (.attempting attempt)).MayCount [.retries]
  | gatewayFailures (sent : KvRequest) (response : HttpResponse) :
      response.status = 503 →
      (Stage.executing sent (.answered response)).MayCount
        [.gatewayFailures]
  | called (sent : KvRequest) (attempt : UInt64)
      (result : OperationResult) :
      (Stage.executing sent (.called attempt result)).MayCount [.elections]
  | administered (action : AdminAction) (answer : Except KvError Bool) :
      (Stage.finishing (action.response answer)).MayCount [.elections]

theorem Stage.MayCount.length_le
    {stage : Stage} {counting : List Counter}
    (mayCount : stage.MayCount counting) :
    counting.length ≤ 1 := by
  cases mayCount with
  | nothing =>
      exact Nat.zero_le 1
  | _ =>
      exact le_rfl

/-- A thread counts one thing before it goes on. -/
theorem Stage.MayCount.tail_eq
    {stage : Stage} {counter : Counter} {rest : List Counter}
    (mayCount : stage.MayCount (counter :: rest)) :
    rest = [] := by
  have atMost := mayCount.length_le
  rw [List.length_cons] at atMost
  exact List.eq_nil_of_length_eq_zero (by omega)

/-- A turn leaves at most one thing to count. -/
theorem Turns.mayCount
    {settings : Settings} {labels : List ServerLabel}
    {state : ServerState shardCount replicaCount} {input : TurnInput}
    {request : HttpRequest} {started : Int} {stage stage' : Stage}
    {counting counting' : List Counter}
    {server : Server shardCount replicaCount}
    (positive : 0 < replicaCount) (run : ServerRun settings labels state)
    (follows :
      stage.Follows shardCount replicaCount settings.apiKey request)
    (mayCount : stage.MayCount counting)
    (turned :
      Turns state.server input request started stage counting stage'
        counting' server) :
    stage'.MayCount counting' := by
  cases turned with
  | count _ counter rest _ =>
      rw [mayCount.tail_eq]
      exact .nothing stage
  | limited _ =>
      exact .rateLimited
  | ask sent =>
      rcases state.server.gateway.additions_askBreaker input.now sent with
        ⟨_, none⟩ | ⟨refused, one⟩
      · rw [none]
        exact .nothing _
      · rw [refused, one]
        exact .circuitOpen sent _ rfl
  | attempt sent attempt =>
      obtain ⟨result, returned, _⟩ :=
        sent.call_returns positive (run.clusterRun positive)
      have next :
          (state.server.gateway.attempt sent attempt).1 =
            .called attempt result := by
        unfold Gateway.attempt
        simp only [returned]
      rcases run.additions_eq positive sent.clusterOperation with
        none | one
      · rw [none]
        exact .nothing _
      · rw [next, one]
        exact .called sent attempt result
  | record sent attempt result =>
      obtain ⟨_, _, returns⟩ := follows
      rcases state.server.gateway.additions_record input.now sent attempt
          result with
        ⟨answered, counts⟩ | ⟨_, again, counts⟩
      · rw [answered, counts]
        split
        case isTrue failed =>
          have status := returns.status_mem
          simp only [List.mem_cons, List.not_mem_nil, or_false] at status
          have unavailable : result.status = 503 := by omega
          exact .gatewayFailures sent _ unavailable
        case isFalse =>
          exact .nothing _
      · rw [again, counts]
        split
        · exact .retries sent _
        · exact .nothing _
  | administered action =>
      rcases run.additions_eq positive action.operation with none | one
      · rw [none]
        exact .nothing _
      · rw [one]
        exact .administered action _
  | _ =>
      exact .nothing _

/-- In every run a thread has at most one thing to count before it goes on. -/
theorem ServerRun.mayCount
    {settings : Settings} {labels : List ServerLabel}
    {state : ServerState shardCount replicaCount}
    (positive : 0 < replicaCount) (run : ServerRun settings labels state)
    {index : Nat} {thread : ServerThread}
    (found : state.threads[index]? = some thread) :
    thread.stage.MayCount thread.counting :=
  ServerRun.forall_threads
    (fun _ _ stage counting => stage.MayCount counting)
    (fun _ => .nothing .received)
    (fun earlier isThread mayCount turned =>
      turned.mayCount positive earlier
        (ServerRun.follows positive earlier isThread) mayCount)
    run found

end Counting

end ShardedKvStore

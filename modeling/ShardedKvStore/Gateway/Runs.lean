import ShardedKvStore.Gateway

/-!
# Runs of the gateway

A state holds the gateway and the threads that execute requests, oldest first.
The steps of the threads are interleaved in any order, with each other and with
the administrative calls, at any times.  What a run does to the cluster is a run
of the cluster without crashes.
-/

namespace ShardedKvStore

open Foundation

/-- A thread in `execute_with_resilience`. -/
structure RequestThread where
  request : KvRequest
  progress : Progress
  deriving DecidableEq, Repr

/-- The gateway and its threads. -/
structure GatewayState (shardCount replicaCount : Nat) where
  gateway : Gateway shardCount replicaCount
  threads : List RequestThread

/-- The steps of a run. -/
inductive GatewayLabel where
  /-- a request arrives and asks its breaker -/
  | request (request : KvRequest) (now : Int)
  /-- the thread at a position calls the cluster -/
  | attempt (index : Nat) (request : KvRequest)
      (answer : Except KvError OperationResult)
  /-- the thread at a position tells its breaker about the call -/
  | record (index : Nat) (now : Int)
  /-- an administrative call -/
  | admin (operation : ClusterOperation) (answer : Except KvError Response)

/-- The administrative operations. -/
def ClusterOperation.IsAdmin : ClusterOperation → Prop
  | .failReplica _ _ => True
  | .recoverReplica _ _ => True
  | .elect _ => True
  | _ => False

theorem ClusterOperation.IsAdmin.write_eq_none
    {operation : ClusterOperation} (isAdmin : operation.IsAdmin) :
    operation.write = none := by
  cases operation with
  | put key value =>
      exact isAdmin.elim
  | erase key =>
      exact isAdmin.elim
  | get key =>
      rfl
  | failReplica shardId replica =>
      rfl
  | recoverReplica shardId replica =>
      rfl
  | elect shardId =>
      rfl

section Steps

variable {shardCount replicaCount : Nat}

/-- The state after a thread has taken a step. -/
def GatewayState.advance
    (state : GatewayState shardCount replicaCount) (index : Nat)
    (request : KvRequest)
    (outcome : Progress × Gateway shardCount replicaCount) :
    GatewayState shardCount replicaCount where
  gateway := outcome.2
  threads := state.threads.set index ⟨request, outcome.1⟩

/-- The state after a thread has been added. -/
def GatewayState.spawn
    (state : GatewayState shardCount replicaCount) (request : KvRequest)
    (outcome : Progress × Gateway shardCount replicaCount) :
    GatewayState shardCount replicaCount where
  gateway := outcome.2
  threads := state.threads ++ [⟨request, outcome.1⟩]

/-- A gateway in front of a cluster that was just started. -/
def GatewayState.initial
    (shardCount replicaCount : Nat) (maxRetries : UInt64) :
    GatewayState shardCount replicaCount where
  gateway :=
    Gateway.create (Cluster.begun shardCount replicaCount) maxRetries
  threads := []

variable [NeZero shardCount]

/-- The state after an administrative call. -/
def GatewayState.administer
    (state : GatewayState shardCount replicaCount)
    (operation : ClusterOperation) :
    GatewayState shardCount replicaCount :=
  { state with
    gateway :=
      { state.gateway with
        cluster := (operation.call state.gateway.cluster).state } }

/-- The steps of the gateway. -/
inductive GatewayStep :
    GatewayState shardCount replicaCount → GatewayLabel →
      GatewayState shardCount replicaCount → Prop
  | request (state : GatewayState shardCount replicaCount)
      (request : KvRequest) (now : Int) :
      GatewayStep state (.request request now)
        (state.spawn request (state.gateway.askBreaker now request))
  | attempt {state : GatewayState shardCount replicaCount} (index : Nat)
      (request : KvRequest) (attempt : UInt64) :
      state.threads[index]? = some ⟨request, .attempting attempt⟩ →
      GatewayStep state
        (.attempt index request
          (request.call state.gateway.cluster).result)
        (state.advance index request
          (state.gateway.attempt request attempt))
  | record {state : GatewayState shardCount replicaCount} (index : Nat)
      (now : Int) (request : KvRequest) (attempt : UInt64)
      (result : OperationResult) :
      state.threads[index]? = some ⟨request, .called attempt result⟩ →
      GatewayStep state (.record index now)
        (state.advance index request
          (state.gateway.record now request attempt result))
  | admin (state : GatewayState shardCount replicaCount)
      (operation : ClusterOperation) :
      operation.IsAdmin →
      GatewayStep state
        (.admin operation (operation.call state.gateway.cluster).result)
        (state.administer operation)

/-- The runs of a gateway in front of a fresh cluster. -/
abbrev GatewayRun (maxRetries : UInt64) :
    List GatewayLabel → GatewayState shardCount replicaCount → Prop :=
  Run
    (fun state =>
      state = GatewayState.initial shardCount replicaCount maxRetries)
    GatewayStep

end Steps

/-! ## What a step does to the cluster and to its thread -/

namespace Gateway

variable {shardCount replicaCount : Nat} [NeZero shardCount]
  {gateway : Gateway shardCount replicaCount} {now : Int}
  {request : KvRequest} {attempt : UInt64} {result : OperationResult}

@[simp]
theorem askBreaker_cluster :
    (gateway.askBreaker now request).2.cluster = gateway.cluster := by
  unfold askBreaker
  simp only
  split
  · rfl
  · rfl

/-- A request that is not admitted is answered at once. -/
theorem askBreaker_progress
    (gateway : Gateway shardCount replicaCount) (now : Int)
    (request : KvRequest) :
    (gateway.askBreaker now request).1 = .attempting 0 ∨
      ∃ response,
        (gateway.askBreaker now request).1 = .answered response ∧
          response.status = 503 := by
  unfold askBreaker
  simp only
  split
  · exact Or.inl rfl
  · exact Or.inr ⟨_, rfl, rfl⟩

omit [NeZero shardCount] in
@[simp]
theorem finish_cluster :
    (gateway.finish request result).2.cluster = gateway.cluster := by
  unfold finish
  simp only
  split
  · rfl
  · rfl

@[simp]
theorem record_cluster :
    (gateway.record now request attempt result).2.cluster =
      gateway.cluster := by
  unfold record
  simp only
  split
  · exact finish_cluster
  · split
    · split
      · rfl
      · rfl
    · rw [finish_cluster]
      split
      · rfl
      · rfl

/-- After the breaker has been told, the result is the answer, or it was a
failure and the next attempt follows. -/
theorem record_progress
    (gateway : Gateway shardCount replicaCount) (now : Int)
    (request : KvRequest) (attempt : UInt64) (result : OperationResult) :
    (gateway.record now request attempt result).1 =
        .answered (request.response result) ∨
      500 ≤ result.status ∧ attempt + 1 ≤ gateway.maxRetries ∧
        (gateway.record now request attempt result).1 =
          .attempting (attempt + 1) := by
  unfold record
  simp only
  split
  case isTrue =>
    exact Or.inl rfl
  case isFalse failed =>
    split
    case isTrue again =>
      exact Or.inr ⟨not_lt.mp failed, again, rfl⟩
    case isFalse =>
      exact Or.inl rfl

end Gateway

section ClusterRuns

variable {shardCount replicaCount : Nat} [NeZero shardCount]

/-- What a step of the gateway does to the cluster. -/
def GatewayLabel.clusterLabel : GatewayLabel → Option ClusterLabel
  | .attempt _ sent answer =>
      some (.call sent.clusterOperation (answer.map .result))
  | .admin operation answer => some (.call operation answer)
  | _ => none

/-- The run of the cluster inside a run of the gateway. -/
def clusterLabels (labels : List GatewayLabel) : List ClusterLabel :=
  .start :: labels.filterMap GatewayLabel.clusterLabel

theorem clusterLabels_concat
    (labels : List GatewayLabel) (label : GatewayLabel) :
    clusterLabels (labels ++ [label]) =
      clusterLabels labels ++ label.clusterLabel.toList := by
  unfold clusterLabels
  rw [filterMap_concat, List.cons_append]

theorem clusterLabels_clean (labels : List GatewayLabel) :
    ∀ label ∈ clusterLabels labels, label.Clean := by
  intro label member
  rcases List.mem_cons.mp member with rfl | inRun
  · trivial
  · obtain ⟨source, _, isLabel⟩ := List.mem_filterMap.mp inRun
    cases source with
    | request request now =>
        cases isLabel
    | attempt index request answer =>
        cases isLabel
        trivial
    | record index now =>
        cases isLabel
    | admin operation answer =>
        cases isLabel
        trivial

omit [NeZero shardCount] in
/-- A call whose answer is wrapped. -/
theorem returning_apply
    {Answer : Type} (wrap : Answer → Response)
    (call : ClusterCall shardCount replicaCount Answer)
    (cluster : Cluster shardCount replicaCount) :
    (do
      return wrap (← call) :
        ClusterCall shardCount replicaCount Response) cluster =
      ⟨(call cluster).result.map wrap, (call cluster).state,
        (call cluster).journal⟩ := by
  rw [Journaled.bind_apply]
  cases answer : call cluster with
  | mk result state journal =>
      cases result with
      | error failure =>
          rfl
      | ok value =>
          simp [Outcome.andThen, Except.map]

/-- The call of an attempt is the operation of its request. -/
theorem KvRequest.clusterOperation_apply
    (request : KvRequest) (cluster : Cluster shardCount replicaCount) :
    request.clusterOperation.call cluster =
      ⟨(request.call cluster).result.map .result,
        (request.call cluster).state, (request.call cluster).journal⟩ := by
  unfold KvRequest.clusterOperation KvRequest.call
  cases request.operation with
  | get =>
      exact returning_apply .result _ cluster
  | put =>
      exact returning_apply .result _ cluster
  | delete =>
      exact returning_apply .result _ cluster

/-- A step of the gateway is at most one operation of the cluster. -/
theorem GatewayStep.clusterRun
    {state next : GatewayState shardCount replicaCount}
    {label : GatewayLabel} {labels : List ClusterLabel}
    (step : GatewayStep state label next)
    (run : ClusterRun labels (.running state.gateway.cluster)) :
    ClusterRun (labels ++ label.clusterLabel.toList)
      (.running next.gateway.cluster) := by
  cases step with
  | request request now =>
      simp only [GatewayLabel.clusterLabel, Option.toList_none,
        List.append_nil, GatewayState.spawn, Gateway.askBreaker_cluster]
      exact run
  | attempt index request attempt found =>
      have called :=
        run.extend
          (.call state.gateway.cluster request.clusterOperation)
      rw [request.clusterOperation_apply] at called
      exact called
  | record index now request attempt result found =>
      simp only [GatewayLabel.clusterLabel, Option.toList_none,
        List.append_nil, GatewayState.advance, Gateway.record_cluster]
      exact run
  | admin operation isAdmin =>
      exact run.extend (.call state.gateway.cluster operation)

theorem GatewayRun.clusterRun
    {maxRetries : UInt64} {labels : List GatewayLabel}
    {state : GatewayState shardCount replicaCount}
    (positive : 0 < replicaCount)
    (run : GatewayRun maxRetries labels state) :
    ClusterRun (clusterLabels labels) (.running state.gateway.cluster) := by
  induction run with
  | initial started =>
      rw [started]
      exact clusterRun_begun positive
  | extend _ step inductionHypothesis =>
      rw [clusterLabels_concat]
      exact step.clusterRun inductionHypothesis

end ClusterRuns

end ShardedKvStore

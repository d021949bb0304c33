import ShardedKvStore.Gateway.Runs
import ShardedKvStore.Server.Turns

/-!
# What the gateway counts

The gateway counts a retry, a refusal and a failure in the step in which it happens;
the thread adds them to the shared counters in the turns after it.  So in every state
a shared counter is what the gateway has counted, less what threads have yet to add.
-/

namespace ShardedKvStore

open Foundation

/-! ## Additions -/

/-- The other counters stay. -/
theorem Counters.fetchAdd_of_ne
    (counters : Counters) {counter added : Counter} (amount : UInt64)
    (different : counter ≠ added) :
    counters.fetchAdd added amount counter = counters counter :=
  Function.update_of_ne different _ _

/-- The counters of `execute_with_resilience`. -/
def Counter.ofGateway : List Counter :=
  [.retries, .circuitOpen, .gatewayFailures]

/-- What the gateway has to count. -/
def Metrics.value (metrics : Metrics) : Counters
  | .retries => metrics.retries
  | .circuitOpen => metrics.circuitOpen
  | .gatewayFailures => metrics.gatewayFailures
  | _ => 0

/-- How often the threads have yet to add to a counter. -/
def pendingIn (counter : Counter) (threads : List ServerThread) : Nat :=
  (threads.map fun thread => thread.counting.count counter).sum

/-- The values of the counters of the gateway go up by at most one. -/
def Metrics.Grows (before after : Metrics) : Prop :=
  ∀ counter,
    after.value counter = before.value counter ∨
      after.value counter = before.value counter + 1

private theorem Metrics.count_additions
    (before after : Metrics) {counter : Counter}
    (member : counter ∈ Counter.ofGateway) :
    (before.additions after).count counter =
      if after.value counter = before.value counter then 0 else 1 := by
  cases counter with
  | retries =>
      by_cases same : after.retries = before.retries
      · simp [additions, value, same, apply_ite (List.count _)]
      · simp [additions, value, same, apply_ite (List.count _)]
  | circuitOpen =>
      by_cases same : after.circuitOpen = before.circuitOpen
      · simp [additions, value, same, apply_ite (List.count _)]
      · simp [additions, value, same, apply_ite (List.count _)]
  | gatewayFailures =>
      by_cases same : after.gatewayFailures = before.gatewayFailures
      · simp [additions, value, same, apply_ite (List.count _)]
      · simp [additions, value, same, apply_ite (List.count _)]
  | _ =>
      exact absurd member (by decide)

/-- What the gateway counts in a step is what its thread has to add. -/
private theorem Metrics.Grows.value_eq
    {before after : Metrics} (grows : before.Grows after)
    {counter : Counter} (member : counter ∈ Counter.ofGateway) :
    after.value counter =
      before.value counter +
        UInt64.ofNat ((before.additions after).count counter) := by
  rw [before.count_additions after member]
  rcases grows counter with same | more
  · rw [if_pos same, same]
    exact (UInt64.add_zero _).symm
  · have different : after.value counter ≠ before.value counter := by
      rw [more]
      grind
    rw [if_neg different, more]
    rfl

section Additions

variable {shardCount replicaCount : Nat} [NeZero shardCount]

private theorem grows_askBreaker
    (gateway : Gateway shardCount replicaCount) (now : Int)
    (sent : KvRequest) :
    gateway.metrics.Grows (gateway.askBreaker now sent).2.metrics := by
  intro counter
  unfold Gateway.askBreaker
  simp only
  split
  · exact Or.inl rfl
  · cases counter with
    | circuitOpen =>
        exact Or.inr rfl
    | _ =>
        exact Or.inl rfl

private theorem grows_record
    (gateway : Gateway shardCount replicaCount) (now : Int)
    (sent : KvRequest) (attempt : UInt64) (result : OperationResult) :
    gateway.metrics.Grows
      (gateway.record now sent attempt result).2.metrics := by
  intro counter
  unfold Gateway.record Gateway.finish
  simp only
  -- a retry adds to one counter, a failure to another one
  split_ifs <;> cases counter <;>
    first
      | exact Or.inl rfl
      | exact Or.inr rfl

/-- A call of the cluster adds nothing to the counters of the gateway. -/
private theorem count_additions_eq
    (operation : ClusterOperation)
    (cluster : Cluster shardCount replicaCount) {counter : Counter}
    (member : counter ∈ Counter.ofGateway) :
    (operation.additions cluster).count counter = 0 := by
  apply List.count_eq_zero.mpr
  unfold ClusterOperation.additions
  intro inside
  rcases List.mem_append.mp inside with isElection | isFailure
  · rw [List.eq_of_mem_replicate isElection] at member
    exact absurd member (by decide)
  · rw [List.eq_of_mem_replicate isFailure] at member
    exact absurd member (by decide)

/-! ## Turns -/

/-- What a turn adds to a counter of the gateway, and what it leaves to be added, is
what was to be added before and what the gateway has counted in it. -/
private theorem Turns.value_eq
    {server server' : Server shardCount replicaCount} {input : TurnInput}
    {request : HttpRequest} {started : Int} {stage stage' : Stage}
    {counting counting' : List Counter} {counter : Counter}
    (member : counter ∈ Counter.ofGateway)
    (turned :
      Turns server input request started stage counting stage' counting'
        server') :
    server'.counters counter + UInt64.ofNat (counting'.count counter) +
        server.gateway.metrics.value counter =
      server.counters counter + UInt64.ofNat (counting.count counter) +
        server'.gateway.metrics.value counter := by
  have other (added : Counter) (amount : UInt64)
      (notMember : added ∉ Counter.ofGateway) :
      server.counters.fetchAdd added amount counter =
        server.counters counter := by
    apply server.counters.fetchAdd_of_ne
    rintro rfl
    exact notMember member
  cases turned with
  | count _ added rest _ =>
      by_cases isAdded : added = counter
      · subst isAdded
        simp only [Server.count, Counters.fetchAdd, Function.update_self,
          List.count_cons_self, UInt64.ofNat_add]
        grind
      · have own :
            server.counters.fetchAdd added 1 counter =
              server.counters counter :=
          server.counters.fetchAdd_of_ne 1 (Ne.symm isAdded)
        simp only [Server.count, own, List.count_cons_of_ne isAdded]
  | unauthorized _ _ =>
      simp only [Server.count, other .authFailures 1 (by decide)]
  | limited _ =>
      have different : counter ∉ [Counter.rateLimited] := by
        rw [List.mem_singleton]
        rintro rfl
        exact absurd member (by decide)
      simp only [List.count_eq_zero.mpr different, List.count_nil]
  | execute sent _ =>
      have notMember : sent.operation.counter ∉ Counter.ofGateway := by
        cases sent.operation with
        | _ => decide
      simp only [Server.count, other _ 1 notMember]
  | ask sent =>
      simp only [
        (grows_askBreaker server.gateway input.now sent).value_eq member,
        List.count_nil]
      grind
  | attempt sent attempt =>
      have same :
          (server.gateway.attempt sent attempt).2.metrics =
            server.gateway.metrics :=
        rfl
      simp only [count_additions_eq _ _ member, same, List.count_nil]
  | record sent attempt result =>
      simp only [
        (grows_record server.gateway input.now sent attempt
          result).value_eq member,
        List.count_nil]
      grind
  | executed sent response =>
      simp only [Server.count, other .requests 1 (by decide)]
  | administered action =>
      simp only [count_additions_eq _ _ member, List.count_nil]
  | finish response =>
      simp only [Server.count, other .requests 1 (by decide)]
  | recorded elapsed response =>
      simp only [other .requestLatencyUs _ (by decide)]
  | _ =>
      rfl

/-! ## Runs -/

/-- What the gateway has counted is in the shared counters, or a thread has yet to
add it. -/
theorem ServerRun.value_eq
    {settings : Settings} {labels : List ServerLabel}
    {state : ServerState shardCount replicaCount}
    (run : ServerRun settings labels state) {counter : Counter}
    (member : counter ∈ Counter.ofGateway) :
    state.server.gateway.metrics.value counter =
      state.server.counters counter +
        UInt64.ofNat (pendingIn counter state.threads) := by
  induction run with
  | initial started =>
      subst started
      have different : counter ≠ .elections := by
        rintro rfl
        exact absurd member (by decide)
      have none :
          (ServerState.initial shardCount replicaCount
            settings).server.counters counter = 0 :=
        Counters.fetchAdd_of_ne (fun _ => 0) _ different
      rw [none]
      cases counter with
      | _ => rfl
  | @extend _ before _ _ _ step inductionHypothesis =>
      rcases step.cases with
        ⟨request, now, _, rfl⟩ |
          ⟨index, _, thread, stage, counting, _, found, turned, _, rfl⟩
      · have same :
            pendingIn counter (before.receive request now).threads =
              pendingIn counter before.threads := by
          simp only [pendingIn, ServerState.receive, List.map_append,
            List.map_singleton, List.sum_append, List.sum_singleton,
            List.count_nil, Nat.add_zero]
        rw [same]
        exact inductionHypothesis
      · have own := turned.value_eq member
        have weights :
            pendingIn counter
                  (before.threads.set index
                    { thread with stage := stage, counting := counting }) +
                thread.counting.count counter =
              pendingIn counter before.threads + counting.count counter :=
          sum_map_set (fun thread => thread.counting.count counter) found
        have added := congrArg UInt64.ofNat weights
        simp only [UInt64.ofNat_add] at added
        unfold pendingIn at inductionHypothesis added ⊢
        grind
end Additions

end ShardedKvStore

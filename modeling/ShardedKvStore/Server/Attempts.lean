import ShardedKvStore.Server.Counting

/-!
# What a request costs

What a thread has done to the cluster decides its answer: a request on the store
is answered with the result of its last call, and the calls before it have failed.
However the threads are interleaved, each of them is done after a bounded number
of turns of its own, unless the number of retries is the largest there is.
-/

namespace ShardedKvStore

open Foundation

section Attempts

variable {shardCount replicaCount : Nat} [NeZero shardCount]

/-! ## Settings -/

theorem Turns.maxRetries_eq
    {server server' : Server shardCount replicaCount} {input : TurnInput}
    {request : HttpRequest} {started : Int} {stage stage' : Stage}
    {counting counting' : List Counter}
    (turned :
      Turns server input request started stage counting stage' counting'
        server') :
    server'.gateway.maxRetries = server.gateway.maxRetries := by
  cases turned with
  | ask sent =>
      simp only [Gateway.askBreaker]
      split <;> rfl
  | record sent attempt result =>
      simp only [Gateway.record, Gateway.finish]
      split
      · split <;> rfl
      · split
        · split <;> rfl
        · split <;> split <;> rfl
  | _ =>
      rfl

theorem ServerRun.maxRetries_eq
    {settings : Settings} {labels : List ServerLabel}
    {state : ServerState shardCount replicaCount}
    (run : ServerRun settings labels state) :
    state.server.gateway.maxRetries = settings.maxRetries := by
  induction run with
  | initial started =>
      rw [started]
      rfl
  | extend _ step inductionHypothesis =>
      rcases step.cases with
        ⟨_, _, _, rfl⟩ | ⟨_, _, _, _, _, _, _, turned, _, rfl⟩
      · exact inductionHypothesis
      · exact turned.maxRetries_eq.trans inductionHypothesis

/-! ## Calls -/

/-- What a thread has done to the cluster. -/
def performedIn (turns : List Turn) : List ClusterLabel :=
  turns.filterMap Turn.performed

/-- The calls of a request that have failed. -/
def KvRequest.FailedCalls
    (sent : KvRequest) (maxRetries attempt : UInt64)
    (calls : List ClusterLabel) : Prop :=
  attempt = UInt64.ofNat calls.length ∧
    (maxRetries + 1 ≠ 0 → calls.length ≤ maxRetries.toNat) ∧
    ∀ call ∈ calls, ∃ result : OperationResult,
      call = .call sent.clusterOperation (.ok (.result result)) ∧
        500 ≤ result.status

/-- The calls of a request, and its response. -/
inductive KvRequest.Attempted
    (shardCount : Nat) [NeZero shardCount] (sent : KvRequest)
    (maxRetries : UInt64) : List ClusterLabel → HttpResponse → Prop
  | refused :
      sent.Attempted shardCount maxRetries []
        (circuitOpenResponse
          (Cluster.shardForKey sent.key : Fin shardCount))
  | succeeded (failures : List ClusterLabel) (attempt : UInt64)
      (result : OperationResult) :
      sent.FailedCalls maxRetries attempt failures →
      result.status < 500 →
      sent.Attempted shardCount maxRetries
        (failures ++ [.call sent.clusterOperation (.ok (.result result))])
        (sent.response result)
  | failed (failures : List ClusterLabel) (attempt : UInt64)
      (result : OperationResult) :
      sent.FailedCalls maxRetries attempt failures →
      failures.length = maxRetries.toNat → maxRetries + 1 ≠ 0 →
      500 ≤ result.status →
      sent.Attempted shardCount maxRetries
        (failures ++ [.call sent.clusterOperation (.ok (.result result))])
        (sent.response result)

/-- What was done to the cluster for a request, and its response before
`finish`. -/
inductive Performs
    (shardCount : Nat) [NeZero shardCount] (settings : Settings)
    (request : HttpRequest) : List ClusterLabel → HttpResponse → Prop
  | executed (sent : KvRequest) (calls : List ClusterLabel)
      (response : HttpResponse) :
      request.Trusted settings.apiKey → route request = .execute sent →
      sent.Attempted shardCount settings.maxRetries calls response →
      Performs shardCount settings request calls response
  | administered (action : AdminAction) (flag : Bool) :
      request.Trusted settings.apiKey →
      route request = .administer action →
      Performs shardCount settings request
        [.call action.operation (.ok (.flag flag))]
        (action.response (.ok flag))
  | nothing (response : HttpResponse) :
      (request.Trusted settings.apiKey →
        (∀ sent, route request ≠ .execute sent) ∧
            (∀ action, route request ≠ .administer action) ∨
          response = rateLimitedResponse) →
      Performs shardCount settings request [] response

/-- What a thread has done to the cluster before it comes to a stage. -/
def Stage.Spent
    (shardCount : Nat) [NeZero shardCount] (settings : Settings)
    (request : HttpRequest) (calls : List ClusterLabel) : Stage → Prop
  | .executing sent (.attempting attempt) =>
      sent.FailedCalls settings.maxRetries attempt calls
  | .executing sent (.called attempt result) =>
      ∃ failures,
        sent.FailedCalls settings.maxRetries attempt failures ∧
          calls =
            failures ++ [.call sent.clusterOperation (.ok (.result result))]
  | .executing sent (.answered response) =>
      sent.Attempted shardCount settings.maxRetries calls response
  | .executing _ (.threw _) => False
  | .finishing response =>
      Performs shardCount settings request calls response
  | .recording _ response =>
      Performs shardCount settings request calls response
  | .answered response =>
      ∃ elapsed reply,
        Performs shardCount settings request calls reply ∧
          response = finished elapsed reply
  | _ => calls = []

/-! ## Retries -/

section Retries

variable {maxRetries attempt : UInt64} {count : Nat}

theorem toNat_succ_lt (notMax : maxRetries + 1 ≠ 0) :
    maxRetries.toNat + 1 < 2 ^ 64 := by
  have small := maxRetries.toNat_lt
  by_contra large
  apply notMax
  apply UInt64.toNat.inj
  rw [UInt64.toNat_add]
  simp only [UInt64.reduceToNat]
  omega

/-- Another attempt follows. -/
private theorem succ_le_of_again
    (isCount : attempt = UInt64.ofNat count)
    (bounded : count ≤ maxRetries.toNat) (notMax : maxRetries + 1 ≠ 0)
    (again : attempt + 1 ≤ maxRetries) :
    count + 1 ≤ maxRetries.toNat := by
  have small := toNat_succ_lt notMax
  rw [UInt64.le_iff_toNat_le, isCount, UInt64.toNat_add,
    UInt64.toNat_ofNat'] at again
  simp only [UInt64.reduceToNat] at again
  omega

/-- The loop ends, which it does not if the counter of the attempts wraps. -/
private theorem eq_of_ended
    (isCount : attempt = UInt64.ofNat count)
    (bounded : maxRetries + 1 ≠ 0 → count ≤ maxRetries.toNat)
    (ended : ¬ attempt + 1 ≤ maxRetries) :
    maxRetries + 1 ≠ 0 ∧ count = maxRetries.toNat := by
  have notMax : maxRetries + 1 ≠ 0 := by
    intro isMax
    apply ended
    have wrapped := congrArg UInt64.toNat isMax
    have small := maxRetries.toNat_lt
    have next := (attempt + 1).toNat_lt
    rw [UInt64.toNat_add] at wrapped
    simp only [UInt64.reduceToNat] at wrapped
    rw [UInt64.le_iff_toNat_le]
    omega
  have atMost := bounded notMax
  have small := maxRetries.toNat_lt
  rw [UInt64.le_iff_toNat_le, isCount, UInt64.toNat_add,
    UInt64.toNat_ofNat'] at ended
  simp only [UInt64.reduceToNat] at ended
  exact ⟨notMax, by omega⟩

end Retries

/-- A failed call is followed by another attempt, or all of them have failed. -/
private theorem record_spent
    {settings : Settings} {gateway : Gateway shardCount replicaCount}
    {now : Int} {request : HttpRequest} {sent : KvRequest}
    {attempt : UInt64} {result : OperationResult}
    {failures : List ClusterLabel}
    (sameRetries : gateway.maxRetries = settings.maxRetries)
    (failed : sent.FailedCalls settings.maxRetries attempt failures) :
    Stage.Spent shardCount settings request
      (failures ++ [.call sent.clusterOperation (.ok (.result result))])
      (.executing sent (gateway.record now sent attempt result).1) := by
  unfold Gateway.record
  simp only [sameRetries]
  split
  case isTrue succeeded =>
    exact .succeeded failures attempt result failed succeeded
  case isFalse notLess =>
    have unavailable : 500 ≤ result.status := not_lt.mp notLess
    obtain ⟨isCount, bounded, allFailed⟩ := failed
    split
    case isTrue again =>
      refine ⟨?_, fun notMax => ?_, ?_⟩
      · rw [List.length_append, List.length_singleton, UInt64.ofNat_add,
          ← isCount]
        rfl
      · rw [List.length_append, List.length_singleton]
        exact succ_le_of_again isCount (bounded notMax) notMax again
      · exact
          forall_mem_concat_iff.mpr ⟨allFailed, result, rfl, unavailable⟩
    case isFalse ended =>
      obtain ⟨notMax, isLast⟩ := eq_of_ended isCount bounded ended
      exact
        .failed failures attempt result ⟨isCount, bounded, allFailed⟩ isLast
          notMax unavailable

/-! ## Turns -/

/-- The reply to a request that is not an operation. -/
private theorem performs_routed
    {settings : Settings} {request : HttpRequest} {response : HttpResponse}
    (noOperation : ∀ sent, route request ≠ .execute sent)
    (noAction : ∀ action, route request ≠ .administer action) :
    Performs shardCount settings request [] response :=
  .nothing response fun _ => Or.inl ⟨noOperation, noAction⟩

/-- The reply to a request that is not trusted. -/
private theorem performs_untrusted
    {settings : Settings} {request : HttpRequest} {response : HttpResponse}
    (untrusted : ¬ request.Trusted settings.apiKey) :
    Performs shardCount settings request [] response :=
  .nothing response fun trusted => absurd trusted untrusted

/-- A turn that does nothing to the cluster. -/
private theorem Turns.spent_idle
    {settings : Settings} {labels : List ServerLabel}
    {state : ServerState shardCount replicaCount} {input : TurnInput}
    {request : HttpRequest} {started : Int} {stage stage' : Stage}
    {counting counting' : List Counter}
    {server : Server shardCount replicaCount} {calls : List ClusterLabel}
    (run : ServerRun settings labels state)
    (follows :
      stage.Follows shardCount replicaCount settings.apiKey request)
    (spent : stage.Spent shardCount settings request calls)
    (idle : state.server.performed stage counting = none)
    (turned :
      Turns state.server input request started stage counting stage'
        counting' server) :
    stage'.Spent shardCount settings request calls := by
  cases turned with
  | healthy isPath =>
      obtain rfl : calls = [] := spent
      exact performs_untrusted fun trusted => trusted.1.1 isPath
  | unauthorized closed unauthorized =>
      obtain rfl : calls = [] := spent
      rw [run.apiKey_eq] at unauthorized
      refine performs_untrusted fun trusted => ?_
      rw [trusted.2] at unauthorized
      cases unauthorized
  | limited _ =>
      obtain rfl : calls = [] := spent
      exact .nothing _ fun _ => Or.inr rfl
  | respond response routed =>
      obtain rfl : calls = [] := spent
      exact
        performs_routed (by rw [routed]; rintro _ ⟨⟩)
          (by rw [routed]; rintro _ ⟨⟩)
  | ask sent =>
      obtain rfl : calls = [] := spent
      simp only [Gateway.askBreaker]
      split
      · exact ⟨rfl, fun _ => Nat.zero_le _, by rintro _ ⟨⟩⟩
      · exact .refused
  | attempt sent attempt =>
      cases idle
  | record sent attempt result =>
      obtain ⟨failures, failed, rfl⟩ := spent
      exact record_spent run.maxRetries_eq failed
  | executed sent response =>
      obtain ⟨trusted, routed, _⟩ := follows
      exact .executed sent calls response trusted routed spent
  | threw sent error =>
      exact spent.elim
  | administered action =>
      cases idle
  | reported shards _ =>
      obtain rfl : calls = [] := spent
      obtain ⟨_, routed, _⟩ := follows
      exact
        performs_routed (by rw [routed]; rintro _ ⟨⟩)
          (by rw [routed]; rintro _ ⟨⟩)
  | scraped loaded _ =>
      obtain rfl : calls = [] := spent
      exact performs_untrusted fun trusted => trusted.1.2 follows
  | recorded elapsed response =>
      exact ⟨elapsed, response, spent, rfl⟩
  | _ =>
      exact spent

/-- A turn spends what it does. -/
private theorem Turns.spent
    {settings : Settings} {labels : List ServerLabel}
    {state : ServerState shardCount replicaCount} {input : TurnInput}
    {request : HttpRequest} {started : Int} {stage stage' : Stage}
    {counting counting' : List Counter}
    {server : Server shardCount replicaCount} {calls : List ClusterLabel}
    (positive : 0 < replicaCount) (run : ServerRun settings labels state)
    (follows :
      stage.Follows shardCount replicaCount settings.apiKey request)
    (spent : stage.Spent shardCount settings request calls)
    (turned :
      Turns state.server input request started stage counting stage'
        counting' server) :
    stage'.Spent shardCount settings request
      (calls ++ (state.server.performed stage counting).toList) := by
  have clusterRun := run.clusterRun positive
  cases does : state.server.performed stage counting with
  | none =>
      rw [Option.toList_none, List.append_nil]
      exact turned.spent_idle run follows spent does
  | some label =>
      rw [← does]
      cases turned with
      | attempt sent attempt =>
          obtain ⟨result, returned, _⟩ :=
            sent.call_returns positive clusterRun
          have next :
              (state.server.gateway.attempt sent attempt).1 =
                .called attempt result := by
            unfold Gateway.attempt
            simp only [returned]
          rw [next]
          refine ⟨calls, spent, ?_⟩
          simp only [Server.performed, sent.clusterOperation_apply, returned]
          rfl
      | administered action =>
          obtain ⟨trusted, routed⟩ := follows
          obtain ⟨flag, returned⟩ := action.call_returns positive clusterRun
          obtain rfl : calls = [] := spent
          rw [returned]
          simp only [Server.performed, action.operation_apply, returned]
          exact .administered action flag trusted routed
      | _ =>
          cases does

/-- Every thread has done what its stage says. -/
theorem ServerRun.spent
    {settings : Settings} {labels : List ServerLabel}
    {state : ServerState shardCount replicaCount}
    (positive : 0 < replicaCount) (run : ServerRun settings labels state)
    {index : Nat} {thread : ServerThread}
    (found : state.threads[index]? = some thread) :
    thread.stage.Spent shardCount settings thread.request
      (performedIn (turnsOf index labels)) :=
  ServerRun.forall_threads
    (fun request turns stage _ =>
      stage.Spent shardCount settings request (performedIn turns))
    (fun _ => rfl)
    (fun earlier isThread spent turned => by
      have follows := ServerRun.follows positive earlier isThread
      unfold performedIn at spent ⊢
      rw [filterMap_concat]
      exact turned.spent positive earlier follows spent)
    run found

/-- A request is answered with what its calls have led to: an operation on the
store was refused by its breaker and not called, or its last call has succeeded and
those before it have failed, or `max_retries + 1` calls have failed. -/
theorem Server.answers_follow_calls
    {settings : Settings} {labels : List ServerLabel}
    {state : ServerState shardCount replicaCount} {index : Nat}
    {thread : ServerThread} {response : HttpResponse}
    (positive : 0 < replicaCount) (run : ServerRun settings labels state)
    (found : state.threads[index]? = some thread)
    (answered : thread.stage = .answered response) :
    ∃ elapsed reply,
      Performs shardCount settings thread.request
          (performedIn (turnsOf index labels)) reply ∧
        response = finished elapsed reply := by
  have spent := ServerRun.spent positive run found
  rw [answered] at spent
  exact spent

/-- The only replica goes offline, and a write fails twice. -/
theorem Server.answers_follow_two_calls :
    ∃ labels,
      ∃ state : ServerState 1 1,
        ∃ thread response,
          ServerRun ⟨bytes "s", 20, 40, 1⟩ labels state ∧
            state.threads[1]? = some thread ∧
            thread.stage = .answered response ∧ response.status = 503 ∧
            (performedIn (turnsOf 1 labels)).length = 2 ∧
            ∃ elapsed reply,
              Performs 1 ⟨bytes "s", 20, 40, 1⟩ thread.request
                  (performedIn (turnsOf 1 labels)) reply ∧
                response = finished elapsed reply := by
  obtain ⟨labels, state, run, holds⟩ :=
    ServerRun.of_schedule ⟨bytes "s", 20, 40, 1⟩
      ([.request (.bearing "s" "POST" "/admin/fail/0/s0-r0" []) 0,
          .request (.bearing "s" "PUT" "/v1/kv/k" (bytes "v")) 0] ++
        List.replicate 6 (.turn 0 {}) ++ List.replicate 12 (.turn 1 {}))
      (fun labels (state : ServerState 1 1) =>
        decide
          (state.threads[1]?.bind ServerThread.status = some 503 ∧
            (performedIn (turnsOf 1 labels)).length = 2))
      (by decide +kernel)
  obtain ⟨isStatus, twice⟩ := of_decide_eq_true holds
  obtain ⟨thread, response, found, answered, status⟩ :=
    ServerThread.answered_of_status isStatus
  exact
    ⟨labels, state, thread, response, run, found, answered, status, twice,
      answers_follow_calls (by decide) run found answered⟩

/-! ## Turns of a thread -/

/-- The turns a thread may still take, besides those in which it counts what it has
to count now. -/
def Stage.remaining (shardCount : Nat) (maxRetries : UInt64) : Stage → Nat
  | .received => 4 * maxRetries.toNat + shardCount + 16
  | .authorized => 4 * maxRetries.toNat + shardCount + 9
  | .admitted => 4 * maxRetries.toNat + shardCount + 8
  | .entering _ => 4 * maxRetries.toNat + 7
  | .executing _ (.attempting attempt) =>
      4 * (maxRetries.toNat - attempt.toNat) + 6
  | .executing _ (.called attempt _) =>
      4 * (maxRetries.toNat - attempt.toNat) + 4
  | .executing _ (.answered _) => 2
  | .executing _ (.threw _) => 1
  | .administering _ => 4
  | .reporting shards => shardCount - shards.length + 3
  | .scraping loaded => Counter.loaded.length - loaded.length + 3
  | .finishing _ => 2
  | .recording _ _ => 1
  | .answered _ => 0

theorem KvRequest.FailedCalls.toNat_le
    {sent : KvRequest} {maxRetries attempt : UInt64}
    {calls : List ClusterLabel}
    (failed : sent.FailedCalls maxRetries attempt calls)
    (notMax : maxRetries + 1 ≠ 0) :
    attempt.toNat ≤ maxRetries.toNat := by
  obtain ⟨rfl, bounded, _⟩ := failed
  rw [UInt64.toNat_ofNat']
  exact (Nat.mod_le _ _).trans (bounded notMax)

/-- A turn is one of those that remained. -/
private theorem Turns.remaining_lt
    {settings : Settings} {server server' : Server shardCount replicaCount}
    {input : TurnInput} {request : HttpRequest} {started : Int}
    {stage stage' : Stage} {counting counting' : List Counter}
    {calls : List ClusterLabel}
    (notMax : settings.maxRetries + 1 ≠ 0)
    (sameRetries : server.gateway.maxRetries = settings.maxRetries)
    (spent : stage.Spent shardCount settings request calls)
    (mayCount : stage'.MayCount counting')
    (turned :
      Turns server input request started stage counting stage' counting'
        server') :
    stage'.remaining shardCount settings.maxRetries + counting'.length <
      stage.remaining shardCount settings.maxRetries + counting.length := by
  have atMost := mayCount.length_le
  cases turned with
  | count _ counter rest _ =>
      rw [List.length_cons]
      omega
  | ask sent =>
      rcases server.gateway.additions_askBreaker input.now sent with
        ⟨allowed, none⟩ | ⟨refused, one⟩
      · rw [allowed, none]
        simp [Stage.remaining]
      · rw [refused, one]
        simp only [Stage.remaining, List.length_cons, List.length_nil]
        omega
  | attempt sent attempt =>
      simp only [Gateway.attempt, List.length_nil]
      split
      · simp only [Stage.remaining]
        omega
      · simp only [Stage.remaining]
        omega
  | record sent attempt result =>
      obtain ⟨failures, failed, _⟩ := spent
      have notAbove := failed.toNat_le notMax
      have small := toNat_succ_lt notMax
      rw [List.length_nil]
      rcases server.gateway.record_progress input.now sent attempt result with
        answered | ⟨_, next, again⟩
      · rw [answered]
        simp only [Stage.remaining]
        omega
      · rw [sameRetries, UInt64.le_iff_toNat_le, UInt64.toNat_add] at next
        simp only [UInt64.reduceToNat] at next
        rw [again]
        simp only [Stage.remaining, UInt64.toNat_add, UInt64.reduceToNat]
        omega
  | administered action =>
      simp only [Stage.remaining, List.length_nil]
      omega
  | load loaded counter next =>
      obtain ⟨inside, _⟩ := List.getElem?_eq_some_iff.mp next
      simp only [Stage.remaining, List.length_append, List.length_singleton,
        List.length_nil]
      omega
  | scrape _ =>
      simp only [Stage.remaining, Counter.loaded, List.length_cons,
        List.length_nil]
      omega
  | report shards inRange =>
      simp only [Stage.remaining, List.length_append, List.length_singleton,
        List.length_nil]
      omega
  | _ =>
      simp only [Stage.remaining, List.length_nil, List.length_singleton]
      omega

private theorem ServerRun.turns_le
    {settings : Settings} {labels : List ServerLabel}
    {state : ServerState shardCount replicaCount} {index : Nat}
    {thread : ServerThread} (positive : 0 < replicaCount)
    (notMax : settings.maxRetries + 1 ≠ 0)
    (run : ServerRun settings labels state)
    (found : state.threads[index]? = some thread) :
    (turnsOf index labels).length +
        thread.stage.remaining shardCount settings.maxRetries +
        thread.counting.length ≤
      4 * settings.maxRetries.toNat + shardCount + 16 := by
  have rule :=
    ServerRun.forall_threads
      (fun _ turns stage counting =>
        stage.MayCount counting ∧
          turns.length + stage.remaining shardCount settings.maxRetries +
              counting.length ≤
            4 * settings.maxRetries.toNat + shardCount + 16)
      (fun _ => ⟨.nothing .received, le_of_eq (Nat.zero_add _)⟩) ?_ run
      found
  · exact rule.2
  · intro labels state index input thread stage counting server turns earlier
      isThread bounded turned
    have mayCount :=
      turned.mayCount positive earlier
        (ServerRun.follows positive earlier isThread) bounded.1
    have decreases :=
      turned.remaining_lt notMax (ServerRun.maxRetries_eq earlier)
        (ServerRun.spent positive earlier isThread) mayCount
    refine ⟨mayCount, ?_⟩
    rw [List.length_append, List.length_singleton]
    omega

/-- A thread that has not answered can always take another turn, and it has
answered after a bounded number of them, whatever the other threads do. -/
theorem Server.threads_finish
    {settings : Settings} {labels : List ServerLabel}
    {state : ServerState shardCount replicaCount} {index : Nat}
    {thread : ServerThread} (positive : 0 < replicaCount)
    (notMax : settings.maxRetries + 1 ≠ 0)
    (run : ServerRun settings labels state)
    (found : state.threads[index]? = some thread) :
    (turnsOf index labels).length ≤
        4 * settings.maxRetries.toNat + shardCount + 16 ∧
      (thread.stage.Active →
        ∃ label next,
          ServerStep state label next ∧
            (turnsOf index (labels ++ [label])).length =
              (turnsOf index labels).length + 1) := by
  have bounded := ServerRun.turns_le positive notMax run found
  refine ⟨by omega, fun active => ?_⟩
  refine ⟨_, _, .turn index {} thread found active, ?_⟩
  rw [turnsOf_concat_own, List.length_append, List.length_singleton]
  rfl

/-- A read of a missing key, from its arrival to its answer. -/
theorem Server.read_finishes :
    ∃ labels,
      ∃ state : ServerState 1 1,
        ∃ thread response,
          ServerRun ⟨bytes "s", 20, 40, 2⟩ labels state ∧
            state.threads[0]? = some thread ∧
            thread.stage = .answered response ∧ response.status = 404 ∧
            (turnsOf 0 labels).length ≤ 4 * 2 + 1 + 16 ∧
            (thread.stage.Active →
              ∃ label next,
                ServerStep state label next ∧
                  (turnsOf 0 (labels ++ [label])).length =
                    (turnsOf 0 labels).length + 1) := by
  obtain ⟨labels, state, run, holds⟩ :=
    ServerRun.of_schedule ⟨bytes "s", 20, 40, 2⟩
      (.request (.bearing "s" "GET" "/v1/kv/k" []) 0 ::
        List.replicate 8 (.turn 0 {}))
      (fun _ (state : ServerState 1 1) =>
        decide (state.threads[0]?.bind ServerThread.status = some 404))
      (by decide +kernel)
  obtain ⟨thread, response, found, answered, status⟩ :=
    ServerThread.answered_of_status (of_decide_eq_true holds)
  obtain ⟨bounded, goesOn⟩ :=
    threads_finish (by decide) (by decide) run found
  exact
    ⟨labels, state, thread, response, run, found, answered, status, bounded,
      goesOn⟩

end Attempts

end ShardedKvStore

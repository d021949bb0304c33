import ShardedKvStore.Server.Counting

/-!
# What the counters count

Every counter that `handle` and `execute_with_resilience` add to is the number of
threads of a kind, modulo `2^64`: the threads that are counted as requests, those
that have counted an answer 401 or 429, those that execute a request of a kind, and
those that have counted that they failed to.
-/

namespace ShardedKvStore

open Foundation

/-! ## Kinds of threads -/

namespace ServerThread

/-- The thread is counted as a request. -/
def isCounted (thread : ServerThread) : Bool :=
  match thread.stage with
  | .recording _ _ => true
  | .answered _ => true
  | _ => false

/-- The thread answers with a status, without executing a request, and has nothing
left to count of it. -/
def refuses (status : Nat) (thread : ServerThread) : Bool :=
  match thread.stage with
  | .finishing response =>
      thread.counting.isEmpty && response.status = status
  | .recording _ response => response.status = status
  | .answered response => response.status = status
  | _ => false

/-- The thread has executed the request it was routed to. -/
def executed
    (apiKey : Bytes) (response : HttpResponse) (kind : KvMethod)
    (thread : ServerThread) : Bool :=
  decide (thread.request.Trusted apiKey) && response.status ≠ 429 &&
    match route thread.request with
    | .execute sent => sent.operation = kind
    | _ => false

/-- The thread executes a request of a kind. -/
def executes
    (apiKey : Bytes) (kind : KvMethod) (thread : ServerThread) : Bool :=
  match thread.stage with
  | .entering sent => sent.operation = kind
  | .executing sent _ => sent.operation = kind
  | .recording _ response => thread.executed apiKey response kind
  | .answered response => thread.executed apiKey response kind
  | _ => false

/-- The thread was routed to a request that failed. -/
def hasFailed
    (apiKey : Bytes) (response : HttpResponse) (thread : ServerThread) :
    Bool :=
  decide (thread.request.Trusted apiKey) && response.status = 503 &&
    match route thread.request with
    | .execute _ => true
    | _ => false

/-- The thread has failed to execute its request, and has nothing left to count of
it. -/
def failed (apiKey : Bytes) (thread : ServerThread) : Bool :=
  match thread.stage with
  | .executing _ (.answered response) =>
      thread.counting.isEmpty && response.status = 503
  | .recording _ response => thread.hasFailed apiKey response
  | .answered response => thread.hasFailed apiKey response
  | _ => false

end ServerThread

/-- A counter adds the threads of a kind. -/
def Counts
    (counter : UInt64) (kind : ServerThread → Bool)
    (threads : List ServerThread) : Prop :=
  counter = UInt64.ofNat (threads.countP kind)

/-- A turn in which a thread becomes one of the kind is counted. -/
def Tallies
    (counter counter' : UInt64) (kind : ServerThread → Bool)
    (before after : ServerThread) : Prop :=
  (counter' = counter ∧ kind after = kind before) ∨
    counter' = counter + 1 ∧ kind before = false ∧ kind after = true

section Counts

variable {counter counter' : UInt64} {kind : ServerThread → Bool}
  {threads : List ServerThread} {index : Nat} {before after : ServerThread}

theorem Counts.concat
    (counts : Counts counter kind threads) (none : kind after = false) :
    Counts counter kind (threads ++ [after]) := by
  unfold Counts at counts ⊢
  rw [List.countP_append, List.countP_singleton, none]
  simpa using counts

theorem Counts.set
    (counts : Counts counter kind threads)
    (found : threads[index]? = some before)
    (tallies : Tallies counter counter' kind before after) :
    Counts counter' kind (threads.set index after) := by
  obtain ⟨inside, isBefore⟩ := List.getElem?_eq_some_iff.mp found
  have atLeast : kind before = true → 0 < threads.countP kind := fun holds =>
    List.countP_pos_iff.mpr ⟨before, List.mem_of_getElem? found, holds⟩
  unfold Counts at counts ⊢
  rw [List.countP_set inside, isBefore]
  rcases tallies with ⟨rfl, same⟩ | ⟨rfl, notBefore, isAfter⟩
  · rw [counts, same]
    cases holds : kind before with
    | false =>
        simp
    | true =>
        have positive := atLeast holds
        simp only [if_true]
        rw [Nat.sub_add_cancel positive]
  · rw [counts, notBefore, isAfter]
    simp

end Counts

/-! ## Turns -/

/-- The counters that count threads. -/
def Counter.ofThreads : List Counter :=
  [.requests, .authFailures, .rateLimited, .gets, .puts, .deletes,
    .circuitOpen, .gatewayFailures, .replicationFailures]

/-- The counters count the threads. -/
structure Counters.Counted
    (apiKey : Bytes) (counters : Counters) (threads : List ServerThread) :
    Prop where
  requests : Counts (counters .requests) ServerThread.isCounted threads
  authFailures :
    Counts (counters .authFailures) (ServerThread.refuses 401) threads
  rateLimited :
    Counts (counters .rateLimited) (ServerThread.refuses 429) threads
  gets : Counts (counters .gets) (ServerThread.executes apiKey .get) threads
  puts : Counts (counters .puts) (ServerThread.executes apiKey .put) threads
  deletes :
    Counts (counters .deletes) (ServerThread.executes apiKey .delete) threads
  failures :
    Counts (counters .circuitOpen + counters .gatewayFailures)
      (ServerThread.failed apiKey) threads
  /-- no replication fails -/
  replicationFailures : counters .replicationFailures = 0

/-- What a turn counts. -/
structure Counters.Tallied
    (apiKey : Bytes) (counters counters' : Counters)
    (before after : ServerThread) : Prop where
  requests :
    Tallies (counters .requests) (counters' .requests) ServerThread.isCounted
      before after
  authFailures :
    Tallies (counters .authFailures) (counters' .authFailures)
      (ServerThread.refuses 401) before after
  rateLimited :
    Tallies (counters .rateLimited) (counters' .rateLimited)
      (ServerThread.refuses 429) before after
  gets :
    Tallies (counters .gets) (counters' .gets)
      (ServerThread.executes apiKey .get) before after
  puts :
    Tallies (counters .puts) (counters' .puts)
      (ServerThread.executes apiKey .put) before after
  deletes :
    Tallies (counters .deletes) (counters' .deletes)
      (ServerThread.executes apiKey .delete) before after
  failures :
    Tallies (counters .circuitOpen + counters .gatewayFailures)
      (counters' .circuitOpen + counters' .gatewayFailures)
      (ServerThread.failed apiKey) before after
  replicationFailures :
    counters' .replicationFailures = counters .replicationFailures

theorem Tallies.same
    {counter : UInt64} {kind : ServerThread → Bool}
    {before after : ServerThread} (same : kind after = kind before) :
    Tallies counter counter kind before after :=
  Or.inl ⟨rfl, same⟩

theorem Tallies.next
    {counter : UInt64} {kind : ServerThread → Bool}
    {before after : ServerThread} (notBefore : kind before = false)
    (isAfter : kind after = true) :
    Tallies counter (counter + 1) kind before after :=
  Or.inr ⟨rfl, notBefore, isAfter⟩

theorem Counters.Counted.set
    {apiKey : Bytes} {counters counters' : Counters}
    {threads : List ServerThread} {index : Nat}
    {before after : ServerThread}
    (counted : counters.Counted apiKey threads)
    (found : threads[index]? = some before)
    (tallied : counters.Tallied apiKey counters' before after) :
    counters'.Counted apiKey (threads.set index after) where
  requests := counted.requests.set found tallied.requests
  authFailures := counted.authFailures.set found tallied.authFailures
  rateLimited := counted.rateLimited.set found tallied.rateLimited
  gets := counted.gets.set found tallied.gets
  puts := counted.puts.set found tallied.puts
  deletes := counted.deletes.set found tallied.deletes
  failures := counted.failures.set found tallied.failures
  replicationFailures :=
    tallied.replicationFailures.trans counted.replicationFailures

/-- A turn that counts nothing of its thread. -/
private theorem Counters.Tallied.nothing
    {apiKey : Bytes} {counters counters' : Counters}
    {before after : ServerThread}
    (same : ∀ counter ∈ Counter.ofThreads, counters' counter = counters counter)
    (isCounted : after.isCounted = before.isCounted)
    (refuses :
      ∀ status ∈ [401, 429], after.refuses status = before.refuses status)
    (executes :
      ∀ kind, after.executes apiKey kind = before.executes apiKey kind)
    (failed : after.failed apiKey = before.failed apiKey) :
    counters.Tallied apiKey counters' before after := by
  constructor
  · rw [same .requests (by decide)]
    exact .same isCounted
  · rw [same .authFailures (by decide)]
    exact .same (refuses 401 (by decide))
  · rw [same .rateLimited (by decide)]
    exact .same (refuses 429 (by decide))
  · rw [same .gets (by decide)]
    exact .same (executes .get)
  · rw [same .puts (by decide)]
    exact .same (executes .put)
  · rw [same .deletes (by decide)]
    exact .same (executes .delete)
  · rw [same .circuitOpen (by decide), same .gatewayFailures (by decide)]
    exact .same failed
  · exact same .replicationFailures (by decide)

/-- A turn to a response other than 401 and 429. -/
private theorem Counters.Tallied.reply
    {apiKey : Bytes} {counters counters' : Counters} {before : ServerThread}
    {response : HttpResponse} {counting : List Counter}
    (same : ∀ counter ∈ Counter.ofThreads, counters' counter = counters counter)
    (otherStatus : response.status ∉ [401, 429])
    (uncounted : before.isCounted = false)
    (unrefused : ∀ status ∈ [401, 429], before.refuses status = false)
    (unexecuted : ∀ kind, before.executes apiKey kind = false)
    (unfailed : before.failed apiKey = false) :
    counters.Tallied apiKey counters' before
      { before with stage := .finishing response, counting := counting } := by
  apply Counters.Tallied.nothing same
  · exact uncounted.symm
  · intro status member
    rw [unrefused status member]
    have different : response.status ≠ status := by
      rintro rfl
      exact otherStatus member
    simp [ServerThread.refuses, different]
  · exact fun kind => (unexecuted kind).symm
  · exact unfailed.symm

/-- What is added to a counter of no thread is no thread. -/
private theorem fetchAdd_of_notMem
    (counters : Counters) {added : Counter} (amount : UInt64)
    (other : added ∉ Counter.ofThreads) :
    ∀ counter ∈ Counter.ofThreads,
      counters.fetchAdd added amount counter = counters counter := by
  intro counter member
  apply counters.fetchAdd_of_ne
  rintro rfl
  exact other member

/-- A request of a kind is counted. -/
private theorem tallied_execute
    (counters : Counters) (sent : KvRequest) {apiKey : Bytes}
    {request : HttpRequest} {started : Int} :
    counters.Tallied apiKey (counters.fetchAdd sent.operation.counter 1)
      ⟨request, started, .admitted, []⟩
      ⟨request, started, .entering sent, []⟩ := by
  obtain ⟨operation, key, value⟩ := sent
  cases operation with
  | get =>
      exact
        ⟨.same rfl, .same rfl, .same rfl, .next rfl rfl, .same rfl, .same rfl,
          .same rfl, rfl⟩
  | put =>
      exact
        ⟨.same rfl, .same rfl, .same rfl, .same rfl, .next rfl rfl, .same rfl,
          .same rfl, rfl⟩
  | delete =>
      exact
        ⟨.same rfl, .same rfl, .same rfl, .same rfl, .same rfl, .next rfl rfl,
          .same rfl, rfl⟩

/-- A thread counts what it has to count. -/
private theorem tallied_count
    (counters : Counters) {apiKey : Bytes} {request : HttpRequest}
    {started : Int} {stage : Stage} {counter : Counter}
    (mayCount : stage.MayCount [counter]) :
    counters.Tallied apiKey (counters.fetchAdd counter 1)
      ⟨request, started, stage, [counter]⟩
      ⟨request, started, stage, []⟩ := by
  cases mayCount with
  | rateLimited =>
      exact
        ⟨.same rfl, .same rfl, .next rfl rfl, .same rfl, .same rfl, .same rfl,
          .same rfl, rfl⟩
  | circuitOpen sent response status =>
      refine
        ⟨.same rfl, .same rfl, .same rfl, .same rfl, .same rfl, .same rfl,
          Or.inr ⟨?_, rfl, decide_eq_true status⟩, rfl⟩
      change
        counters .circuitOpen + 1 + counters .gatewayFailures =
          counters .circuitOpen + counters .gatewayFailures + 1
      rw [UInt64.add_assoc, UInt64.add_comm 1, ← UInt64.add_assoc]
  | gatewayFailures sent response status =>
      exact
        ⟨.same rfl, .same rfl, .same rfl, .same rfl, .same rfl, .same rfl,
          Or.inr
            ⟨(UInt64.add_assoc _ _ _).symm, rfl, decide_eq_true status⟩,
          rfl⟩
  | retries sent attempt =>
      exact
        .nothing (fetchAdd_of_notMem counters 1 (by decide)) rfl
          (fun _ _ => rfl) (fun _ => rfl) rfl
  | called sent attempt result =>
      exact
        .nothing (fetchAdd_of_notMem counters 1 (by decide)) rfl
          (fun _ _ => rfl) (fun _ => rfl) rfl
  | administered action answer =>
      refine
        .nothing (fetchAdd_of_notMem counters 1 (by decide)) rfl ?_
          (fun _ => rfl) rfl
      intro status member
      have isStatus := action.response_status_mem answer
      have different : (action.response answer).status ≠ status := by
        simp only [List.mem_cons, List.not_mem_nil, or_false]
          at isStatus member
        omega
      simp [ServerThread.refuses, different]

section Turns

variable {shardCount replicaCount : Nat} [NeZero shardCount]

/-- What a breaker says is not counted yet. -/
private theorem failed_askBreaker
    (gateway : Gateway shardCount replicaCount) (now : Int)
    (sent : KvRequest) {apiKey : Bytes} {request : HttpRequest}
    {started : Int} :
    ServerThread.failed apiKey
        ⟨request, started, .executing sent (gateway.askBreaker now sent).1,
          gateway.metrics.additions
            (gateway.askBreaker now sent).2.metrics⟩ =
      false := by
  rcases gateway.additions_askBreaker now sent with
    ⟨passed, _⟩ | ⟨refused, pending⟩
  · rw [passed]
    rfl
  · rw [refused, pending]
    rfl

/-- A failure is not counted yet. -/
private theorem failed_record
    (gateway : Gateway shardCount replicaCount) (now : Int)
    (sent : KvRequest) (attempt : UInt64) (result : OperationResult)
    {apiKey : Bytes} {request : HttpRequest} {started : Int} :
    ServerThread.failed apiKey
        ⟨request, started,
          .executing sent (gateway.record now sent attempt result).1,
          gateway.metrics.additions
            (gateway.record now sent attempt result).2.metrics⟩ =
      false := by
  rcases gateway.additions_record now sent attempt result with
    ⟨answered, pending⟩ | ⟨_, again, _⟩
  · rw [answered, pending]
    by_cases failed : 500 ≤ result.status
    · rw [if_pos failed]
      rfl
    · rw [if_neg failed]
      apply decide_eq_false
      change result.status ≠ 503
      omega
  · rw [again]
    rfl

/-- A thread that has executed its request is counted. -/
private theorem tallied_executed
    (counters : Counters) {apiKey : Bytes} {request : HttpRequest}
    {started elapsed : Int} {sent : KvRequest} {response : HttpResponse}
    (follows :
      Stage.Follows shardCount replicaCount apiKey request
        (.executing sent (.answered response))) :
    counters.Tallied apiKey (counters.fetchAdd .requests 1)
      ⟨request, started, .executing sent (.answered response), []⟩
      ⟨request, started, .recording elapsed response, []⟩ := by
  obtain ⟨trusted, routed, answers⟩ := follows
  have status := answers.status_mem
  simp only [List.mem_cons, List.not_mem_nil, or_false] at status
  have executes (kind : KvMethod) :
      ServerThread.executes apiKey kind
          ⟨request, started, .recording elapsed response, []⟩ =
        ServerThread.executes apiKey kind
          ⟨request, started, .executing sent (.answered response), []⟩ := by
    have notLimited : response.status ≠ 429 := by omega
    simp [ServerThread.executes, ServerThread.executed, trusted, routed,
      notLimited]
  refine
    ⟨.next rfl rfl, .same (decide_eq_false ?_), .same (decide_eq_false ?_),
      .same (executes .get), .same (executes .put),
      .same (executes .delete), .same ?_, rfl⟩
  · change response.status ≠ 401
    omega
  · change response.status ≠ 429
    omega
  · simp [ServerThread.failed, ServerThread.hasFailed, trusted, routed]

/-- A thread that executes nothing is counted. -/
private theorem tallied_finish
    (counters : Counters) {apiKey : Bytes} {request : HttpRequest}
    {started elapsed : Int} {response : HttpResponse}
    (replies : Replies shardCount replicaCount apiKey request response) :
    counters.Tallied apiKey (counters.fetchAdd .requests 1)
      ⟨request, started, .finishing response, []⟩
      ⟨request, started, .recording elapsed response, []⟩ := by
  -- an operation on the store is executed, or there are too many
  have limited (trusted : request.Trusted apiKey) (sent : KvRequest)
      (routed : route request = .execute sent) : response.status = 429 := by
    rw [replies.eq_rateLimited trusted routed]
    rfl
  have executes (kind : KvMethod) :
      ServerThread.executes apiKey kind
        ⟨request, started, .recording elapsed response, []⟩ = false := by
    unfold ServerThread.executes ServerThread.executed
    by_cases trusted : request.Trusted apiKey
    · cases routed : route request with
      | execute sent =>
          simp [limited trusted sent routed]
      | _ =>
          simp
    · simp [trusted]
  have failed :
      ServerThread.failed apiKey
        ⟨request, started, .recording elapsed response, []⟩ = false := by
    unfold ServerThread.failed ServerThread.hasFailed
    by_cases trusted : request.Trusted apiKey
    · cases routed : route request with
      | execute sent =>
          simp [limited trusted sent routed]
      | _ =>
          simp
    · simp [trusted]
  exact
    ⟨.next rfl rfl, .same rfl, .same rfl, .same (executes .get),
      .same (executes .put), .same (executes .delete), .same failed, rfl⟩

/-- Every turn counts what it does. -/
private theorem Turns.tallied
    {apiKey : Bytes} {server server' : Server shardCount replicaCount}
    {input : TurnInput} {request : HttpRequest} {started : Int}
    {stage stage' : Stage} {counting counting' : List Counter}
    (follows : stage.Follows shardCount replicaCount apiKey request)
    (mayCount : stage.MayCount counting)
    (turned :
      Turns server input request started stage counting stage' counting'
        server') :
    server.counters.Tallied apiKey server'.counters
      ⟨request, started, stage, counting⟩
      ⟨request, started, stage', counting'⟩ := by
  cases turned with
  | count _ counter rest _ =>
      obtain rfl := mayCount.tail_eq
      exact tallied_count server.counters mayCount
  | unauthorized _ _ =>
      exact
        ⟨.same rfl, .next rfl rfl, .same rfl, .same rfl, .same rfl,
          .same rfl, .same rfl, rfl⟩
  | respond response routed =>
      refine
        .reply (fun _ _ => rfl) ?_ rfl (fun _ _ => rfl) (fun _ => rfl) rfl
      have status := route_status_mem routed
      simp only [List.mem_cons, List.not_mem_nil, or_false] at status ⊢
      omega
  | execute sent _ =>
      exact tallied_execute server.counters sent
  | ask sent =>
      exact
        .nothing (fun _ _ => rfl) rfl (fun _ _ => rfl) (fun _ => rfl)
          (failed_askBreaker server.gateway input.now sent)
  | attempt sent attempt =>
      refine
        .nothing (fun _ _ => rfl) rfl (fun _ _ => rfl) (fun _ => rfl) ?_
      unfold Gateway.attempt
      simp only
      split <;> rfl
  | record sent attempt result =>
      exact
        .nothing (fun _ _ => rfl) rfl (fun _ _ => rfl) (fun _ => rfl)
          (failed_record server.gateway input.now sent attempt result)
  | executed sent response =>
      exact tallied_executed server.counters follows
  | threw sent error =>
      obtain ⟨_, _, never⟩ := follows
      exact never.elim
  | administered action =>
      refine
        .reply (fun _ _ => rfl) ?_ rfl (fun _ _ => rfl) (fun _ => rfl) rfl
      have status :=
        action.response_status_mem
          (action.call server.gateway.cluster).result
      simp only [List.mem_cons, List.not_mem_nil, or_false] at status ⊢
      omega
  | finish response =>
      exact tallied_finish server.counters follows
  | recorded elapsed response =>
      exact
        .nothing (fetchAdd_of_notMem server.counters _ (by decide)) rfl
          (fun _ _ => rfl) (fun _ => rfl) rfl
  | healthy _ =>
      exact
        .reply (fun _ _ => rfl) (by decide) rfl (fun _ _ => rfl)
          (fun _ => rfl) rfl
  | reported shards _ =>
      refine
        .reply (fun _ _ => rfl) ?_ rfl (fun _ _ => rfl) (fun _ => rfl) rfl
      simp [jsonResponse]
  | scraped loaded _ =>
      refine
        .reply (fun _ _ => rfl) ?_ rfl (fun _ _ => rfl) (fun _ => rfl) rfl
      simp [metricsResponse]
  | _ =>
      exact
        .nothing (fun _ _ => rfl) rfl (fun _ _ => rfl) (fun _ => rfl) rfl

/-- In every run the counters are the numbers of the threads they count, so the
page of metrics says what the clients were answered. -/
theorem Server.counters_count_threads
    {settings : Settings} {labels : List ServerLabel}
    {state : ServerState shardCount replicaCount}
    (positive : 0 < replicaCount) (run : ServerRun settings labels state) :
    state.server.counters.Counted settings.apiKey state.threads := by
  induction run with
  | initial started =>
      subst started
      exact ⟨rfl, rfl, rfl, rfl, rfl, rfl, rfl, rfl⟩
  | extend earlier step inductionHypothesis =>
      rcases step.cases with
        ⟨request, now, _, rfl⟩ |
          ⟨_, _, thread, _, _, _, found, turned, _, rfl⟩
      · exact
          ⟨inductionHypothesis.requests.concat rfl,
            inductionHypothesis.authFailures.concat rfl,
            inductionHypothesis.rateLimited.concat rfl,
            inductionHypothesis.gets.concat rfl,
            inductionHypothesis.puts.concat rfl,
            inductionHypothesis.deletes.concat rfl,
            inductionHypothesis.failures.concat rfl,
            inductionHypothesis.replicationFailures⟩
      · have follows := ServerRun.follows positive earlier found
        have mayCount := ServerRun.mayCount positive earlier found
        exact inductionHypothesis.set found (turned.tallied follows mayCount)

/-- A write, a request with another token, one above the limit that is not counted
yet, and a page of metrics whose latency is not added yet. -/
theorem Server.counters_count_four_threads :
    ∃ labels,
      ∃ state : ServerState 1 1,
        ServerRun ⟨bytes "s", 0, 1, 2⟩ labels state ∧
          state.threads.map ServerThread.status =
            [some 201, some 401, none, none] ∧
          state.server.counters .requests = 3 ∧
          state.server.counters .rateLimited = 0 ∧
          state.server.counters.Counted (bytes "s") state.threads := by
  obtain ⟨labels, state, run, answers⟩ :=
    ServerRun.of_schedule ⟨bytes "s", 0, 1, 2⟩
      ([.request (.bearing "s" "PUT" "/v1/kv/k" (bytes "v")) 0,
          .request (.bearing "t" "GET" "/v1/kv/k" []) 0,
          .request (.bearing "s" "GET" "/v1/kv/k" []) 0,
          .request (.bearing "s" "GET" "/metrics" []) 0] ++
        List.replicate 8 (.turn 0 {}) ++ List.replicate 3 (.turn 1 {}) ++
        List.replicate 2 (.turn 2 {}) ++ List.replicate 15 (.turn 3 {}))
      (fun _ (state : ServerState 1 1) =>
        decide
          (state.threads.map ServerThread.status =
              [some 201, some 401, none, none] ∧
            state.server.counters .requests = 3 ∧
            state.server.counters .rateLimited = 0))
      (by decide +kernel)
  obtain ⟨statuses, requests, rateLimited⟩ := of_decide_eq_true answers
  exact
    ⟨labels, state, run, statuses, requests, rateLimited,
      counters_count_threads (by decide) run⟩

end Turns

end ShardedKvStore

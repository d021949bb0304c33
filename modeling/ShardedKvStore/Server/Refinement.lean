import ShardedKvStore.Server.Additions

/-!
# The gateway behind the request handler

The threads that execute a request on the store are the threads of the gateway,
in the order in which they ask their breakers; the administrative calls of the
others are its administrative calls.  What a run of the server does to the gateway
is a run of the gateway, and what it does to the cluster is a run of the cluster.
-/

namespace ShardedKvStore

open Foundation

/-! ## Labels -/

/-- The thread of a turn that asks a breaker. -/
def ServerLabel.asks : ServerLabel → Option Nat
  | .turn taken =>
      match taken.thread.counting, taken.thread.stage with
      | [], .entering _ => some taken.index
      | _, _ => none
  | .request _ _ _ => none

/-- The threads that have asked a breaker, in that order. -/
def askers (labels : List ServerLabel) : List Nat :=
  labels.filterMap ServerLabel.asks

/-- What a step does to the cluster. -/
def ServerLabel.performed : ServerLabel → Option ClusterLabel
  | .turn taken => taken.performed
  | .request _ _ _ => none

/-- The run of the cluster inside a run of the server. -/
def performedLabels (labels : List ServerLabel) : List ClusterLabel :=
  .start :: labels.filterMap ServerLabel.performed

/-- The call of the rate limiter in a step. -/
def ServerLabel.limited : ServerLabel → Option LimitedRequest
  | .turn taken =>
      match taken.thread.counting, taken.thread.stage with
      | [], .authorized => some (taken.input.limited taken.thread.request)
      | _, _ => none
  | .request _ _ _ => none

/-- The calls of the rate limiter. -/
def limitedRequests (labels : List ServerLabel) : List LimitedRequest :=
  labels.filterMap ServerLabel.limited

theorem limitedRequests_concat
    (labels : List ServerLabel) (label : ServerLabel) :
    limitedRequests (labels ++ [label]) =
      limitedRequests labels ++ label.limited.toList :=
  filterMap_concat ServerLabel.limited labels label

theorem askers_concat (labels : List ServerLabel) (label : ServerLabel) :
    askers (labels ++ [label]) = askers labels ++ label.asks.toList :=
  filterMap_concat ServerLabel.asks labels label

theorem performedLabels_concat
    (labels : List ServerLabel) (label : ServerLabel) :
    performedLabels (labels ++ [label]) =
      performedLabels labels ++ label.performed.toList := by
  unfold performedLabels
  rw [filterMap_concat, List.cons_append]

/-! ## Threads -/

/-- The thread executes a request as the thread of the gateway does. -/
inductive Executes : Stage → RequestThread → Prop
  | executing (sent : KvRequest) (progress : Progress) :
      Executes (.executing sent progress) ⟨sent, progress⟩
  | recording (elapsed : Int) (sent : KvRequest) (response : HttpResponse) :
      Executes (.recording elapsed response) ⟨sent, .answered response⟩
  | answered (elapsed : Int) (sent : KvRequest) (response : HttpResponse) :
      Executes (.answered (finished elapsed response))
        ⟨sent, .answered response⟩
  | threw (sent : KvRequest) (error : KvError) :
      Executes (.answered (errorResponse error.what)) ⟨sent, .threw error⟩

/-- The threads of the gateway are the threads that have asked a breaker. -/
structure Embeds
    (asked : List Nat) (threads : List ServerThread)
    (executing : List RequestThread) : Prop where
  length_eq : executing.length = asked.length
  nodup : asked.Nodup
  executes :
    ∀ {position index : Nat},
      asked[position]? = some index →
      ∃ thread request,
        threads[index]? = some thread ∧
          executing[position]? = some request ∧
          Executes thread.stage request
  asked :
    ∀ {index : Nat} {thread : ServerThread} {sent : KvRequest}
      {progress : Progress},
      threads[index]? = some thread →
      thread.stage = .executing sent progress → index ∈ asked

namespace Embeds

variable {asked : List Nat} {threads : List ServerThread}
  {executing : List RequestThread} {index : Nat} {thread : ServerThread}

/-- A request arrives. -/
theorem receive
    (embeds : Embeds asked threads executing)
    (request : HttpRequest) (now : Int) :
    Embeds asked (threads ++ [⟨request, now, .received, []⟩]) executing where
  length_eq := embeds.length_eq
  nodup := embeds.nodup
  executes := fun isAsked => by
    obtain ⟨thread, sent, found, own, executes⟩ := embeds.executes isAsked
    exact
      ⟨thread, sent, getElem?_concat_iff.mpr (Or.inl found), own, executes⟩
  asked := fun found isExecuting => by
    rcases getElem?_concat_iff.mp found with old | ⟨_, rfl⟩
    · exact embeds.asked old isExecuting
    · cases isExecuting

/-- A thread that executes nothing has not asked a breaker. -/
theorem not_mem
    (embeds : Embeds asked threads executing)
    (found : threads[index]? = some thread)
    (nothing : ∀ request, ¬ Executes thread.stage request) :
    index ∉ asked := by
  intro member
  obtain ⟨position, isAsked⟩ := List.mem_iff_getElem?.mp member
  obtain ⟨other, request, found', _, executes⟩ := embeds.executes isAsked
  rw [found] at found'
  obtain rfl := Option.some.inj found'
  exact nothing request executes

/-- A thread takes a turn that is none of its request in the gateway. -/
theorem outside
    (embeds : Embeds asked threads executing)
    (found : threads[index]? = some thread) {after : ServerThread}
    (keeps :
      ∀ request, Executes thread.stage request →
        Executes after.stage request)
    (wasExecuting :
      ∀ sent progress, after.stage = .executing sent progress →
        thread.stage = .executing sent progress) :
    Embeds asked (threads.set index after) executing where
  length_eq := embeds.length_eq
  nodup := embeds.nodup
  executes := fun {position index'} isAsked => by
    obtain ⟨own, sent, found', request, executes⟩ :=
      embeds.executes isAsked
    by_cases same : index' = index
    · subst same
      rw [found] at found'
      obtain rfl := Option.some.inj found'
      exact
        ⟨after, sent, (getElem?_set_iff found).mpr (Or.inl ⟨rfl, rfl⟩),
          request, keeps sent executes⟩
    · exact
        ⟨own, sent, (getElem?_set_iff found).mpr (Or.inr ⟨same, found'⟩),
          request, executes⟩
  asked := fun isOther isExecuting => by
    rcases (getElem?_set_iff found).mp isOther with
      ⟨rfl, rfl⟩ | ⟨_, found'⟩
    · exact embeds.asked found (wasExecuting _ _ isExecuting)
    · exact embeds.asked found' isExecuting

/-- A thread asks its breaker. -/
theorem ask
    (embeds : Embeds asked threads executing)
    (found : threads[index]? = some thread) (notAsked : index ∉ asked)
    (sent : KvRequest) (progress : Progress) {after : ServerThread}
    (isAfter : after.stage = .executing sent progress) :
    Embeds (asked ++ [index]) (threads.set index after)
      (executing ++ [⟨sent, progress⟩]) where
  length_eq := by
    rw [List.length_append, List.length_append, embeds.length_eq]
    rfl
  nodup := by
    rw [← List.concat_eq_append]
    exact List.Nodup.concat notAsked embeds.nodup
  executes := fun isAsked => by
    rcases getElem?_concat_iff.mp isAsked with old | ⟨rfl, rfl⟩
    · obtain ⟨own, request, found', isRequest, executes⟩ :=
        embeds.executes old
      refine
        ⟨own, request, (getElem?_set_iff found).mpr (Or.inr ⟨?_, found'⟩),
          getElem?_concat_iff.mpr (Or.inl isRequest), executes⟩
      rintro rfl
      exact notAsked (List.mem_of_getElem? old)
    · exact
        ⟨_, _, (getElem?_set_iff found).mpr (Or.inl ⟨rfl, rfl⟩),
          getElem?_concat_iff.mpr (Or.inr ⟨embeds.length_eq.symm, rfl⟩),
          isAfter ▸ .executing sent progress⟩
  asked := fun isOther isExecuting => by
    rcases (getElem?_set_iff found).mp isOther with
      ⟨rfl, _⟩ | ⟨_, found'⟩
    · exact List.mem_concat_self
    · exact List.mem_append_left _ (embeds.asked found' isExecuting)

/-- The thread of the gateway that a thread executes its request in. -/
theorem position
    (embeds : Embeds asked threads executing)
    (found : threads[index]? = some thread) {sent : KvRequest}
    {progress : Progress}
    (isExecuting : thread.stage = .executing sent progress) :
    ∃ position : Nat,
      asked[position]? = some index ∧
        executing[position]? = some ⟨sent, progress⟩ := by
  obtain ⟨position, isAsked⟩ :=
    List.mem_iff_getElem?.mp (embeds.asked found isExecuting)
  obtain ⟨other, request, found', isRequest, executes⟩ :=
    embeds.executes isAsked
  rw [found] at found'
  obtain rfl := Option.some.inj found'
  rw [isExecuting] at executes
  cases executes
  exact ⟨position, isAsked, isRequest⟩

/-- A thread goes on with its request. -/
theorem advance
    (embeds : Embeds asked threads executing)
    (found : threads[index]? = some thread) {position : Nat}
    (isAsked : asked[position]? = some index)
    {progress : RequestThread}
    (isRequest : executing[position]? = some progress)
    {after : ServerThread} {request : RequestThread}
    (executes : Executes after.stage request) :
    Embeds asked (threads.set index after)
      (executing.set position request) where
  length_eq := by
    rw [List.length_set, embeds.length_eq]
  nodup := embeds.nodup
  executes := fun {position' _} isAsked' => by
    by_cases same : position' = position
    · subst same
      rw [isAsked] at isAsked'
      obtain rfl := Option.some.inj isAsked'
      exact
        ⟨_, _, (getElem?_set_iff found).mpr (Or.inl ⟨rfl, rfl⟩),
          (getElem?_set_iff isRequest).mpr (Or.inl ⟨rfl, rfl⟩), executes⟩
    · obtain ⟨own, sent, found', isRequest', others⟩ :=
        embeds.executes isAsked'
      refine
        ⟨own, sent, (getElem?_set_iff found).mpr (Or.inr ⟨?_, found'⟩),
          (getElem?_set_iff isRequest).mpr (Or.inr ⟨same, isRequest'⟩),
          others⟩
      rintro rfl
      -- no thread has asked twice
      obtain ⟨inside, _⟩ := List.getElem?_eq_some_iff.mp isAsked'
      exact
        same
          ((List.getElem?_inj inside embeds.nodup).mp
            (isAsked'.trans isAsked.symm))
  asked := fun isOther isExecuting => by
    rcases (getElem?_set_iff found).mp isOther with
      ⟨rfl, _⟩ | ⟨_, found'⟩
    · exact List.mem_of_getElem? isAsked
    · exact embeds.asked found' isExecuting

end Embeds

/-! ## Runs -/

section Runs

variable {shardCount replicaCount : Nat} [NeZero shardCount]

theorem AdminAction.operation_isAdmin (action : AdminAction) :
    action.operation.IsAdmin := by
  cases action <;> trivial

/-- The call of an action is the call of its operation. -/
theorem AdminAction.operation_apply
    (action : AdminAction) (cluster : Cluster shardCount replicaCount) :
    action.operation.call cluster =
      ⟨(action.call cluster).result.map .flag,
        (action.call cluster).state, (action.call cluster).journal⟩ := by
  cases action with
  | fail shardId replica =>
      exact returning_apply .flag _ cluster
  | recover shardId replica =>
      exact returning_apply .flag _ cluster
  | elect shardId =>
      exact returning_apply .flag _ cluster

/-- A run of the gateway that goes with a run of the server. -/
structure Behind
    (settings : Settings) (labels : List ServerLabel)
    (state : ServerState shardCount replicaCount)
    (gatewayLabels : List GatewayLabel)
    (executing : List RequestThread) : Prop where
  run :
    GatewayRun settings.maxRetries gatewayLabels
      ⟨state.server.gateway, executing⟩
  performed : clusterLabels gatewayLabels = performedLabels labels
  embeds : Embeds (askers labels) state.threads executing

/-- A turn that leaves the gateway alone. -/
private theorem Behind.outside
    {settings : Settings} {labels : List ServerLabel} {label : ServerLabel}
    {state : ServerState shardCount replicaCount}
    {gatewayLabels : List GatewayLabel} {executing : List RequestThread}
    (behind : Behind settings labels state gatewayLabels executing)
    (noAsker : label.asks = none) (nothing : label.performed = none)
    {next : ServerState shardCount replicaCount}
    (sameGateway : next.server.gateway = state.server.gateway)
    (embeds : Embeds (askers labels) next.threads executing) :
    Behind settings (labels ++ [label]) next gatewayLabels executing where
  run := by
    rw [sameGateway]
    exact behind.run
  performed := by
    rw [performedLabels_concat, nothing, Option.toList_none,
      List.append_nil]
    exact behind.performed
  embeds := by
    rw [askers_concat, noAsker, Option.toList_none, List.append_nil]
    exact embeds

/-- A turn is at most one step of the gateway. -/
private theorem Behind.turn
    {settings : Settings} {labels : List ServerLabel}
    {state : ServerState shardCount replicaCount}
    {gatewayLabels : List GatewayLabel} {executing : List RequestThread}
    (behind : Behind settings labels state gatewayLabels executing)
    {index : Nat} {input : TurnInput} {thread : ServerThread} {stage : Stage}
    {counting : List Counter} {server : Server shardCount replicaCount}
    (found : state.threads[index]? = some thread)
    (turned :
      Turns state.server input thread.request thread.started thread.stage
        thread.counting stage counting server) :
    ∃ gatewayLabels executing,
      Behind settings
        (labels ++
          [.turn
            { index := index
              input := input
              thread := thread
              next := stage
              performed :=
                state.server.performed thread.stage thread.counting }])
        ⟨server,
          state.threads.set index
            { thread with stage := stage, counting := counting }⟩
        gatewayLabels executing := by
  obtain ⟨request, started, stage', counting'⟩ := thread
  cases turned with
  | count _ counter =>
      exact
        ⟨_, _,
          behind.outside rfl rfl rfl
            (behind.embeds.outside found (fun _ executes => executes)
              (fun _ _ same => same))⟩
  | ask sent =>
      refine ⟨_, _, behind.run.extend (.request _ sent input.now), ?_, ?_⟩
      · rw [clusterLabels_concat, performedLabels_concat, behind.performed]
        rfl
      · rw [askers_concat]
        have notAsked :=
          behind.embeds.not_mem found (by rintro _ ⟨⟩)
        exact behind.embeds.ask found notAsked sent _ rfl
  | attempt sent attempt =>
      obtain ⟨position, isAsked, isRequest⟩ :=
        behind.embeds.position found rfl
      refine
        ⟨_, _, behind.run.extend (.attempt position sent attempt isRequest),
          ?_, ?_⟩
      · rw [clusterLabels_concat, performedLabels_concat, behind.performed]
        simp only [GatewayLabel.clusterLabel, ServerLabel.performed,
          Server.performed, sent.clusterOperation_apply]
      · rw [askers_concat]
        simp only [ServerLabel.asks, Option.toList_none, List.append_nil]
        exact
          behind.embeds.advance found isAsked isRequest (.executing sent _)
  | record sent attempt result =>
      obtain ⟨position, isAsked, isRequest⟩ :=
        behind.embeds.position found rfl
      refine
        ⟨_, _,
          behind.run.extend
            (.record position input.now sent attempt result isRequest),
          ?_, ?_⟩
      · rw [clusterLabels_concat, performedLabels_concat, behind.performed]
        rfl
      · rw [askers_concat]
        simp only [ServerLabel.asks, Option.toList_none, List.append_nil]
        exact
          behind.embeds.advance found isAsked isRequest (.executing sent _)
  | administered action =>
      have step :=
        GatewayStep.admin ⟨state.server.gateway, executing⟩
          action.operation action.operation_isAdmin
      unfold GatewayState.administer at step
      rw [action.operation_apply] at step
      refine ⟨_, _, behind.run.extend step, ?_, ?_⟩
      · rw [clusterLabels_concat, performedLabels_concat, behind.performed]
        simp only [GatewayLabel.clusterLabel, ServerLabel.performed,
          Server.performed, action.operation_apply]
      · rw [askers_concat]
        simp only [ServerLabel.asks, Option.toList_none, List.append_nil]
        exact
          behind.embeds.outside found (by rintro _ ⟨⟩) (by rintro _ _ ⟨⟩)
  | executed sent response =>
      refine
        ⟨_, _,
          behind.outside rfl rfl rfl
            (behind.embeds.outside found ?_ (by rintro _ _ ⟨⟩))⟩
      rintro _ ⟨⟩
      exact .recording _ sent response
  | threw sent error =>
      refine
        ⟨_, _,
          behind.outside rfl rfl rfl
            (behind.embeds.outside found ?_ (by rintro _ _ ⟨⟩))⟩
      rintro _ ⟨⟩
      exact .threw sent error
  | recorded elapsed response =>
      refine
        ⟨_, _,
          behind.outside rfl rfl rfl
            (behind.embeds.outside found ?_ (by rintro _ _ ⟨⟩))⟩
      rintro _ ⟨⟩
      exact .answered elapsed _ response
  | _ =>
      exact
        ⟨_, _,
          behind.outside rfl rfl rfl
            (behind.embeds.outside found (by rintro _ ⟨⟩)
              (by rintro _ _ ⟨⟩))⟩

/-- Every run of the server is a run of the gateway. -/
theorem ServerRun.behind
    {settings : Settings} {labels : List ServerLabel}
    {state : ServerState shardCount replicaCount}
    (run : ServerRun settings labels state) :
    ∃ gatewayLabels executing,
      Behind settings labels state gatewayLabels executing := by
  induction run with
  | initial started =>
      subst started
      refine ⟨[], [], .initial rfl, rfl, rfl, List.nodup_nil, ?_, ?_⟩
      · rintro position index isAsked
        cases isAsked
      · rintro index thread sent progress found
        cases found
  | extend _ step inductionHypothesis =>
      obtain ⟨gatewayLabels, executing, behind⟩ := inductionHypothesis
      rcases step.cases with
        ⟨request, now, rfl, rfl⟩ |
          ⟨index, input, thread, stage, counting, server, found, turned, rfl,
            rfl⟩
      · exact
          ⟨gatewayLabels, executing,
            behind.outside rfl rfl rfl (behind.embeds.receive request now)⟩
      · exact behind.turn found turned

/-- What a run of the server does to the cluster is a run of the cluster. -/
theorem ServerRun.clusterRun
    {settings : Settings} {labels : List ServerLabel}
    {state : ServerState shardCount replicaCount}
    (positive : 0 < replicaCount) (run : ServerRun settings labels state) :
    ClusterRun (performedLabels labels)
      (.running state.server.gateway.cluster) := by
  obtain ⟨gatewayLabels, executing, behind⟩ := ServerRun.behind run
  rw [← behind.performed]
  exact GatewayRun.clusterRun positive behind.run

/-- A turn is at most one call of the rate limiter. -/
private theorem Turns.limiter_eq
    {server server' : Server shardCount replicaCount} {input : TurnInput}
    {thread : ServerThread} {stage : Stage} {counting : List Counter}
    (index : Nat)
    (turned :
      Turns server input thread.request thread.started thread.stage
        thread.counting stage counting server') :
    server'.limiter =
      server.limiter.after
        (ServerLabel.turn
          { index := index
            input := input
            thread := thread
            next := stage
            performed :=
              server.performed thread.stage
                thread.counting }).limited.toList := by
  obtain ⟨request, started, before, counting'⟩ := thread
  cases turned <;> rfl

/-- The rate limiter has seen the requests that got past the bearer token. -/
theorem ServerRun.limiter_eq
    {settings : Settings} {labels : List ServerLabel}
    {state : ServerState shardCount replicaCount}
    (run : ServerRun settings labels state) :
    state.server.limiter =
      RateLimiter.after
        { ratePerSecond := settings.ratePerSecond, burst := settings.burst }
        (limitedRequests labels) := by
  induction run with
  | initial started =>
      rw [started]
      rfl
  | extend _ step inductionHypothesis =>
      rw [limitedRequests_concat]
      unfold RateLimiter.after
      rw [List.foldl_append]
      rcases step.cases with
        ⟨_, _, rfl, rfl⟩ | ⟨index, _, _, _, _, _, _, turned, rfl, rfl⟩
      · exact inductionHypothesis
      · refine (turned.limiter_eq index).trans ?_
        rw [inductionHypothesis]
        rfl

/-- The request handler is its parts, interleaved: what a run does to the breakers
and the counters of the gateway is a run of the gateway, what it does to the cluster
is a run of the cluster, the rate limiter is called once for each request that gets
past the bearer token, and what the gateway has counted is in the shared counters or
is about to be added. -/
theorem Server.refines_gateway
    {settings : Settings} {labels : List ServerLabel}
    {state : ServerState shardCount replicaCount}
    (positive : 0 < replicaCount) (run : ServerRun settings labels state) :
    (∃ gatewayLabels executing,
      GatewayRun settings.maxRetries gatewayLabels
          ⟨state.server.gateway, executing⟩ ∧
        clusterLabels gatewayLabels = performedLabels labels ∧
        Embeds (askers labels) state.threads executing) ∧
      ClusterRun (performedLabels labels)
        (.running state.server.gateway.cluster) ∧
      state.server.limiter =
        RateLimiter.after
          { ratePerSecond := settings.ratePerSecond
            burst := settings.burst }
          (limitedRequests labels) ∧
      ∀ counter ∈ Counter.ofGateway,
        state.server.gateway.metrics.value counter =
          state.server.counters counter +
            UInt64.ofNat (pendingIn counter state.threads) := by
  obtain ⟨gatewayLabels, executing, behind⟩ := ServerRun.behind run
  exact
    ⟨⟨gatewayLabels, executing, behind.run, behind.performed,
        behind.embeds⟩,
      run.clusterRun positive, run.limiter_eq,
      fun _ member => run.value_eq member⟩

/-- A write and an election behind the request handler. -/
theorem Server.refines_two_calls :
    ∃ labels,
      ∃ state : ServerState 1 1,
        ServerRun ⟨bytes "s", 20, 40, 2⟩ labels state ∧
          state.threads.map ServerThread.status = [some 201, some 200] ∧
          (∃ gatewayLabels executing,
            GatewayRun 2 gatewayLabels ⟨state.server.gateway, executing⟩ ∧
              clusterLabels gatewayLabels = performedLabels labels ∧
              Embeds (askers labels) state.threads executing) ∧
          ClusterRun (performedLabels labels)
            (.running state.server.gateway.cluster) ∧
          state.server.limiter =
            RateLimiter.after { ratePerSecond := 20, burst := 40 }
              (limitedRequests labels) ∧
          ∀ counter ∈ Counter.ofGateway,
            state.server.gateway.metrics.value counter =
              state.server.counters counter +
                UInt64.ofNat (pendingIn counter state.threads) := by
  obtain ⟨labels, state, run, answers⟩ :=
    ServerRun.of_schedule ⟨bytes "s", 20, 40, 2⟩
      ([.request (.bearing "s" "PUT" "/v1/kv/k" (bytes "v")) 0,
          .request (.bearing "s" "POST" "/admin/elect/0" []) 0] ++
        List.replicate 4 (.turn 0 {}) ++ List.replicate 6 (.turn 1 {}) ++
        List.replicate 4 (.turn 0 {}))
      (fun _ (state : ServerState 1 1) =>
        decide
          (state.threads.map ServerThread.status = [some 201, some 200]))
      (by decide +kernel)
  exact
    ⟨labels, state, run, of_decide_eq_true answers,
      refines_gateway (by decide) run⟩

end Runs

end ShardedKvStore

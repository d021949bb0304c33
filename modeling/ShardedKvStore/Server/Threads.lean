import ShardedKvStore.Gateway.Writes
import ShardedKvStore.Server.Refinement

/-!
# Threads of the request handler

Where a thread is in `handle`, and what it answers, follows from its request and
from what the shared parts have returned to it.
-/

namespace ShardedKvStore

open Foundation

section Threads

variable {shardCount replicaCount : Nat} [NeZero shardCount]

/-! ## Settings -/

/-- The settings do not change. -/
theorem Turns.apiKey_eq
    {server server' : Server shardCount replicaCount} {input : TurnInput}
    {request : HttpRequest} {started : Int} {stage stage' : Stage}
    {counting counting' : List Counter}
    (turned :
      Turns server input request started stage counting stage' counting'
        server') :
    server'.apiKey = server.apiKey := by
  cases turned <;> rfl

theorem ServerRun.apiKey_eq
    {settings : Settings} {labels : List ServerLabel}
    {state : ServerState shardCount replicaCount}
    (run : ServerRun settings labels state) :
    state.server.apiKey = settings.apiKey := by
  induction run with
  | initial started =>
      rw [started]
      rfl
  | extend _ step inductionHypothesis =>
      rcases step.cases with
        ⟨_, _, _, rfl⟩ | ⟨_, _, _, _, _, _, _, turned, _, rfl⟩
      · exact inductionHypothesis
      · exact turned.apiKey_eq.trans inductionHypothesis

/-- The requests of the threads stay. -/
theorem ServerStep.forall_requests
    {state next : ServerState shardCount replicaCount} {label : ServerLabel}
    (step : ServerStep state label next) {Holds : HttpRequest → Prop}
    (holds : ∀ thread ∈ next.threads, Holds thread.request) :
    ∀ thread ∈ state.threads, Holds thread.request := by
  intro thread member
  rcases step.cases with
    ⟨request, now, _, rfl⟩ |
      ⟨index, _, own, stage, counting, _, found, _, _, rfl⟩
  · exact holds thread (List.mem_append_left _ member)
  · obtain ⟨position, isThread⟩ := List.mem_iff_getElem?.mp member
    by_cases same : position = index
    · rw [same, found] at isThread
      obtain rfl := Option.some.inj isThread
      have isNext :
          (state.threads.set index
              { own with stage := stage, counting := counting })[index]? =
            some { own with stage := stage, counting := counting } :=
        (getElem?_set_iff found).mpr (Or.inl ⟨rfl, rfl⟩)
      have holdsNext := holds _ (List.mem_of_getElem? isNext)
      exact holdsNext
    · exact
        holds thread
          (List.mem_of_getElem?
            ((getElem?_set_iff found).mpr (Or.inr ⟨same, isThread⟩)))

/-! ## Turns of a thread -/

/-- The turn of a thread. -/
def ServerLabel.turnOf (index : Nat) : ServerLabel → Option Turn
  | .turn taken => if taken.index = index then some taken else none
  | .request _ _ _ => none

/-- The turns of a thread. -/
def turnsOf (index : Nat) (labels : List ServerLabel) : List Turn :=
  labels.filterMap (ServerLabel.turnOf index)

theorem turnsOf_concat_request
    (index position : Nat) (labels : List ServerLabel)
    (request : HttpRequest) (now : Int) :
    turnsOf index (labels ++ [.request position request now]) =
      turnsOf index labels := by
  unfold turnsOf
  rw [filterMap_concat, ServerLabel.turnOf, Option.toList_none,
    List.append_nil]

theorem turnsOf_concat_own
    {index : Nat} (labels : List ServerLabel) {taken : Turn}
    (isOwn : taken.index = index) :
    turnsOf index (labels ++ [.turn taken]) =
      turnsOf index labels ++ [taken] := by
  unfold turnsOf
  rw [filterMap_concat, ServerLabel.turnOf, if_pos isOwn,
    Option.toList_some]

theorem turnsOf_concat_other
    {index : Nat} (labels : List ServerLabel) {taken : Turn}
    (different : taken.index ≠ index) :
    turnsOf index (labels ++ [.turn taken]) = turnsOf index labels := by
  unfold turnsOf
  rw [filterMap_concat, ServerLabel.turnOf, if_neg different,
    Option.toList_none, List.append_nil]

/-- A position that is not taken yet has no turns. -/
theorem ServerRun.turnsOf_eq_nil
    {settings : Settings} {labels : List ServerLabel}
    {state : ServerState shardCount replicaCount}
    (run : ServerRun settings labels state) {index : Nat}
    (outside : state.threads.length ≤ index) :
    turnsOf index labels = [] := by
  induction run with
  | initial _ =>
      rfl
  | extend _ step inductionHypothesis =>
      rcases step.cases with
        ⟨request, now, rfl, rfl⟩ | ⟨own, _, _, _, _, _, found, _, rfl, rfl⟩
      · rw [turnsOf_concat_request]
        apply inductionHypothesis
        unfold ServerState.receive at outside
        rw [List.length_append] at outside
        omega
      · rw [List.length_set] at outside
        obtain ⟨inside, _⟩ := List.getElem?_eq_some_iff.mp found
        have different : own ≠ index := by omega
        rw [turnsOf_concat_other _ different]
        exact inductionHypothesis outside

/-- What holds of a thread at its start and is kept by its turns, holds of the
threads of every run. -/
theorem ServerRun.forall_threads
    {settings : Settings}
    (Holds :
      HttpRequest → List Turn → Stage → List Counter → Prop)
    (received : ∀ request, Holds request [] .received [])
    (kept :
      ∀ {labels : List ServerLabel}
        {state : ServerState shardCount replicaCount} {index : Nat}
        {input : TurnInput} {thread : ServerThread} {stage : Stage}
        {counting : List Counter} {server : Server shardCount replicaCount}
        {turns : List Turn},
        ServerRun settings labels state →
        state.threads[index]? = some thread →
        Holds thread.request turns thread.stage thread.counting →
        Turns state.server input thread.request thread.started thread.stage
          thread.counting stage counting server →
        Holds thread.request
          (turns ++
            [{ index := index
               input := input
               thread := thread
               next := stage
               performed :=
                 state.server.performed thread.stage thread.counting }])
          stage counting)
    {labels : List ServerLabel}
    {state : ServerState shardCount replicaCount}
    (run : ServerRun settings labels state) {index : Nat}
    {thread : ServerThread} (found : state.threads[index]? = some thread) :
    Holds thread.request (turnsOf index labels) thread.stage
      thread.counting := by
  induction run generalizing index thread with
  | initial started =>
      subst started
      cases found
  | extend earlier step inductionHypothesis =>
      rcases step.cases with
        ⟨request, now, rfl, rfl⟩ |
          ⟨own, input, turning, stage, counting, server, isTurning, turned,
            rfl, rfl⟩
      · rw [turnsOf_concat_request]
        rcases getElem?_concat_iff.mp found with old | ⟨rfl, rfl⟩
        · exact inductionHypothesis old
        · rw [ServerRun.turnsOf_eq_nil earlier le_rfl]
          exact received request
      · rcases (getElem?_set_iff isTurning).mp found with
          ⟨rfl, rfl⟩ | ⟨different, old⟩
        · have holds :=
            kept earlier isTurning (inductionHypothesis isTurning) turned
          rw [turnsOf_concat_own]
          · exact holds
          · rfl
        · rw [turnsOf_concat_other _ (Ne.symm different)]
          exact inductionHypothesis old

/-! ## Results -/

/-- The results of the calls of a request. -/
inductive KvRequest.Returns (sent : KvRequest) : OperationResult → Prop
  | stored {result : OperationResult} :
      sent.operation = .put → result.ok = true → result.status = 201 →
      sent.Returns result
  | erased {result : OperationResult} :
      sent.operation = .delete → result.ok = true → result.status = 200 →
      sent.Returns result
  | found {result : OperationResult} :
      sent.operation = .get → result.ok = true → result.status = 200 →
      sent.Returns result
  | missing {result : OperationResult} :
      sent.operation = .get → result.ok = false → result.status = 404 →
      sent.Returns result
  | unavailable {result : OperationResult} :
      result.ok = false → result.status = 503 → sent.Returns result

private theorem returns_of_answer
    {count : Nat} {shard : Shard count} {command key value : Bytes}
    {agreed agreed' : List LogEntry} {result : OperationResult}
    {sent : KvRequest}
    (answer :
      Shard.WriteAnswer command key value shard agreed result agreed')
    (kind :
      command = putCommand ∧ sent.operation = .put ∨
        command = deleteCommand ∧ sent.operation = .delete) :
    sent.Returns result := by
  cases answer with
  | stored _ _ _ isOk status =>
      rcases kind with ⟨rfl, isPut⟩ | ⟨rfl, isDelete⟩
      · exact .stored isPut isOk status
      · exact .erased isDelete isOk status
  | rejected _ failed status =>
      exact .unavailable failed status

/-- The operation of a shard that a request stands for. -/
def KvRequest.shardOperation (sent : KvRequest) : Operation :=
  match sent.operation with
  | .get => .get sent.key
  | .put => .put sent.key sent.value
  | .delete => .erase sent.key

/-- The operations of a run return. -/
theorem ClusterRun.returns
    {labels : List ClusterLabel}
    {cluster : Cluster shardCount replicaCount}
    (positive : 0 < replicaCount)
    (run : ClusterRun labels (.running cluster))
    (operation : ClusterOperation) {shard : Fin shardCount}
    {shardOperation : Operation}
    (routed : operation.target = some (shard, shardOperation)) :
    ∃ agreed agreed' response,
      (operation.call cluster).result = .ok response ∧
        Shard.Answers (cluster.shards shard) agreed shardOperation response
          agreed' := by
  obtain ⟨_, _, view⟩ := run.shardView positive shard
  obtain ⟨agreed, _, agrees⟩ := Shard.ShardRun.agrees positive view.run
  obtain ⟨response, _, agreed', _, _, _, runs, _, answers⟩ :=
    agrees.1.call_spec agrees.2.1 shardOperation
  have calls := operation.call_apply cluster
  rw [routed] at calls
  refine ⟨agreed, agreed', response, ?_, answers⟩
  rw [calls]
  change (shardOperation.call (cluster.shards shard)).result = _
  rw [runs]

private theorem returns_of_get
    {count : Nat} {shard : Shard count} {key : Bytes}
    {result : OperationResult} {sent : KvRequest}
    (answer : Shard.GetAnswer key shard result)
    (isGet : sent.operation = .get) :
    sent.Returns result := by
  cases answer with
  | unavailable _ failed status =>
      exact .unavailable failed status
  | missing _ _ _ failed status =>
      exact .missing isGet failed status
  | found _ _ _ isOk status _ =>
      exact .found isGet isOk status

/-- The call of a request is answered by the shard of its key. -/
theorem KvRequest.call_answers
    {labels : List ClusterLabel}
    {cluster : Cluster shardCount replicaCount}
    (positive : 0 < replicaCount)
    (run : ClusterRun labels (.running cluster)) (sent : KvRequest) :
    ∃ agreed agreed' result,
      (sent.call cluster).result = .ok result ∧
        Shard.Answers (cluster.shards (Cluster.shardForKey sent.key)) agreed
          sent.shardOperation (.result result) agreed' := by
  have routed :
      sent.clusterOperation.target =
        some
          ((Cluster.shardForKey sent.key : Fin shardCount),
            sent.shardOperation) := by
    unfold KvRequest.clusterOperation KvRequest.shardOperation
    cases sent.operation with
    | _ => rfl
  obtain ⟨agreed, agreed', response, returned, answers⟩ :=
    run.returns positive sent.clusterOperation routed
  rw [sent.clusterOperation_apply] at returned
  cases answer : (sent.call cluster).result with
  | error failure =>
      rw [answer] at returned
      cases returned
  | ok result =>
      rw [answer] at returned
      cases returned
      exact ⟨agreed, agreed', result, rfl, answers⟩

/-- The calls of a request return, in every run of the cluster. -/
theorem KvRequest.call_returns
    {labels : List ClusterLabel}
    {cluster : Cluster shardCount replicaCount}
    (positive : 0 < replicaCount)
    (run : ClusterRun labels (.running cluster)) (sent : KvRequest) :
    ∃ result,
      (sent.call cluster).result = .ok result ∧ sent.Returns result := by
  obtain ⟨agreed, agreed', result, returned, answers⟩ :=
    sent.call_answers positive run
  refine ⟨result, returned, ?_⟩
  obtain ⟨operation, key, value⟩ := sent
  cases operation with
  | get =>
      cases answers with
      | get answer =>
          exact returns_of_get answer rfl
  | put =>
      cases answers with
      | put answer =>
          exact returns_of_answer answer (Or.inl ⟨rfl, rfl⟩)
  | delete =>
      cases answers with
      | erase answer =>
          exact returns_of_answer answer (Or.inr ⟨rfl, rfl⟩)

/-- The administrative calls return, in every run of the cluster. -/
theorem AdminAction.call_returns
    {labels : List ClusterLabel}
    {cluster : Cluster shardCount replicaCount}
    (positive : 0 < replicaCount)
    (run : ClusterRun labels (.running cluster)) (action : AdminAction) :
    ∃ flag, (action.call cluster).result = .ok flag := by
  have returned :
      ∃ response, (action.operation.call cluster).result = .ok response := by
    cases routed :
        (action.operation.target :
          Option (Fin shardCount × Operation)) with
    | none =>
        have calls := action.operation.call_apply cluster
        rw [routed] at calls
        exact ⟨_, congrArg Outcome.result calls⟩
    | some target =>
        obtain ⟨_, _, response, isOk, _⟩ :=
          run.returns positive action.operation routed
        exact ⟨response, isOk⟩
  obtain ⟨response, isOk⟩ := returned
  rw [action.operation_apply] at isOk
  cases answer : (action.call cluster).result with
  | error failure =>
      rw [answer] at isOk
      cases isOk
  | ok flag =>
      exact ⟨flag, rfl⟩

/-! ## Replies -/

/-- The documents are from the first shards, in the states they were in. -/
def Reports (shardCount replicaCount : Nat) [NeZero shardCount]
    (shards : List Bytes) : Prop :=
  ∀ (index : Fin shardCount) (document : Bytes),
    shards[index.val]? = some document →
    ∃ labels,
      ∃ cluster : Cluster shardCount replicaCount,
        ClusterRun labels (.running cluster) ∧
          document = (cluster.shards index).statusJson

/-- The responses of `execute_with_resilience`. -/
inductive KvRequest.Answers
    (shardCount : Nat) [NeZero shardCount] (sent : KvRequest) :
    HttpResponse → Prop
  | circuitOpen :
      sent.Answers shardCount
        (circuitOpenResponse
          (Cluster.shardForKey sent.key : Fin shardCount))
  | called (result : OperationResult) :
      sent.Returns result →
      sent.Answers shardCount (sent.response result)

/-- The other responses of `handle`, before `finish`. -/
inductive Replies
    (shardCount replicaCount : Nat) [NeZero shardCount] (apiKey : Bytes)
    (request : HttpRequest) : HttpResponse → Prop
  | health :
      request.path = bytes "/healthz" →
      Replies shardCount replicaCount apiKey request healthResponse
  | metrics (value : Counters) :
      request.path = bytes "/metrics" →
      Replies shardCount replicaCount apiKey request (metricsResponse value)
  | unauthorized :
      request.Closed → authorized apiKey request = false →
      Replies shardCount replicaCount apiKey request unauthorizedResponse
  | rateLimited :
      request.Trusted apiKey →
      Replies shardCount replicaCount apiKey request rateLimitedResponse
  | routed (response : HttpResponse) :
      request.Trusted apiKey → route request = .respond response →
      Replies shardCount replicaCount apiKey request response
  | administered (action : AdminAction) (flag : Bool) :
      request.Trusted apiKey → route request = .administer action →
      Replies shardCount replicaCount apiKey request
        (action.response (.ok flag))
  | status (shards : List Bytes) :
      request.Trusted apiKey → route request = .status →
      shards.length = shardCount → Reports shardCount replicaCount shards →
      Replies shardCount replicaCount apiKey request
        (jsonResponse 200 (clusterStatusJson shardCount shards))

/-- The responses of `handle`, before `finish`. -/
inductive Handles
    (shardCount replicaCount : Nat) [NeZero shardCount] (apiKey : Bytes)
    (request : HttpRequest) : HttpResponse → Prop
  | replied (response : HttpResponse) :
      Replies shardCount replicaCount apiKey request response →
      Handles shardCount replicaCount apiKey request response
  | executed (sent : KvRequest) (response : HttpResponse) :
      request.Trusted apiKey → route request = .execute sent →
      sent.Answers shardCount response →
      Handles shardCount replicaCount apiKey request response

/-- The progress is one the request leads to. -/
def Progress.Follows
    (shardCount : Nat) [NeZero shardCount] (sent : KvRequest) :
    Progress → Prop
  | .attempting _ => True
  | .called _ result => sent.Returns result
  | .answered response => sent.Answers shardCount response
  | .threw _ => False

/-- The stage is one the request leads to. -/
def Stage.Follows
    (shardCount replicaCount : Nat) [NeZero shardCount] (apiKey : Bytes)
    (request : HttpRequest) : Stage → Prop
  | .received => True
  | .authorized => request.Trusted apiKey
  | .admitted => request.Trusted apiKey
  | .entering sent =>
      request.Trusted apiKey ∧ route request = .execute sent
  | .executing sent progress =>
      request.Trusted apiKey ∧ route request = .execute sent ∧
        progress.Follows shardCount sent
  | .administering action =>
      request.Trusted apiKey ∧ route request = .administer action
  | .reporting shards =>
      request.Trusted apiKey ∧ route request = .status ∧
        shards.length ≤ shardCount ∧ Reports shardCount replicaCount shards
  | .scraping _ => request.path = bytes "/metrics"
  | .finishing response =>
      Replies shardCount replicaCount apiKey request response
  | .recording _ response =>
      Handles shardCount replicaCount apiKey request response
  | .answered response =>
      ∃ elapsed reply,
        Handles shardCount replicaCount apiKey request reply ∧
          response = finished elapsed reply

/-- What the breaker of a request makes of it. -/
private theorem follows_askBreaker
    (gateway : Gateway shardCount replicaCount) (now : Int)
    (sent : KvRequest) :
    (gateway.askBreaker now sent).1.Follows shardCount sent := by
  unfold Gateway.askBreaker
  simp only
  split
  · trivial
  · exact .circuitOpen

private theorem Reports.concat
    {shards : List Bytes} {labels : List ClusterLabel}
    {cluster : Cluster shardCount replicaCount}
    (reports : Reports shardCount replicaCount shards)
    (run : ClusterRun labels (.running cluster))
    (inRange : shards.length < shardCount) :
    Reports shardCount replicaCount
      (shards ++ [(cluster.shards ⟨shards.length, inRange⟩).statusJson]) := by
  intro index document isDocument
  by_cases inside : index.val < shards.length
  · rw [List.getElem?_append_left inside] at isDocument
    exact reports index document isDocument
  · rw [List.getElem?_append_right (not_lt.mp inside)] at isDocument
    obtain ⟨isLast, same⟩ := List.getElem?_eq_some_iff.mp isDocument
    have last : index = ⟨shards.length, inRange⟩ := by
      simp only [List.length_singleton] at isLast
      exact Fin.ext (by simp only; omega)
    subst last
    exact ⟨labels, cluster, run, by simpa using same.symm⟩

/-- A turn leads where the request leads. -/
theorem Turns.follows
    {settings : Settings} {labels : List ServerLabel}
    {state : ServerState shardCount replicaCount} {input : TurnInput}
    {request : HttpRequest} {started : Int} {stage stage' : Stage}
    {counting counting' : List Counter}
    {server : Server shardCount replicaCount}
    (positive : 0 < replicaCount) (run : ServerRun settings labels state)
    (follows :
      stage.Follows shardCount replicaCount settings.apiKey request)
    (turned :
      Turns state.server input request started stage counting stage'
        counting' server) :
    stage'.Follows shardCount replicaCount settings.apiKey request := by
  have clusterRun := run.clusterRun positive
  have sameKey := run.apiKey_eq
  cases turned with
  | count _ _ _ _ =>
      exact follows
  | healthy isPath =>
      exact .health isPath
  | scrape isPath =>
      exact isPath
  | unauthorized closed unauthorized =>
      rw [sameKey] at unauthorized
      exact .unauthorized closed unauthorized
  | authorized trusted =>
      rw [sameKey] at trusted
      exact trusted
  | admitted _ =>
      exact follows
  | limited _ =>
      exact .rateLimited follows
  | respond response routed =>
      exact .routed response follows routed
  | execute sent routed =>
      exact ⟨follows, routed⟩
  | administer action routed =>
      exact ⟨follows, routed⟩
  | status routed =>
      exact ⟨follows, routed, Nat.zero_le _, nofun⟩
  | ask sent =>
      obtain ⟨trusted, routed⟩ := follows
      exact ⟨trusted, routed, follows_askBreaker _ _ sent⟩
  | attempt sent attempt =>
      obtain ⟨trusted, routed, _⟩ := follows
      obtain ⟨result, returned, returns⟩ :=
        sent.call_returns positive clusterRun
      refine ⟨trusted, routed, ?_⟩
      unfold Gateway.attempt
      simp only [returned]
      exact returns
  | record sent attempt result =>
      obtain ⟨trusted, routed, returns⟩ := follows
      refine ⟨trusted, routed, ?_⟩
      rcases state.server.gateway.record_progress input.now sent attempt
          result with
        answered | ⟨_, next, again⟩
      · rw [answered]
        exact KvRequest.Answers.called result returns
      · rw [again]
        trivial
  | executed sent response =>
      obtain ⟨trusted, routed, answers⟩ := follows
      exact .executed sent response trusted routed answers
  | threw sent error =>
      obtain ⟨_, _, never⟩ := follows
      exact never.elim
  | administered action =>
      obtain ⟨trusted, routed⟩ := follows
      obtain ⟨flag, returned⟩ := action.call_returns positive clusterRun
      rw [returned]
      exact .administered action flag trusted routed
  | report shards inRange =>
      obtain ⟨trusted, routed, _, reports⟩ := follows
      refine ⟨trusted, routed, ?_, reports.concat clusterRun inRange⟩
      rw [List.length_append]
      exact inRange
  | reported shards complete =>
      obtain ⟨trusted, routed, inRange, reports⟩ := follows
      exact
        .status shards trusted routed (le_antisymm inRange complete) reports
  | load loaded counter next =>
      exact follows
  | scraped loaded complete =>
      exact .metrics _ follows
  | finish response =>
      exact .replied response follows
  | recorded elapsed response =>
      exact ⟨elapsed, response, follows, rfl⟩

/-! ## Statuses -/

/-- The only reply to an operation on the store is that there are too many. -/
theorem Replies.eq_rateLimited
    {apiKey : Bytes} {request : HttpRequest} {response : HttpResponse}
    (replies : Replies shardCount replicaCount apiKey request response)
    (trusted : request.Trusted apiKey) {sent : KvRequest}
    (routed : route request = .execute sent) :
    response = rateLimitedResponse := by
  cases replies with
  | health isPath =>
      exact absurd isPath trusted.1.1
  | metrics value isPath =>
      exact absurd isPath trusted.1.2
  | unauthorized _ unauthorized =>
      rw [trusted.2] at unauthorized
      cases unauthorized
  | rateLimited =>
      rfl
  | routed response _ other =>
      rw [routed] at other
      cases other
  | administered action flag _ other =>
      rw [routed] at other
      cases other
  | status shards _ other =>
      rw [routed] at other
      cases other

theorem KvRequest.Returns.status_mem
    {sent : KvRequest} {result : OperationResult}
    (returns : sent.Returns result) :
    result.status ∈ [200, 201, 404, 503] := by
  cases returns with
  | stored _ _ status =>
      simp [status]
  | erased _ _ status =>
      simp [status]
  | found _ _ status =>
      simp [status]
  | missing _ _ status =>
      simp [status]
  | unavailable _ status =>
      simp [status]

theorem KvRequest.Answers.status_mem
    {sent : KvRequest} {response : HttpResponse}
    (answers : sent.Answers shardCount response) :
    response.status ∈ [200, 201, 404, 503] := by
  cases answers with
  | circuitOpen =>
      simp [circuitOpenResponse, jsonResponse]
  | called result returns =>
      exact returns.status_mem

/-- The errors of the routes. -/
def routeErrors : List (Nat × String) :=
  [(400, "key must be 1-512 characters"), (413, "value exceeds 1 MiB"),
    (405, "method not allowed"), (400, "invalid shard id"),
    (404, "route not found")]

/-- Where requests are routed. -/
inductive Routes (request : HttpRequest) : Route → Prop
  | refuse (error : Nat × String) :
      error ∈ routeErrors →
      Routes request (.respond (jsonResponse error.1 (errorBody error.2)))
  | execute (sent : KvRequest) : Routes request (.execute sent)
  | administer (action : AdminAction) : Routes request (.administer action)
  | status :
      request.path = bytes "/admin/cluster" →
      request.method = bytes "GET" → Routes request .status

private theorem routes_keyRoute (request : HttpRequest) (key : Bytes) :
    Routes request (keyRoute request key) := by
  unfold keyRoute
  split
  · exact .refuse (400, "key must be 1-512 characters") (by decide)
  split
  · exact .execute _
  split
  · split
    · exact .refuse (413, "value exceeds 1 MiB") (by decide)
    · exact .execute _
  split
  · exact .execute _
  · exact .refuse (405, "method not allowed") (by decide)

private theorem routes_shardRoute
    (request : HttpRequest) (segment : Bytes) (action : Nat → AdminAction) :
    Routes request (shardRoute segment action) := by
  unfold shardRoute
  split
  · exact .administer _
  · exact .refuse (400, "invalid shard id") (by decide)

theorem routes (request : HttpRequest) : Routes request (route request) := by
  unfold route
  simp only
  split
  · exact routes_keyRoute _ _
  split
  case isTrue isStatus =>
    exact .status isStatus.1 isStatus.2
  case isFalse =>
    split
    · exact routes_shardRoute _ _ _
    split
    · exact routes_shardRoute _ _ _
    · exact .refuse (404, "route not found") (by decide)

theorem route_respond
    {request : HttpRequest} {response : HttpResponse}
    (routed : route request = .respond response) :
    ∃ error ∈ routeErrors,
      response = jsonResponse error.1 (errorBody error.2) := by
  have isRoute := routes request
  rw [routed] at isRoute
  cases isRoute with
  | refuse error member =>
      exact ⟨error, member, rfl⟩

/-- The responses of the routes are errors of the client. -/
theorem route_status_mem
    {request : HttpRequest} {response : HttpResponse}
    (routed : route request = .respond response) :
    response.status ∈ [400, 404, 405, 413] := by
  have each :
      ∀ error ∈ routeErrors, error.1 ∈ [400, 404, 405, 413] := by
    decide
  obtain ⟨error, member, rfl⟩ := route_respond routed
  exact each error member

/-- The status document is at one path, and has one method. -/
theorem route_status_iff {request : HttpRequest} :
    route request = .status ↔
      request.path = bytes "/admin/cluster" ∧
        request.method = bytes "GET" := by
  constructor
  · intro routed
    have isRoute := routes request
    rw [routed] at isRoute
    cases isRoute with
    | status path method =>
        exact ⟨path, method⟩
  · rintro ⟨path, method⟩
    have parts :
        splitPath request.path = [bytes "admin", bytes "cluster"] := by
      rw [path]
      decide
    unfold route
    simp only [parts]
    rw [if_neg (by decide), if_pos ⟨path, method⟩]

example :
    route (.bearing "s" "POST" "/admin/fail/-1x/s0-r0" []) =
      .administer (.fail (2 ^ 64 - 1) (bytes "s0-r0")) := by
  decide +kernel

theorem AdminAction.response_status_mem
    (action : AdminAction) (answer : Except KvError Bool) :
    (action.response answer).status ∈ [200, 400, 404, 503] := by
  cases action <;> rcases answer with _ | (_ | _) <;>
    simp [AdminAction.response, AdminAction.actedResponse, jsonResponse]

/-- Every thread is where its request leads. -/
theorem ServerRun.follows
    {settings : Settings} {labels : List ServerLabel}
    {state : ServerState shardCount replicaCount}
    (positive : 0 < replicaCount) (run : ServerRun settings labels state)
    {index : Nat} {thread : ServerThread}
    (found : state.threads[index]? = some thread) :
    thread.stage.Follows shardCount replicaCount settings.apiKey
      thread.request :=
  ServerRun.forall_threads
    (fun request _ stage _ =>
      stage.Follows shardCount replicaCount settings.apiKey request)
    (fun _ => trivial)
    (fun run _ follows turned => turned.follows positive run follows) run
    found

end Threads

end ShardedKvStore

import ShardedKvStore.Gateway.RateLimits
import ShardedKvStore.Gateway.Runs
import ShardedKvStore.Paths
import ShardedKvStore.Status

/-!
# The request handler

`Gateway::handle` runs in one thread per connection.  A thread takes turns with the
others; in a turn it uses one piece of shared state, under its mutex or as an atomic
counter: the rate limits, a breaker, the cluster, the document of one shard, or a
counter, which it adds to or loads.  What is counted inside a call, the thread adds
after the call, one counter in a turn, before it goes on.  What a turn reads from
outside the model is its input, the clock.
-/

namespace ShardedKvStore

open Foundation

/-- `what()` of the exceptions of the cluster. -/
def KvError.what : KvError → Bytes
  | .replicaCount => bytes "replica_count must be at least 1"
  | .shardCount => bytes "shard_count must be at least 1"
  | .appendLocalRequiresLeader =>
      bytes "append_local requires an online leader"
  | .unknownRaftCommand command => bytes "unknown raft command: " ++ command

/-! ## Requests -/

/-- `authorized`. -/
def authorized (apiKey : Bytes) (request : HttpRequest) : Bool :=
  match request.headers[bytes "authorization"]? with
  | none => false
  | some value => value = bytes "Bearer " ++ apiKey

/-- The identifier `handle` takes the client to have. -/
def clientId (request : HttpRequest) : Bytes :=
  (request.headers[bytes "x-client-id"]?).getD request.remoteIp

/-- The body of an error response. -/
def errorBody (message : String) : Bytes :=
  bytes "\x7b\"error\":\"" ++ bytes message ++ bytes "\"\x7d"

/-- The administrative calls. -/
inductive AdminAction where
  | fail (shardId : Nat) (replica : Bytes)
  | recover (shardId : Nat) (replica : Bytes)
  | elect (shardId : Nat)
  deriving DecidableEq, Repr

/-- What `handle` does with a request that was let through. -/
inductive Route where
  | respond (response : HttpResponse)
  | execute (request : KvRequest)
  | administer (action : AdminAction)
  | status
  deriving DecidableEq, Repr

/-- The routes below `/v1/kv`. -/
def keyRoute (request : HttpRequest) (key : Bytes) : Route :=
  if key = [] ∨ 512 < key.length then
    .respond (jsonResponse 400 (errorBody "key must be 1-512 characters"))
  else if request.method = bytes "GET" then
    .execute { operation := .get, key := key }
  else if request.method = bytes "PUT" then
    if 1024 * 1024 < request.body.length then
      .respond (jsonResponse 413 (errorBody "value exceeds 1 MiB"))
    else
      .execute { operation := .put, key := key, value := request.body }
  else if request.method = bytes "DELETE" then
    .execute { operation := .delete, key := key }
  else
    .respond (jsonResponse 405 (errorBody "method not allowed"))

/-- An administrative call on the shard a segment names. -/
def shardRoute (segment : Bytes) (action : Nat → AdminAction) : Route :=
  match stoull segment with
  | .ok shardId => .administer (action shardId)
  | .error _ => .respond (jsonResponse 400 (errorBody "invalid shard id"))

/-- The part of `handle` behind the rate limit. -/
def route (request : HttpRequest) : Route :=
  let parts := splitPath request.path
  if parts.length = 3 ∧ parts[0]? = some (bytes "v1") ∧
      parts[1]? = some (bytes "kv") then
    keyRoute request (parts.getD 2 [])
  else if request.path = bytes "/admin/cluster" ∧
      request.method = bytes "GET" then
    .status
  else if parts.length = 4 ∧ parts[0]? = some (bytes "admin") ∧
      (parts[1]? = some (bytes "fail") ∨
        parts[1]? = some (bytes "recover")) ∧
      request.method = bytes "POST" then
    shardRoute (parts.getD 2 []) fun shardId =>
      if parts[1]? = some (bytes "fail") then
        .fail shardId (parts.getD 3 [])
      else
        .recover shardId (parts.getD 3 [])
  else if parts.length = 3 ∧ parts[0]? = some (bytes "admin") ∧
      parts[1]? = some (bytes "elect") ∧ request.method = bytes "POST" then
    shardRoute (parts.getD 2 []) .elect
  else
    .respond (jsonResponse 404 (errorBody "route not found"))

namespace AdminAction

/-- The call of an action. -/
def call {shardCount replicaCount : Nat} :
    AdminAction → ClusterCall shardCount replicaCount Bool
  | .fail shardId replica => Cluster.failReplica shardId replica
  | .recover shardId replica => Cluster.recoverReplica shardId replica
  | .elect shardId => Cluster.elect shardId

/-- The operation of an action. -/
def operation : AdminAction → ClusterOperation
  | .fail shardId replica => .failReplica shardId replica
  | .recover shardId replica => .recoverReplica shardId replica
  | .elect shardId => .elect shardId

/-- The response that names the action and the replica. -/
def actedResponse (action : String) (replica : Bytes) : HttpResponse :=
  jsonResponse 200
    (bytes "\x7b\"status\":\"ok\",\"action\":\"" ++
      jsonEscape (bytes action) ++ bytes "\",\"replica\":\"" ++
      jsonEscape replica ++ bytes "\"\x7d")

/-- The response of an action; every exception is caught. -/
def response : AdminAction → Except KvError Bool → HttpResponse
  | .fail _ replica, .ok true => actedResponse "fail" replica
  | .recover _ replica, .ok true => actedResponse "recover" replica
  | .elect _, .ok true =>
      jsonResponse 200 (bytes "\x7b\"status\":\"leader elected\"\x7d")
  | .elect _, .ok false =>
      jsonResponse 503 (errorBody "leader election failed")
  | _, .ok false =>
      jsonResponse 404 (errorBody "replica or shard not found")
  | _, .error _ => jsonResponse 400 (errorBody "invalid shard id")

end AdminAction

/-! ## Counters -/

/-- The counters of `Metrics`. -/
inductive Counter where
  | requests
  | requestLatencyUs
  | authFailures
  | rateLimited
  | gets
  | puts
  | deletes
  | retries
  | circuitOpen
  | gatewayFailures
  | elections
  | replicationFailures
  deriving DecidableEq, Repr

/-- The counters in the order in which `render_prometheus` loads them. -/
def Counter.loaded : List Counter :=
  [.requests, .requestLatencyUs, .authFailures, .rateLimited, .gets, .puts,
    .deletes, .retries, .circuitOpen, .gatewayFailures, .elections,
    .replicationFailures]

/-- The values of the counters of `Metrics`. -/
abbrev Counters : Type :=
  Counter → UInt64

/-- `fetch_add` on a counter. -/
def Counters.fetchAdd
    (counters : Counters) (counter : Counter) (amount : UInt64) : Counters :=
  Function.update counters counter (counters counter + amount)

/-- The counter of `inc_get`, `inc_put` or `inc_delete`. -/
def KvMethod.counter : KvMethod → Counter
  | .get => .gets
  | .put => .puts
  | .delete => .deletes

/-- A line of `render_prometheus`. -/
def metricLine (text : String) (value : Bytes) : Bytes :=
  bytes text ++ value ++ [10]

/-- `render_prometheus`, from the loaded values. -/
def renderPrometheus (value : Counters) : Bytes :=
  let number (counter : Counter) := toDecimal (value counter).toNat
  let average :=
    if value .requests = 0 then
      0
    else
      value .requestLatencyUs / value .requests
  metricLine "# HELP kv_gateway_requests_total Total HTTP requests." [] ++
    metricLine "# TYPE kv_gateway_requests_total counter" [] ++
    metricLine "kv_gateway_requests_total " (number .requests) ++
    metricLine "# HELP kv_gateway_request_latency_microseconds_sum Cumulative request latency." [] ++
    metricLine "# TYPE kv_gateway_request_latency_microseconds_sum counter" [] ++
    metricLine "kv_gateway_request_latency_microseconds_sum "
      (number .requestLatencyUs) ++
    metricLine "# HELP kv_gateway_request_latency_microseconds_avg Average request latency." [] ++
    metricLine "# TYPE kv_gateway_request_latency_microseconds_avg gauge" [] ++
    metricLine "kv_gateway_request_latency_microseconds_avg "
      (toDecimal average.toNat) ++
    metricLine "kv_gateway_auth_failures_total " (number .authFailures) ++
    metricLine "kv_gateway_rate_limited_total " (number .rateLimited) ++
    metricLine "kv_gateway_get_total " (number .gets) ++
    metricLine "kv_gateway_put_total " (number .puts) ++
    metricLine "kv_gateway_delete_total " (number .deletes) ++
    metricLine "kv_gateway_retries_total " (number .retries) ++
    metricLine "kv_gateway_circuit_open_total " (number .circuitOpen) ++
    metricLine "kv_gateway_failures_total " (number .gatewayFailures) ++
    metricLine "kv_raft_elections_total " (number .elections) ++
    metricLine "kv_raft_replication_failures_total "
      (number .replicationFailures)

/-! ## Threads -/

/-- Where a thread is in `handle`. -/
inductive Stage where
  /-- at the start -/
  | received
  /-- authorized, before the rate limit is asked -/
  | authorized
  /-- let through, before the request is routed -/
  | admitted
  /-- before the breaker is asked -/
  | entering (request : KvRequest)
  /-- in `execute_with_resilience` -/
  | executing (request : KvRequest) (progress : Progress)
  /-- before an administrative call -/
  | administering (action : AdminAction)
  /-- in `status_json`, with the documents of the first shards -/
  | reporting (shards : List Bytes)
  /-- in `render_prometheus`, with the first values -/
  | scraping (loaded : List UInt64)
  /-- before `finish` -/
  | finishing (response : HttpResponse)
  /-- in `record_request`, with the request counted and its latency not yet -/
  | recording (elapsed : Int) (response : HttpResponse)
  /-- `handle` is over, and this is what is sent -/
  | answered (response : HttpResponse)

/-- A thread in `handle`. -/
structure ServerThread where
  request : HttpRequest
  started : Int
  stage : Stage
  /-- the counters it adds one to before it goes on -/
  counting : List Counter := []

/-- What a turn reads from outside. -/
structure TurnInput where
  /-- the clock, in the constructor of a new token bucket -/
  constructed : Int := 0
  /-- the clock -/
  now : Int := 0

/-- The call of the rate limiter in a turn. -/
def TurnInput.limited
    (input : TurnInput) (request : HttpRequest) : LimitedRequest where
  clientId := clientId request
  constructed := input.constructed
  now := input.now

/-- The gateway as `handle` sees it, with the `Metrics` it refers to. -/
structure Server (shardCount replicaCount : Nat) where
  gateway : Gateway shardCount replicaCount
  apiKey : Bytes
  limiter : RateLimiter
  counters : Counters := fun _ => 0

/-- What a turn leaves: the stage of the thread, the counters it has to add to
before it goes on, and the server. -/
structure Turned (shardCount replicaCount : Nat) where
  stage : Stage
  counting : List Counter := []
  server : Server shardCount replicaCount

/-- The counters to which a step of `execute_with_resilience` adds, by what the step
does to those of the gateway. -/
def Metrics.additions (before after : Metrics) : List Counter :=
  (if after.retries = before.retries then [] else [.retries]) ++
    (if after.circuitOpen = before.circuitOpen then [] else [.circuitOpen]) ++
    (if after.gatewayFailures = before.gatewayFailures then []
      else [.gatewayFailures])

/-- How many elections are won in a journal of the cluster. -/
def electionsIn
    {shardCount replicaCount : Nat}
    (journal : List (ClusterEvent shardCount replicaCount)) : Nat :=
  journal.countP fun event => event.2.isElection

section Calls

variable {shardCount replicaCount : Nat} [NeZero shardCount]

/-- How often a replication fails in an operation. -/
def ClusterOperation.replicationFailures
    (operation : ClusterOperation)
    (cluster : Cluster shardCount replicaCount) : Nat :=
  let failures (command key value : Bytes) : Nat :=
    match
      (Shard.replicationFailures command key value
        (cluster.shards (Cluster.shardForKey key))).result with
    | .ok failures => failures
    | .error _ => 0
  match operation with
  | .put key value => failures putCommand key value
  | .erase key => failures deleteCommand key []
  | _ => 0

/-- The counters to which an operation of the cluster adds, in this order. -/
def ClusterOperation.additions
    (operation : ClusterOperation)
    (cluster : Cluster shardCount replicaCount) : List Counter :=
  List.replicate (electionsIn (operation.call cluster).journal) .elections ++
    List.replicate (operation.replicationFailures cluster)
      .replicationFailures

end Calls

/-- A duration in whole microseconds. -/
def microseconds (ticks : Int) : Int :=
  ticks.tdiv 1000

/-- What `finish` makes of a response. -/
def finished (elapsed : Int) (response : HttpResponse) : HttpResponse :=
  { response with
    headers :=
      (response.headers.insert (bytes "X-Content-Type-Options")
        (bytes "nosniff")).insert (bytes "X-Request-Latency-Us")
          (signedDecimal elapsed) }

/-- The response of `/healthz`. -/
def healthResponse : HttpResponse :=
  jsonResponse 200 (bytes "\x7b\"status\":\"ok\"\x7d")

/-- The response of `/metrics`. -/
def metricsResponse (value : Counters) : HttpResponse where
  status := 200
  contentType := bytes "text/plain; version=0.0.4"
  body := renderPrometheus value

/-- The response of a request that is not authorized. -/
def unauthorizedResponse : HttpResponse :=
  jsonResponse 401 (errorBody "missing or invalid bearer token")

/-- The response of a request above the rate limit. -/
def rateLimitedResponse : HttpResponse :=
  let response := jsonResponse 429 (errorBody "rate limit exceeded")
  { response with
    headers := response.headers.insert (bytes "Retry-After") (bytes "1") }

namespace Server

variable {shardCount replicaCount : Nat}

/-- One is added to a counter. -/
def count
    (counter : Counter) (server : Server shardCount replicaCount) :
    Server shardCount replicaCount :=
  { server with counters := server.counters.fetchAdd counter 1 }

/-- The first part of `handle`, up to the rate limit. -/
def check
    (request : HttpRequest) (server : Server shardCount replicaCount) :
    Turned shardCount replicaCount :=
  if request.path = bytes "/healthz" then
    { stage := .finishing healthResponse, server := server }
  else if request.path = bytes "/metrics" then
    { stage := .scraping [], server := server }
  else if authorized server.apiKey request = false then
    { stage := .finishing unauthorizedResponse
      server := server.count .authFailures }
  else
    { stage := .authorized, server := server }

/-- The rate limit. -/
def limit
    (input : TurnInput) (request : HttpRequest)
    (server : Server shardCount replicaCount) :
    Turned shardCount replicaCount :=
  let outcome :=
    server.limiter.allowedByRateLimit (input.limited request)
  if outcome.1 = true then
    { stage := .admitted
      server := { server with limiter := outcome.2 } }
  else
    { stage := .finishing rateLimitedResponse
      counting := [.rateLimited]
      server := { server with limiter := outcome.2 } }

/-- The request is routed. -/
def dispatch
    (request : HttpRequest) (server : Server shardCount replicaCount) :
    Turned shardCount replicaCount :=
  match route request with
  | .respond response =>
      { stage := .finishing response, server := server }
  | .execute request =>
      { stage := .entering request
        server := server.count request.operation.counter }
  | .administer action =>
      { stage := .administering action, server := server }
  | .status => { stage := .reporting [], server := server }

/-- A breaker is asked or told in `execute_with_resilience`. -/
def within
    (request : KvRequest)
    (outcome : Progress × Gateway shardCount replicaCount)
    (server : Server shardCount replicaCount) :
    Turned shardCount replicaCount where
  stage := .executing request outcome.1
  counting := server.gateway.metrics.additions outcome.2.metrics
  server := { server with gateway := outcome.2 }

/-- A turn of the loop of `Cluster::status_json`. -/
def report
    (shards : List Bytes) (server : Server shardCount replicaCount) :
    Turned shardCount replicaCount :=
  if inRange : shards.length < shardCount then
    { stage :=
        .reporting
          (shards ++
            [(server.gateway.cluster.shards
              ⟨shards.length, inRange⟩).statusJson])
      server := server }
  else
    { stage :=
        .finishing (jsonResponse 200 (clusterStatusJson shardCount shards))
      server := server }

/-- The next counter is loaded, or the page is written. -/
def scrape
    (loaded : List UInt64) (server : Server shardCount replicaCount) :
    Turned shardCount replicaCount :=
  match Counter.loaded[loaded.length]? with
  | some counter =>
      { stage := .scraping (loaded ++ [server.counters counter])
        server := server }
  | none =>
      { stage :=
          .finishing
            (metricsResponse fun counter =>
              loaded.getD (Counter.loaded.idxOf counter) 0)
        server := server }

/-- `finish`, up to the first addition of `record_request`. -/
def finish
    (input : TurnInput) (started : Int) (response : HttpResponse)
    (server : Server shardCount replicaCount) :
    Turned shardCount replicaCount where
  stage := .recording (microseconds (input.now - started)) response
  server := server.count .requests

/-- The rest of `finish`. -/
def recordLatency
    (elapsed : Int) (response : HttpResponse)
    (server : Server shardCount replicaCount) :
    Turned shardCount replicaCount where
  stage := .answered (finished elapsed response)
  server :=
    { server with
      counters :=
        server.counters.fetchAdd .requestLatencyUs (UInt64.ofInt elapsed) }

variable [NeZero shardCount]

/-- An attempt of `execute_with_resilience`. -/
def attempt
    (request : KvRequest) (attempt : UInt64)
    (server : Server shardCount replicaCount) :
    Turned shardCount replicaCount :=
  let outcome := server.gateway.attempt request attempt
  { stage := .executing request outcome.1
    counting := request.clusterOperation.additions server.gateway.cluster
    server := { server with gateway := outcome.2 } }

/-- An administrative call. -/
def administer
    (action : AdminAction) (server : Server shardCount replicaCount) :
    Turned shardCount replicaCount :=
  let outcome := action.call server.gateway.cluster
  { stage := .finishing (action.response outcome.result)
    counting := action.operation.additions server.gateway.cluster
    server :=
      { server with
        gateway := { server.gateway with cluster := outcome.state } } }

/-- A turn of a thread that has nothing to count. -/
def proceed
    (input : TurnInput) (thread : ServerThread)
    (server : Server shardCount replicaCount) :
    Turned shardCount replicaCount :=
  match thread.stage with
  | .received => server.check thread.request
  | .authorized => server.limit input thread.request
  | .admitted => server.dispatch thread.request
  | .entering request =>
      server.within request (server.gateway.askBreaker input.now request)
  | .executing request (.attempting attempt) =>
      server.attempt request attempt
  | .executing request (.called attempt result) =>
      server.within request
        (server.gateway.record input.now request attempt result)
  | .executing _ (.answered response) =>
      server.finish input thread.started response
  | .executing _ (.threw error) =>
      -- the exception leaves `handle`, and `handle_client` answers
      { stage := .answered (errorResponse error.what), server := server }
  | .administering action => server.administer action
  | .reporting shards => server.report shards
  | .scraping loaded => server.scrape loaded
  | .finishing response => server.finish input thread.started response
  | .recording elapsed response => server.recordLatency elapsed response
  | .answered response => { stage := .answered response, server := server }

/-- A turn of a thread. -/
def turn
    (input : TurnInput) (thread : ServerThread)
    (server : Server shardCount replicaCount) :
    Turned shardCount replicaCount :=
  match thread.counting with
  | [] => server.proceed input thread
  | counter :: rest =>
      { stage := thread.stage
        counting := rest
        server := server.count counter }

/-- What a turn does to the cluster. -/
def performed
    (stage : Stage) (counting : List Counter)
    (server : Server shardCount replicaCount) :
    Option ClusterLabel :=
  match counting, stage with
  | [], .executing request (.attempting _) =>
      some (.call request.clusterOperation
        (request.clusterOperation.call server.gateway.cluster).result)
  | [], .administering action =>
      some (.call action.operation
        (action.operation.call server.gateway.cluster).result)
  | _, _ => none

end Server

/-! ## Runs -/

/-- The arguments of the constructor of the gateway. -/
structure Settings where
  apiKey : Bytes
  ratePerSecond : ℚ
  burst : ℚ
  maxRetries : UInt64

/-- The server and its threads, oldest first. -/
structure ServerState (shardCount replicaCount : Nat) where
  server : Server shardCount replicaCount
  threads : List ServerThread

/-- A turn as a trace shows it: whose it is, what it reads, the thread before it,
the stage after it, and what it does to the cluster. -/
structure Turn where
  index : Nat
  input : TurnInput
  thread : ServerThread
  next : Stage
  performed : Option ClusterLabel

/-- The steps of a run. -/
inductive ServerLabel where
  /-- `handle` is called in a new thread -/
  | request (index : Nat) (request : HttpRequest) (now : Int)
  /-- a thread takes a turn -/
  | turn (turn : Turn)

/-- The thread is in `handle`. -/
def Stage.Active : Stage → Prop
  | .answered _ => False
  | _ => True

section Steps

variable {shardCount replicaCount : Nat}

/-- A server in front of a cluster that was just started. -/
def ServerState.initial
    (shardCount replicaCount : Nat) (settings : Settings) :
    ServerState shardCount replicaCount where
  server :=
    { gateway :=
        Gateway.create (Cluster.begun shardCount replicaCount)
          settings.maxRetries
      apiKey := settings.apiKey
      limiter :=
        { ratePerSecond := settings.ratePerSecond
          burst := settings.burst }
      counters :=
        -- the constructors of the shards have elected their leaders
        Counters.fetchAdd (fun _ => 0) .elections
          (UInt64.ofNat
            (electionsIn
              (Cluster.construct (fun _ _ => SqliteStore.empty) :
                Outcome _ (Cluster shardCount replicaCount) _ _).journal)) }
  threads := []

/-- The state after a request has arrived. -/
def ServerState.receive
    (state : ServerState shardCount replicaCount) (request : HttpRequest)
    (now : Int) : ServerState shardCount replicaCount :=
  { state with
    threads :=
      state.threads ++
        [{ request := request, started := now, stage := .received }] }

variable [NeZero shardCount]

/-- The state after a turn of the thread at a position. -/
def ServerState.advance
    (state : ServerState shardCount replicaCount) (index : Nat)
    (input : TurnInput) (thread : ServerThread) :
    ServerState shardCount replicaCount where
  server := (state.server.turn input thread).server
  threads :=
    state.threads.set index
      { thread with
        stage := (state.server.turn input thread).stage
        counting := (state.server.turn input thread).counting }

/-- The steps of the server. -/
inductive ServerStep :
    ServerState shardCount replicaCount → ServerLabel →
      ServerState shardCount replicaCount → Prop
  | request (state : ServerState shardCount replicaCount)
      (request : HttpRequest) (now : Int) :
      ServerStep state (.request state.threads.length request now)
        (state.receive request now)
  | turn {state : ServerState shardCount replicaCount} (index : Nat)
      (input : TurnInput) (thread : ServerThread) :
      state.threads[index]? = some thread → thread.stage.Active →
      ServerStep state
        (.turn
          { index := index
            input := input
            thread := thread
            next := (state.server.turn input thread).stage
            performed :=
              state.server.performed thread.stage thread.counting })
        (state.advance index input thread)

/-- The runs of a server in front of a fresh cluster. -/
abbrev ServerRun (settings : Settings) :
    List ServerLabel → ServerState shardCount replicaCount → Prop :=
  Run
    (fun state =>
      state = ServerState.initial shardCount replicaCount settings)
    ServerStep

end Steps

end ShardedKvStore

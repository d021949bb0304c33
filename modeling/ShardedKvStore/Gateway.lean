import ShardedKvStore.Cluster.Runs
import ShardedKvStore.Http

/-!
# The gateway

`execute_with_resilience` passes a request to the cluster, up to
`max_retries + 1` times, behind the circuit breaker of its shard.  Many requests
are under way at once.  The breakers are used under their mutex and the cluster
under its own, so a request runs in steps: it asks the breaker, it calls the
cluster, it tells the breaker how the call went.  Other requests and the
administrative calls come in between.  The clock is an input of the steps that
read it, and the pauses between attempts are just time going by.
-/

namespace ShardedKvStore

open Foundation

/-! ## Circuit breakers -/

/-- `CircuitState`. -/
inductive CircuitState where
  | closed
  | opened
  | halfOpen
  deriving DecidableEq, Repr

/-- Milliseconds in ticks of `steady_clock`, which are nanoseconds. -/
def milliseconds (count : Int) : Int :=
  count * 1000000

/-- `CircuitBreaker`.  Points in time are ticks since the epoch of the clock.  The
source compares them with `openDuration` in signed 64-bit nanoseconds, which hold
at most 9223372036854 ms. -/
structure CircuitBreaker where
  failureThreshold : UInt64
  openDuration : Int
  consecutiveFailures : UInt64 := 0
  state : CircuitState := .closed
  openedAt : Int := 0
  deriving DecidableEq, Repr

namespace CircuitBreaker

/-- `allow_request` at a time. -/
def allowRequest (now : Int) (breaker : CircuitBreaker) :
    Bool × CircuitBreaker :=
  match breaker.state with
  | .closed => (true, breaker)
  | .opened =>
      if now - breaker.openedAt ≥ breaker.openDuration then
        (true, { breaker with state := .halfOpen })
      else
        (false, breaker)
  | .halfOpen => (true, breaker)

/-- `record_success`. -/
def recordSuccess (breaker : CircuitBreaker) : CircuitBreaker :=
  { breaker with
    consecutiveFailures := 0
    state := .closed }

/-- `record_failure` at a time. -/
def recordFailure (now : Int) (breaker : CircuitBreaker) : CircuitBreaker :=
  let counted :=
    { breaker with consecutiveFailures := breaker.consecutiveFailures + 1 }
  if counted.state = .halfOpen ∨
      counted.consecutiveFailures ≥ counted.failureThreshold then
    { counted with
      state := .opened
      openedAt := now }
  else
    counted

end CircuitBreaker

/-! ## Requests -/

/-- The operations `handle` passes on. -/
inductive KvMethod where
  | get
  | put
  | delete
  deriving DecidableEq, Repr

/-- The arguments of `execute_with_resilience`. -/
structure KvRequest where
  operation : KvMethod
  key : Bytes
  value : Bytes := []
  deriving DecidableEq, Repr

/-- `json_response`. -/
def jsonResponse (status : Nat) (body : Bytes) : HttpResponse where
  status := status
  contentType := bytes "application/json"
  body := body

namespace KvRequest

/-- The cluster operation of a request. -/
def clusterOperation (request : KvRequest) : ClusterOperation :=
  match request.operation with
  | .get => .get request.key
  | .put => .put request.key request.value
  | .delete => .erase request.key

/-- The call one attempt makes. -/
def call {shardCount replicaCount : Nat} [NeZero shardCount]
    (request : KvRequest) :
    ClusterCall shardCount replicaCount OperationResult :=
  match request.operation with
  | .get => Cluster.get request.key
  | .put => Cluster.put request.key request.value
  | .delete => Cluster.erase request.key

/-- The write of a request. -/
def write (request : KvRequest) : Option Write :=
  request.clusterOperation.write

/-- The body written for a result. -/
def responseBody (request : KvRequest) (result : OperationResult) : Bytes :=
  if result.ok = true then
    bytes "\x7b\"status\":\"" ++ jsonEscape result.message ++ bytes "\"" ++
      bytes ",\"key\":\"" ++ jsonEscape request.key ++ bytes "\"" ++
      bytes ",\"shard\":" ++ toDecimal result.shard ++
      bytes ",\"leader\":\"" ++ jsonEscape result.leader ++ bytes "\"" ++
      (if request.operation = .get then
        bytes ",\"value\":\"" ++ jsonEscape result.value ++ bytes "\""
      else
        []) ++
      bytes "\x7d"
  else
    bytes "\x7b\"error\":\"" ++ jsonEscape result.message ++ bytes "\"" ++
      bytes ",\"key\":\"" ++ jsonEscape request.key ++ bytes "\"" ++
      bytes ",\"shard\":" ++ toDecimal result.shard ++
      (if result.leader ≠ [] then
        bytes ",\"leader\":\"" ++ jsonEscape result.leader ++ bytes "\""
      else
        []) ++
      bytes "\x7d"

/-- The response for a result. -/
def response (request : KvRequest) (result : OperationResult) :
    HttpResponse :=
  jsonResponse result.status (request.responseBody result)

end KvRequest

/-- The response of an open circuit breaker. -/
def circuitOpenResponse (shardId : Nat) : HttpResponse :=
  jsonResponse 503
    (bytes "\x7b\"error\":\"circuit breaker is open\",\"shard\":" ++
      toDecimal shardId ++ bytes "\x7d")

/-! ## The gateway -/

/-- The counters `execute_with_resilience` adds to. -/
structure Metrics where
  retries : UInt64 := 0
  circuitOpen : UInt64 := 0
  gatewayFailures : UInt64 := 0
  deriving DecidableEq, Repr

/-- `Gateway`, with the cluster it refers to. -/
structure Gateway (shardCount replicaCount : Nat) where
  cluster : Cluster shardCount replicaCount
  maxRetries : UInt64
  breakers : Fin shardCount → CircuitBreaker
  metrics : Metrics := {}

/-- Where a request is in `execute_with_resilience`. -/
inductive Progress where
  /-- at the call of an attempt -/
  | attempting (attempt : UInt64)
  /-- after the call, before the breaker is told -/
  | called (attempt : UInt64) (result : OperationResult)
  /-- a response was returned -/
  | answered (response : HttpResponse)
  /-- the call threw, and the exception was passed on -/
  | threw (error : KvError)
  deriving DecidableEq, Repr

namespace Gateway

variable {shardCount replicaCount : Nat}

/-- `Gateway::Gateway`. -/
def create
    (cluster : Cluster shardCount replicaCount) (maxRetries : UInt64) :
    Gateway shardCount replicaCount where
  cluster := cluster
  maxRetries := maxRetries
  breakers := fun _ =>
    { failureThreshold := 3
      openDuration := milliseconds 5000 }

variable [NeZero shardCount]

/-- The part of `execute_with_resilience` before the loop. -/
def askBreaker
    (now : Int) (request : KvRequest)
    (gateway : Gateway shardCount replicaCount) :
    Progress × Gateway shardCount replicaCount :=
  let shardId : Fin shardCount := Cluster.shardForKey request.key
  let (allowed, breaker) := (gateway.breakers shardId).allowRequest now
  let asked :=
    { gateway with
      breakers := Function.update gateway.breakers shardId breaker }
  if allowed = true then
    (.attempting 0, asked)
  else
    (.answered (circuitOpenResponse shardId),
      { asked with
        metrics :=
          { asked.metrics with
            circuitOpen := asked.metrics.circuitOpen + 1 } })

/-- The call of an attempt. -/
def attempt
    (request : KvRequest) (attempt : UInt64)
    (gateway : Gateway shardCount replicaCount) :
    Progress × Gateway shardCount replicaCount :=
  let outcome := request.call gateway.cluster
  (match outcome.result with
    | .ok result => .called attempt result
    | .error error => .threw error,
    { gateway with cluster := outcome.state })

/-- The response after the loop. -/
def finish
    (request : KvRequest) (result : OperationResult)
    (gateway : Gateway shardCount replicaCount) :
    Progress × Gateway shardCount replicaCount :=
  (.answered (request.response result),
    if result.status ≥ 500 then
      { gateway with
        metrics :=
          { gateway.metrics with
            gatewayFailures := gateway.metrics.gatewayFailures + 1 } }
    else
      gateway)

/-- The rest of a turn of the loop: the breaker is told, and the next attempt
follows or the loop ends. -/
def record
    (now : Int) (request : KvRequest) (attempt : UInt64)
    (result : OperationResult)
    (gateway : Gateway shardCount replicaCount) :
    Progress × Gateway shardCount replicaCount :=
  let shardId : Fin shardCount := Cluster.shardForKey request.key
  let tell (breaker : CircuitBreaker) :=
    { gateway with
      breakers := Function.update gateway.breakers shardId breaker }
  if result.status < 500 then
    finish request result (tell (gateway.breakers shardId).recordSuccess)
  else
    let told := tell ((gateway.breakers shardId).recordFailure now)
    let counted :=
      if attempt < gateway.maxRetries then
        { told with
          metrics :=
            { told.metrics with retries := told.metrics.retries + 1 } }
      else
        told
    -- `++attempt` wraps around, and then the condition of the loop is tested
    if attempt + 1 ≤ gateway.maxRetries then
      (.attempting (attempt + 1), counted)
    else
      finish request result counted

end Gateway

end ShardedKvStore

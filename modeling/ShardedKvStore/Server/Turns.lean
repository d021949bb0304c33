import ShardedKvStore.Server

/-!
# Turns of the request handler

What a turn can do, as one relation with a case for each way through `handle`.
-/

namespace ShardedKvStore

open Foundation

/-! ## Requests -/

/-- The request is not for one of the open paths. -/
def HttpRequest.Closed (request : HttpRequest) : Prop :=
  request.path ≠ bytes "/healthz" ∧ request.path ≠ bytes "/metrics"

/-- The request gets past the check of the bearer token. -/
def HttpRequest.Trusted (apiKey : Bytes) (request : HttpRequest) : Prop :=
  request.Closed ∧ authorized apiKey request = true

instance (request : HttpRequest) : Decidable request.Closed :=
  inferInstanceAs (Decidable (_ ∧ _))

instance (apiKey : Bytes) (request : HttpRequest) :
    Decidable (request.Trusted apiKey) :=
  inferInstanceAs (Decidable (_ ∧ _))

/-! ## One turn -/

section Turns

variable {shardCount replicaCount : Nat} [NeZero shardCount]

/-- The turns of a thread: the stage and what is to be counted before, the same
after, and the server after. -/
inductive Turns
    (server : Server shardCount replicaCount) (input : TurnInput)
    (request : HttpRequest) (started : Int) :
    Stage → List Counter → Stage → List Counter →
      Server shardCount replicaCount → Prop
  | count (stage : Stage) (counter : Counter) (rest : List Counter) :
      stage.Active →
      Turns server input request started stage (counter :: rest) stage rest
        (server.count counter)
  | healthy :
      request.path = bytes "/healthz" →
      Turns server input request started .received []
        (.finishing healthResponse) [] server
  | scrape :
      request.path = bytes "/metrics" →
      Turns server input request started .received [] (.scraping []) []
        server
  | unauthorized :
      request.Closed → authorized server.apiKey request = false →
      Turns server input request started .received []
        (.finishing unauthorizedResponse) [] (server.count .authFailures)
  | authorized :
      request.Trusted server.apiKey →
      Turns server input request started .received [] .authorized [] server
  | admitted :
      (server.limiter.allowedByRateLimit (input.limited request)).1 = true →
      Turns server input request started .authorized [] .admitted []
        { server with
          limiter :=
            (server.limiter.allowedByRateLimit (input.limited request)).2 }
  | limited :
      (server.limiter.allowedByRateLimit (input.limited request)).1 =
        false →
      Turns server input request started .authorized []
        (.finishing rateLimitedResponse) [.rateLimited]
        { server with
          limiter :=
            (server.limiter.allowedByRateLimit (input.limited request)).2 }
  | respond (response : HttpResponse) :
      route request = .respond response →
      Turns server input request started .admitted [] (.finishing response)
        [] server
  | execute (sent : KvRequest) :
      route request = .execute sent →
      Turns server input request started .admitted [] (.entering sent) []
        (server.count sent.operation.counter)
  | administer (action : AdminAction) :
      route request = .administer action →
      Turns server input request started .admitted []
        (.administering action) [] server
  | status :
      route request = .status →
      Turns server input request started .admitted [] (.reporting []) []
        server
  | ask (sent : KvRequest) :
      Turns server input request started (.entering sent) []
        (.executing sent (server.gateway.askBreaker input.now sent).1)
        (server.gateway.metrics.additions
          (server.gateway.askBreaker input.now sent).2.metrics)
        { server with
          gateway := (server.gateway.askBreaker input.now sent).2 }
  | attempt (sent : KvRequest) (attempt : UInt64) :
      Turns server input request started
        (.executing sent (.attempting attempt)) []
        (.executing sent (server.gateway.attempt sent attempt).1)
        (sent.clusterOperation.additions server.gateway.cluster)
        { server with gateway := (server.gateway.attempt sent attempt).2 }
  | record (sent : KvRequest) (attempt : UInt64)
      (result : OperationResult) :
      Turns server input request started
        (.executing sent (.called attempt result)) []
        (.executing sent
          (server.gateway.record input.now sent attempt result).1)
        (server.gateway.metrics.additions
          (server.gateway.record input.now sent attempt result).2.metrics)
        { server with
          gateway :=
            (server.gateway.record input.now sent attempt result).2 }
  | executed (sent : KvRequest) (response : HttpResponse) :
      Turns server input request started
        (.executing sent (.answered response)) []
        (.recording (microseconds (input.now - started)) response) []
        (server.count .requests)
  | threw (sent : KvRequest) (error : KvError) :
      Turns server input request started (.executing sent (.threw error)) []
        (.answered (errorResponse error.what)) [] server
  | administered (action : AdminAction) :
      Turns server input request started (.administering action) []
        (.finishing
          (action.response (action.call server.gateway.cluster).result))
        (action.operation.additions server.gateway.cluster)
        { server with
          gateway :=
            { server.gateway with
              cluster := (action.call server.gateway.cluster).state } }
  | report (shards : List Bytes) (inRange : shards.length < shardCount) :
      Turns server input request started (.reporting shards) []
        (.reporting
          (shards ++
            [(server.gateway.cluster.shards
              ⟨shards.length, inRange⟩).statusJson]))
        [] server
  | reported (shards : List Bytes) :
      shardCount ≤ shards.length →
      Turns server input request started (.reporting shards) []
        (.finishing (jsonResponse 200 (clusterStatusJson shardCount shards)))
        [] server
  | load (loaded : List UInt64) (counter : Counter) :
      Counter.loaded[loaded.length]? = some counter →
      Turns server input request started (.scraping loaded) []
        (.scraping (loaded ++ [server.counters counter])) [] server
  | scraped (loaded : List UInt64) :
      Counter.loaded[loaded.length]? = none →
      Turns server input request started (.scraping loaded) []
        (.finishing
          (metricsResponse fun counter =>
            loaded.getD (Counter.loaded.idxOf counter) 0))
        [] server
  | finish (response : HttpResponse) :
      Turns server input request started (.finishing response) []
        (.recording (microseconds (input.now - started)) response) []
        (server.count .requests)
  | recorded (elapsed : Int) (response : HttpResponse) :
      Turns server input request started (.recording elapsed response) []
        (.answered (finished elapsed response)) []
        { server with
          counters :=
            server.counters.fetchAdd .requestLatencyUs
              (UInt64.ofInt elapsed) }

/-- What a function of `handle` does to a thread at a stage. -/
private abbrev Takes
    (server : Server shardCount replicaCount) (input : TurnInput)
    (request : HttpRequest) (started : Int) (stage : Stage)
    (turned : Turned shardCount replicaCount) : Prop :=
  Turns server input request started stage [] turned.stage turned.counting
    turned.server

private theorem takes_check
    (server : Server shardCount replicaCount) (input : TurnInput)
    (request : HttpRequest) (started : Int) :
    Takes server input request started .received (server.check request) := by
  unfold Server.check
  by_cases healthz : request.path = bytes "/healthz"
  · rw [if_pos healthz]
    exact .healthy healthz
  rw [if_neg healthz]
  by_cases metrics : request.path = bytes "/metrics"
  · rw [if_pos metrics]
    exact .scrape metrics
  rw [if_neg metrics]
  by_cases unauthorized : authorized server.apiKey request = false
  · rw [if_pos unauthorized]
    exact .unauthorized ⟨healthz, metrics⟩ unauthorized
  · rw [if_neg unauthorized]
    exact .authorized
      ⟨⟨healthz, metrics⟩, Bool.eq_true_of_not_eq_false unauthorized⟩

private theorem takes_limit
    (server : Server shardCount replicaCount) (input : TurnInput)
    (request : HttpRequest) (started : Int) :
    Takes server input request started .authorized
      (server.limit input request) := by
  unfold Server.limit
  cases allowed :
      (server.limiter.allowedByRateLimit (input.limited request)).1 with
  | true =>
      simp only [allowed, if_true]
      exact .admitted allowed
  | false =>
      simp only [allowed, Bool.false_eq_true, if_false]
      exact .limited allowed

private theorem takes_dispatch
    (server : Server shardCount replicaCount) (input : TurnInput)
    (request : HttpRequest) (started : Int) :
    Takes server input request started .admitted
      (server.dispatch request) := by
  unfold Server.dispatch
  cases routed : route request with
  | respond response =>
      exact .respond response routed
  | execute sent =>
      exact .execute sent routed
  | administer action =>
      exact .administer action routed
  | status =>
      exact .status routed

private theorem takes_report
    (server : Server shardCount replicaCount) (input : TurnInput)
    (request : HttpRequest) (started : Int) (shards : List Bytes) :
    Takes server input request started (.reporting shards)
      (server.report shards) := by
  unfold Server.report
  split
  case isTrue inRange =>
    exact .report shards inRange
  case isFalse outOfRange =>
    exact .reported shards (not_lt.mp outOfRange)

private theorem takes_scrape
    (server : Server shardCount replicaCount) (input : TurnInput)
    (request : HttpRequest) (started : Int) (loaded : List UInt64) :
    Takes server input request started (.scraping loaded)
      (server.scrape loaded) := by
  unfold Server.scrape
  cases next : Counter.loaded[loaded.length]? with
  | some counter =>
      exact .load loaded counter next
  | none =>
      exact .scraped loaded next

/-- What a turn does. -/
theorem Server.turns
    (server : Server shardCount replicaCount) (input : TurnInput)
    (thread : ServerThread) (active : thread.stage.Active) :
    Turns server input thread.request thread.started thread.stage
      thread.counting (server.turn input thread).stage
      (server.turn input thread).counting
      (server.turn input thread).server := by
  obtain ⟨request, started, stage, counting⟩ := thread
  cases counting with
  | cons counter rest =>
      exact .count stage counter rest active
  | nil =>
      cases stage with
      | received =>
          exact takes_check server input request started
      | authorized =>
          exact takes_limit server input request started
      | admitted =>
          exact takes_dispatch server input request started
      | entering sent =>
          exact .ask sent
      | executing sent progress =>
          cases progress with
          | attempting attempt =>
              exact .attempt sent attempt
          | called attempt result =>
              exact .record sent attempt result
          | answered response =>
              exact .executed sent response
          | threw error =>
              exact .threw sent error
      | administering action =>
          exact .administered action
      | reporting shards =>
          exact takes_report server input request started shards
      | scraping loaded =>
          exact takes_scrape server input request started loaded
      | finishing response =>
          exact .finish response
      | recording elapsed response =>
          exact .recorded elapsed response
      | answered response =>
          exact active.elim

/-- What a step of the server does: a request arrives, or a thread turns. -/
theorem ServerStep.cases
    {state next : ServerState shardCount replicaCount} {label : ServerLabel}
    (step : ServerStep state label next) :
    (∃ request now,
      label = .request state.threads.length request now ∧
        next = state.receive request now) ∨
      ∃ index input thread stage counting server,
        state.threads[index]? = some thread ∧
          Turns state.server input thread.request thread.started thread.stage
            thread.counting stage counting server ∧
          label =
            .turn
              { index := index
                input := input
                thread := thread
                next := stage
                performed :=
                  state.server.performed thread.stage thread.counting } ∧
          next =
            { server := server
              threads :=
                state.threads.set index
                  { thread with stage := stage, counting := counting } } := by
  cases step with
  | request request now =>
      exact Or.inl ⟨request, now, rfl, rfl⟩
  | turn index input thread found active =>
      exact Or.inr
        ⟨index, input, thread, _, _, _, found,
          state.server.turns input thread active, rfl, rfl⟩

/-! ## Schedules -/

instance (stage : Stage) : Decidable stage.Active :=
  match stage with
  | .answered _ => isFalse id
  | .received => isTrue trivial
  | .authorized => isTrue trivial
  | .admitted => isTrue trivial
  | .entering _ => isTrue trivial
  | .executing _ _ => isTrue trivial
  | .administering _ => isTrue trivial
  | .reporting _ => isTrue trivial
  | .scraping _ => isTrue trivial
  | .finishing _ => isTrue trivial
  | .recording _ _ => isTrue trivial

/-- What happens next. -/
inductive Scheduled where
  | request (request : HttpRequest) (now : Int)
  | turn (index : Nat) (input : TurnInput)

/-- The step that is scheduled, if the thread can take it. -/
def ServerState.take
    (state : ServerState shardCount replicaCount) :
    Scheduled → Option (ServerLabel × ServerState shardCount replicaCount)
  | .request request now =>
      some (.request state.threads.length request now,
        state.receive request now)
  | .turn index input =>
      match state.threads[index]? with
      | none => none
      | some thread =>
          if thread.stage.Active then
            some
              (.turn
                { index := index
                  input := input
                  thread := thread
                  next := (state.server.turn input thread).stage
                  performed :=
                    state.server.performed thread.stage thread.counting },
                state.advance index input thread)
          else
            none

/-- The run of a schedule. -/
def ServerState.follow :
    List Scheduled → ServerState shardCount replicaCount →
      Option (List ServerLabel × ServerState shardCount replicaCount)
  | [], state => some ([], state)
  | scheduled :: rest, state => do
      let (label, next) ← state.take scheduled
      let (labels, last) ← next.follow rest
      return (label :: labels, last)

theorem ServerState.take_step
    {state next : ServerState shardCount replicaCount} {label : ServerLabel}
    {scheduled : Scheduled}
    (taken : state.take scheduled = some (label, next)) :
    ServerStep state label next := by
  cases scheduled with
  | request request now =>
      cases taken
      exact .request state request now
  | turn index input =>
      unfold ServerState.take at taken
      cases found : state.threads[index]? with
      | none =>
          simp only [found] at taken
          cases taken
      | some thread =>
          simp only [found] at taken
          by_cases active : thread.stage.Active
          · rw [if_pos active] at taken
            cases taken
            exact .turn index input thread found active
          · rw [if_neg active] at taken
            cases taken

/-- A schedule is a run from the state it begins in. -/
theorem ServerState.run_follow
    {schedule : List Scheduled} {labels : List ServerLabel}
    {state next : ServerState shardCount replicaCount}
    (follows : state.follow schedule = some (labels, next)) :
    Run (fun start => start = state) ServerStep labels next := by
  induction schedule generalizing labels state with
  | nil =>
      cases follows
      exact .initial rfl
  | cons scheduled rest inductionHypothesis =>
      obtain ⟨⟨label, between⟩, taken, continued⟩ :=
        Option.bind_eq_some_iff.mp follows
      obtain ⟨⟨labels, last⟩, followed, same⟩ :=
        Option.bind_eq_some_iff.mp continued
      cases same
      have nothing :
          Run (fun start => start = state) ServerStep [] state :=
        .initial rfl
      have first := nothing.extend (ServerState.take_step taken)
      exact first.append (inductionHypothesis followed)

/-- A request with a bearer token and no other header. -/
def HttpRequest.bearing
    (apiKey method path : String) (body : Bytes) : HttpRequest where
  method := bytes method
  path := bytes path
  version := bytes "HTTP/1.1"
  headers :=
    (∅ : HeaderMap).insert (bytes "authorization")
      (bytes "Bearer " ++ bytes apiKey)
  body := body
  remoteIp := bytes "127.0.0.1"

/-- The status of a thread that has answered. -/
def ServerThread.status (thread : ServerThread) : Option Nat :=
  match thread.stage with
  | .answered response => some response.status
  | _ => none

theorem ServerThread.answered_of_status
    {threads : List ServerThread} {index status : Nat}
    (isStatus : threads[index]?.bind ServerThread.status = some status) :
    ∃ thread response,
      threads[index]? = some thread ∧ thread.stage = .answered response ∧
        response.status = status := by
  obtain ⟨thread, found, same⟩ := Option.bind_eq_some_iff.mp isStatus
  obtain ⟨request, started, stage, counting⟩ := thread
  cases stage with
  | answered response =>
      exact ⟨_, response, found, rfl, Option.some.inj same⟩
  | _ =>
      cases same

/-- A schedule that leads where it should is a run. -/
theorem ServerRun.of_schedule
    (settings : Settings) (schedule : List Scheduled)
    (Leads :
      List ServerLabel → ServerState shardCount replicaCount → Bool)
    (leads :
      ((ServerState.initial shardCount replicaCount settings).follow
        schedule).any (fun reached => Leads reached.1 reached.2) = true) :
    ∃ labels state,
      ServerRun settings labels state ∧ Leads labels state = true := by
  obtain ⟨⟨labels, state⟩, follows, holds⟩ :=
    (Option.any_eq_true _ _).mp leads
  exact ⟨labels, state, ServerState.run_follow follows, holds⟩

example :
    ((ServerState.initial 1 1 ⟨bytes "s", 20, 40, 2⟩).follow
        ([.request (.bearing "s" "PUT" "/v1/kv/k" (bytes "v")) 0,
            .request (.bearing "s" "GET" "/v1/kv/k" []) 0] ++
          List.replicate 8 (.turn 0 {}) ++ List.replicate 8 (.turn 1 {}))).map
      (fun reached => reached.2.threads.map ServerThread.status) =
        some [some 201, some 200] := by
  decide +kernel

end Turns

end ShardedKvStore

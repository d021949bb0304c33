import ShardedKvStore.MetricsPage
import ShardedKvStore.Server.Availability
import ShardedKvStore.Shard.Leadership
import ShardedKvStore.StatusDocuments

/-!
# What status documents and metrics pages say

A thread that writes a status document asks one shard after the other, and a thread
that writes the page of metrics loads one counter after the other, while other
threads go on.  What they collect is from states of the run in which the request was
already there, in the order of the run.
-/

namespace ShardedKvStore

open Foundation

/-! ## A status of a shard -/

section Observations

variable {shardCount replicaCount : Nat} [NeZero shardCount]

/-! ## What a thread collects -/

/-- The document of the shard at a position, while a thread is there. -/
def ShardSeen
    (index position : Nat) (state : ServerState shardCount replicaCount)
    (document : Bytes) : Prop :=
  index < state.threads.length ∧
    ∃ inRange : position < shardCount,
      document =
        (state.server.gateway.cluster.shards
          ⟨position, inRange⟩).statusJson

/-- The value of the counter at a position, while a thread is there. -/
def CounterSeen
    (index position : Nat) (state : ServerState shardCount replicaCount)
    (value : UInt64) : Prop :=
  index < state.threads.length ∧
    ∃ counter,
      Counter.loaded[position]? = some counter ∧
        value = state.server.counters counter

/-- What a thread has collected in the runs of a server. -/
abbrev CollectedIn
    (shardCount replicaCount : Nat) [NeZero shardCount] {Value : Type}
    (settings : Settings)
    (Seen : Nat → ServerState shardCount replicaCount → Value → Prop) :
    List ServerLabel → List Value → Prop :=
  Collected
    (fun state => state = ServerState.initial shardCount replicaCount settings)
    ServerStep Seen

/-- The responses that are written from what was collected, and the others. -/
inductive Gathered
    (shardCount replicaCount : Nat) [NeZero shardCount]
    (settings : Settings) (index : Nat) (request : HttpRequest)
    (labels : List ServerLabel) : HttpResponse → Prop
  | page (loaded : List UInt64) :
      request.path = bytes "/metrics" →
      Counter.loaded.length ≤ loaded.length →
      CollectedIn shardCount replicaCount settings (CounterSeen index)
        labels loaded →
      Gathered shardCount replicaCount settings index request labels
        (metricsResponse fun counter =>
          loaded.getD (Counter.loaded.idxOf counter) 0)
  | status (shards : List Bytes) :
      request.Closed → shards.length = shardCount →
      CollectedIn shardCount replicaCount settings (ShardSeen index)
        labels shards →
      Gathered shardCount replicaCount settings index request labels
        (jsonResponse 200 (clusterStatusJson shardCount shards))
  | other (response : HttpResponse) :
      request.path ≠ bytes "/metrics" →
      (route request = .status → response.status ≠ 200) →
      Gathered shardCount replicaCount settings index request labels
        response

/-- What a thread has in its hands was collected in the run. -/
def Stage.Gathers
    (shardCount replicaCount : Nat) [NeZero shardCount]
    (settings : Settings) (index : Nat) (request : HttpRequest)
    (labels : List ServerLabel) : Stage → Prop
  | .reporting shards =>
      CollectedIn shardCount replicaCount settings (ShardSeen index) labels
        shards
  | .scraping loaded =>
      CollectedIn shardCount replicaCount settings (CounterSeen index)
        labels loaded
  | .finishing response =>
      Gathered shardCount replicaCount settings index request labels response
  | .recording _ response =>
      Gathered shardCount replicaCount settings index request labels response
  | .answered response =>
      ∃ elapsed reply,
        Gathered shardCount replicaCount settings index request labels
            reply ∧
          response = finished elapsed reply
  | _ => True

variable {settings : Settings} {index : Nat} {request : HttpRequest}
  {earlier labels : List ServerLabel}
  {state : ServerState shardCount replicaCount}

theorem Gathered.later
    {response : HttpResponse}
    (gathered :
      Gathered shardCount replicaCount settings index request earlier
        response)
    (isPrefix : earlier <+: labels) :
    Gathered shardCount replicaCount settings index request labels
      response := by
  cases gathered with
  | page loaded isPath complete collected =>
      exact .page loaded isPath complete (collected.later isPrefix)
  | status shards closed complete collected =>
      exact .status shards closed complete (collected.later isPrefix)
  | other response otherPath otherRoute =>
      exact .other response otherPath otherRoute

theorem Stage.Gathers.later
    {stage : Stage}
    (gathers :
      stage.Gathers shardCount replicaCount settings index request earlier)
    (isPrefix : earlier <+: labels) :
    stage.Gathers shardCount replicaCount settings index request labels := by
  cases stage with
  | reporting shards =>
      exact Collected.later gathers isPrefix
  | scraping loaded =>
      exact Collected.later gathers isPrefix
  | finishing response =>
      exact Gathered.later gathers isPrefix
  | recording elapsed response =>
      exact Gathered.later gathers isPrefix
  | answered response =>
      obtain ⟨elapsed, reply, gathered, same⟩ := gathers
      exact ⟨elapsed, reply, gathered.later isPrefix, same⟩
  | _ =>
      trivial

/-- What a turn adds to what a thread has in its hands. -/
theorem Turns.gathers
    {input : TurnInput} {started : Int} {stage stage' : Stage}
    {counting counting' : List Counter} {server : Server shardCount replicaCount}
    (run : ServerRun settings labels state)
    (present : index < state.threads.length)
    (follows :
      stage.Follows shardCount replicaCount settings.apiKey request)
    (gathers :
      stage.Gathers shardCount replicaCount settings index request labels)
    (turned :
      Turns state.server input request started stage counting stage'
        counting' server) :
    stage'.Gathers shardCount replicaCount settings index request labels := by
  cases turned with
  | count _ _ _ _ =>
      exact gathers
  | healthy isPath =>
      apply Gathered.other
      · rw [isPath]
        decide
      · intro routed
        rw [(route_status_iff.mp routed).1] at isPath
        exact absurd isPath (by decide)
  | scrape _ =>
      exact .nothing labels
  | unauthorized closed _ =>
      exact .other _ closed.2 fun _ => by decide
  | limited _ =>
      exact .other _ follows.1.2 fun _ => by decide
  | respond response routed =>
      apply Gathered.other _ follows.1.2
      rw [routed]
      nofun
  | status _ =>
      exact .nothing labels
  | executed sent response =>
      obtain ⟨trusted, routed, _⟩ := follows
      apply Gathered.other response trusted.1.2
      rw [routed]
      nofun
  | threw sent error =>
      obtain ⟨_, _, never⟩ := follows
      exact never.elim
  | administered action =>
      obtain ⟨trusted, routed⟩ := follows
      apply Gathered.other _ trusted.1.2
      rw [routed]
      nofun
  | report shards inRange =>
      exact .next gathers run ⟨present, inRange, rfl⟩ List.prefix_rfl
  | reported shards complete =>
      obtain ⟨trusted, _, inRange, _⟩ := follows
      exact
        .status shards trusted.1 (le_antisymm inRange complete) gathers
  | load loaded counter next =>
      exact
        .next gathers run ⟨present, counter, next, rfl⟩ List.prefix_rfl
  | scraped loaded complete =>
      exact
        .page loaded follows (List.getElem?_eq_none_iff.mp complete) gathers
  | finish response =>
      exact gathers
  | recorded elapsed response =>
      exact ⟨elapsed, response, gathers, rfl⟩
  | _ =>
      trivial

/-- In every run, what the threads have in their hands was collected in it. -/
theorem ServerRun.gathers
    (positive : 0 < replicaCount) (run : ServerRun settings labels state)
    {thread : ServerThread} (found : state.threads[index]? = some thread) :
    thread.stage.Gathers shardCount replicaCount settings index
      thread.request labels := by
  induction run generalizing index thread with
  | initial started =>
      subst started
      cases found
  | @extend labels state next label before step inductionHypothesis =>
      have isPrefix : labels <+: labels ++ [label] :=
        List.prefix_append labels [label]
      rcases step.cases with
        ⟨request, now, _, rfl⟩ |
          ⟨_, _, turning, _, _, _, isTurning, turned, _, rfl⟩
      · rcases getElem?_concat_iff.mp found with old | ⟨rfl, rfl⟩
        · exact (inductionHypothesis old).later isPrefix
        · trivial
      · rcases (getElem?_set_iff isTurning).mp found with
          ⟨rfl, rfl⟩ | ⟨_, old⟩
        · obtain ⟨present, _⟩ := List.getElem?_eq_some_iff.mp isTurning
          have follows := ServerRun.follows positive before isTurning
          have gathers :=
            turned.gathers before present follows
              (inductionHypothesis isTurning)
          exact gathers.later isPrefix
        · exact (inductionHypothesis old).later isPrefix

/-! ## What is answered -/

theorem Counter.mem_loaded (counter : Counter) :
    counter ∈ Counter.loaded := by
  cases counter <;> decide

/-- The samples of a page are values that the counters had in states of the run in
which the request was already there, in the order in which they are loaded. -/
structure PageReport
    (shardCount replicaCount : Nat) [NeZero shardCount]
    (settings : Settings) (index : Nat) (labels : List ServerLabel)
    (page : Bytes) (value : Counters)
    (moments : Counter → List ServerLabel) : Prop where
  samples : readSamples page = some (samplesOf value)
  loaded :
    ∀ counter,
      ∃ state : ServerState shardCount replicaCount,
        ServerRun settings (moments counter) state ∧
          index < state.threads.length ∧
          value counter = state.server.counters counter
  isPrefix : ∀ counter, moments counter <+: labels
  ordered :
    ∀ first second,
      Counter.loaded.idxOf first ≤ Counter.loaded.idxOf second →
      moments first <+: moments second

/-- The pages of metrics of every run are reports. -/
theorem Server.pages_report_counters
    (positive : 0 < replicaCount) (run : ServerRun settings labels state)
    {thread : ServerThread} {response : HttpResponse}
    (found : state.threads[index]? = some thread)
    (path : thread.request.path = bytes "/metrics")
    (answered : thread.stage = .answered response) :
    response.status = 200 ∧
      ∃ (value : Counters) (moments : Counter → List ServerLabel),
        PageReport shardCount replicaCount settings index labels
          response.body value moments := by
  have gathers := run.gathers positive found
  rw [answered] at gathers
  obtain ⟨elapsed, reply, gathered, rfl⟩ := gathers
  cases gathered with
  | status _ closed =>
      exact absurd path closed.2
  | other _ otherPath =>
      exact absurd path otherPath
  | page loaded _ complete collected =>
      obtain ⟨moments, were, ordered⟩ := collected.moments
      have inside (counter : Counter) :
          Counter.loaded.idxOf counter < loaded.length :=
        lt_of_lt_of_le (List.idxOf_lt_length_of_mem counter.mem_loaded)
          complete
      let value (counter : Counter) : UInt64 :=
        loaded.getD (Counter.loaded.idxOf counter) 0
      have isBody :
          (finished elapsed (metricsResponse value)).body =
            renderPrometheus value :=
        rfl
      refine
        ⟨rfl, value,
          fun counter => moments (Counter.loaded.idxOf counter), ?_⟩
      have each (counter : Counter) :
          moments (Counter.loaded.idxOf counter) <+: labels ∧
            ∃ state : ServerState shardCount replicaCount,
              ServerRun settings (moments (Counter.loaded.idxOf counter))
                  state ∧
                index < state.threads.length ∧
                value counter = state.server.counters counter := by
        have isLoaded := List.getElem?_eq_getElem (inside counter)
        obtain ⟨isPrefix, earlier, before, present, other, same, isValue⟩ :=
          were _ _ isLoaded
        have own :
            Counter.loaded[Counter.loaded.idxOf counter]? = some counter := by
          cases counter <;> rfl
        obtain rfl := Option.some.inj (own.symm.trans same)
        refine ⟨isPrefix, earlier, before, present, ?_⟩
        change loaded.getD (Counter.loaded.idxOf counter) 0 = _
        rw [← isValue, List.getD_eq_getElem?_getD, isLoaded]
        rfl
      constructor
      · rw [isBody]
        exact readSamples_renderPrometheus value
      · exact fun counter => (each counter).2
      · exact fun counter => (each counter).1
      · intro first second notAfter
        apply ordered
        · exact notAfter
        · exact inside second

/-- The body that a thread has answered. -/
def ServerThread.body (thread : ServerThread) : Option Bytes :=
  match thread.stage with
  | .answered response => some response.body
  | _ => none

/-- Another request is refused.  The page has it among the requests, but not its
latency, which is added when the sum was loaded already. -/
theorem Server.page_between_additions :
    ∃ (labels : List ServerLabel) (state : ServerState 1 1)
      (thread : ServerThread) (response : HttpResponse),
      ServerRun ⟨bytes "s", 20, 40, 2⟩ labels state ∧
        state.threads.map ServerThread.status = [some 200, some 401] ∧
        state.server.counters .requestLatencyUs = 5 ∧
        state.threads[0]? = some thread ∧
        thread.stage = .answered response ∧
        response.body =
          (renderPrometheus fun counter =>
            if counter ∈ [.requests, .authFailures, .elections] then 1
            else 0) ∧
        response.status = 200 ∧
        ∃ (value : Counters) (moments : Counter → List ServerLabel),
          PageReport 1 1 ⟨bytes "s", 20, 40, 2⟩ 0 labels response.body value
            moments := by
  obtain ⟨labels, state, run, holds⟩ :=
    ServerRun.of_schedule ⟨bytes "s", 20, 40, 2⟩
      ([.request (.bearing "s" "GET" "/metrics" []) 0,
          .request (.bearing "t" "GET" "/v1/kv/k" []) 0] ++
        List.replicate 2 (.turn 1 { now := 5000 }) ++
        List.replicate 3 (.turn 0 {}) ++ [.turn 1 {}] ++
        List.replicate 13 (.turn 0 {}))
      (fun _ (state : ServerState 1 1) =>
        decide
          (state.threads.map ServerThread.status = [some 200, some 401] ∧
            state.server.counters .requestLatencyUs = 5 ∧
            state.threads[0]?.bind ServerThread.status = some 200 ∧
            state.threads[0]?.map (fun thread => thread.request.path) =
              some (bytes "/metrics") ∧
            state.threads[0]?.bind ServerThread.body =
              some
                (renderPrometheus fun counter =>
                  if counter ∈ [.requests, .authFailures, .elections] then 1
                  else 0)))
      (by decide +kernel)
  obtain ⟨statuses, latency, isStatus, isRequest, isBody⟩ :=
    of_decide_eq_true holds
  obtain ⟨thread, response, found, answered, _⟩ :=
    ServerThread.answered_of_status isStatus
  rw [found] at isRequest isBody
  have path := Option.some.inj isRequest
  simp only [Option.bind_some, ServerThread.body, answered] at isBody
  exact
    ⟨labels, state, thread, response, run, statuses, latency, found, answered,
      Option.some.inj isBody,
      pages_report_counters (by decide) run found path answered⟩

end Observations

end ShardedKvStore

import ShardedKvStore.Server.Counting

/-!
# Requests without the bearer token

A request that is not authorized, or is for one of the open paths, has no part in
what happens to the others: without it the gateway, the rate limits and every
other thread would be the same.
-/

namespace ShardedKvStore

open Foundation

section Mediation

variable {shardCount replicaCount : Nat}

/-- The counters that every request may add to. -/
def Counter.ofRequests : List Counter :=
  [.requests, .requestLatencyUs, .authFailures]

/-- Two servers that differ in the counters of the requests only. -/
structure Server.Agrees (server server' : Server shardCount replicaCount) :
    Prop where
  gateway : server'.gateway = server.gateway
  apiKey : server'.apiKey = server.apiKey
  limiter : server'.limiter = server.limiter
  counters :
    ∀ counter ∉ Counter.ofRequests,
      server'.counters counter = server.counters counter

namespace Server.Agrees

variable {server server' : Server shardCount replicaCount}
  {request : HttpRequest} {input : TurnInput}

theorem refl (server : Server shardCount replicaCount) :
    server.Agrees server :=
  ⟨rfl, rfl, rfl, fun _ _ => rfl⟩

theorem trans
    {middle : Server shardCount replicaCount}
    (first : server.Agrees middle) (second : middle.Agrees server') :
    server.Agrees server' where
  gateway := second.gateway.trans first.gateway
  apiKey := second.apiKey.trans first.apiKey
  limiter := second.limiter.trans first.limiter
  counters := fun counter other =>
    (second.counters counter other).trans (first.counters counter other)

/-- The same is added in both servers. -/
theorem fetchAdd
    (agrees : server.Agrees server') (added : Counter) (amount : UInt64) :
    Server.Agrees
      { server with counters := server.counters.fetchAdd added amount }
      { server' with
        counters := server'.counters.fetchAdd added amount } where
  gateway := agrees.gateway
  apiKey := agrees.apiKey
  limiter := agrees.limiter
  counters := by
    intro counter other
    have same := agrees.counters counter other
    by_cases isAdded : counter = added
    · subst isAdded
      simp [Counters.fetchAdd, same]
    · simpa [Counters.fetchAdd, isAdded] using same

/-- What is added to a counter of the requests is not seen. -/
theorem of_fetchAdd
    {added : Counter} (amount : UInt64) (member : added ∈ Counter.ofRequests) :
    Server.Agrees
      { server with counters := server.counters.fetchAdd added amount }
      server where
  gateway := rfl
  apiKey := rfl
  limiter := rfl
  counters := by
    intro counter other
    have different : counter ≠ added := by
      rintro rfl
      exact other member
    exact (server.counters.fetchAdd_of_ne amount different).symm

variable [NeZero shardCount]

private theorem proceed
    (agrees : server.Agrees server') {thread : ServerThread}
    (noScrape : ∀ loaded, thread.stage ≠ .scraping loaded) :
    (server'.proceed input thread).stage =
        (server.proceed input thread).stage ∧
      (server'.proceed input thread).counting =
        (server.proceed input thread).counting ∧
      (server.proceed input thread).server.Agrees
        (server'.proceed input thread).server ∧
      server'.performed thread.stage [] =
        server.performed thread.stage [] := by
  obtain ⟨request, started, stage, counting⟩ := thread
  obtain ⟨gateway, apiKey, limiter, counters⟩ := server
  obtain ⟨gateway', apiKey', limiter', counters'⟩ := server'
  have same := agrees
  obtain
    ⟨(rfl : gateway' = gateway), (rfl : apiKey' = apiKey),
      (rfl : limiter' = limiter), sameCounters⟩ :=
    agrees
  cases stage with
  | received =>
      simp only [Server.proceed, Server.check]
      by_cases healthz : request.path = bytes "/healthz"
      · simp only [if_pos healthz]
        exact ⟨trivial, trivial, same, rfl⟩
      by_cases scrape : request.path = bytes "/metrics"
      · simp only [if_neg healthz, if_pos scrape]
        exact ⟨trivial, trivial, same, rfl⟩
      by_cases unauthorized : authorized apiKey' request = false
      · simp only [if_neg healthz, if_neg scrape, if_pos unauthorized]
        exact ⟨trivial, trivial, same.fetchAdd .authFailures 1, rfl⟩
      · simp only [if_neg healthz, if_neg scrape, if_neg unauthorized]
        exact ⟨trivial, trivial, same, rfl⟩
  | authorized =>
      simp only [Server.proceed, Server.limit]
      cases (limiter'.allowedByRateLimit (input.limited request)).1 with
      | _ =>
          exact ⟨rfl, rfl, ⟨rfl, rfl, rfl, sameCounters⟩, rfl⟩
  | admitted =>
      simp only [Server.proceed, Server.dispatch]
      cases route request with
      | execute sent =>
          exact ⟨rfl, rfl, same.fetchAdd sent.operation.counter 1, rfl⟩
      | _ =>
          exact ⟨rfl, rfl, same, rfl⟩
  | executing sent progress =>
      cases progress with
      | answered response =>
          exact ⟨rfl, rfl, same.fetchAdd .requests 1, rfl⟩
      | _ =>
          exact ⟨rfl, rfl, ⟨rfl, rfl, rfl, sameCounters⟩, rfl⟩
  | reporting shards =>
      simp only [Server.proceed, Server.report]
      by_cases inRange : shards.length < shardCount
      · simp only [dif_pos inRange]
        exact ⟨trivial, trivial, same, rfl⟩
      · simp only [dif_neg inRange]
        exact ⟨trivial, trivial, same, rfl⟩
  | scraping loaded =>
      exact absurd rfl (noScrape loaded)
  | finishing response =>
      exact ⟨rfl, rfl, same.fetchAdd .requests 1, rfl⟩
  | recording elapsed response =>
      exact
        ⟨rfl, rfl,
          same.fetchAdd .requestLatencyUs (UInt64.ofInt elapsed), rfl⟩
  | _ =>
      exact ⟨rfl, rfl, ⟨rfl, rfl, rfl, sameCounters⟩, rfl⟩

/-- Agreeing servers do the same in a turn of a thread that scrapes nothing. -/
theorem turn
    (agrees : server.Agrees server') {thread : ServerThread}
    (noScrape : ∀ loaded, thread.stage ≠ .scraping loaded) :
    (server'.turn input thread).stage = (server.turn input thread).stage ∧
      (server'.turn input thread).counting =
        (server.turn input thread).counting ∧
      (server.turn input thread).server.Agrees
        (server'.turn input thread).server ∧
      server'.performed thread.stage thread.counting =
        server.performed thread.stage thread.counting := by
  obtain ⟨request, started, stage, counting⟩ := thread
  cases counting with
  | nil =>
      exact agrees.proceed noScrape
  | cons counter rest =>
      exact ⟨rfl, rfl, agrees.fetchAdd counter 1, rfl⟩

/-- A turn of a thread whose request is not trusted. -/
theorem of_untrusted
    {settings : Settings} {labels : List ServerLabel}
    {state : ServerState shardCount replicaCount} {started : Int}
    {stage stage' : Stage} {counting : List Counter}
    {next : Server shardCount replicaCount}
    (run : ServerRun settings labels state)
    (untrusted : ¬ request.Trusted settings.apiKey)
    (follows :
      stage.Follows shardCount replicaCount settings.apiKey request)
    (turned :
      Turns state.server input request started stage [] stage' counting
        next) :
    counting = [] ∧ next.Agrees state.server ∧
      state.server.performed stage [] = none := by
  cases turned with
  | healthy _ =>
      exact ⟨rfl, .refl _, rfl⟩
  | scrape _ =>
      exact ⟨rfl, .refl _, rfl⟩
  | unauthorized _ _ =>
      exact ⟨rfl, .of_fetchAdd 1 (by decide), rfl⟩
  | authorized trusted =>
      rw [run.apiKey_eq] at trusted
      exact absurd trusted untrusted
  | admitted _ =>
      exact absurd follows untrusted
  | limited _ =>
      exact absurd follows untrusted
  | respond response _ =>
      exact absurd follows untrusted
  | execute sent _ =>
      exact absurd follows untrusted
  | administer action _ =>
      exact absurd follows untrusted
  | status _ =>
      exact absurd follows untrusted
  | load loaded counter _ =>
      exact ⟨rfl, .refl _, rfl⟩
  | scraped loaded _ =>
      exact ⟨rfl, .refl _, rfl⟩
  | finish response =>
      exact ⟨rfl, .of_fetchAdd 1 (by decide), rfl⟩
  | recorded elapsed response =>
      exact ⟨rfl, .of_fetchAdd _ (by decide), rfl⟩
  | _ =>
      exact absurd follows.1 untrusted

end Server.Agrees

/-! ## Runs -/

variable [NeZero shardCount]

/-- A thread whose request is not trusted has nothing to count. -/
theorem ServerRun.counting_eq_nil
    {settings : Settings} {labels : List ServerLabel}
    {state : ServerState shardCount replicaCount}
    (positive : 0 < replicaCount) (run : ServerRun settings labels state)
    {index : Nat} {thread : ServerThread}
    (found : state.threads[index]? = some thread)
    (untrusted : ¬ thread.request.Trusted settings.apiKey) :
    thread.counting = [] := by
  refine
    ServerRun.forall_threads
      (fun request _ _ counting =>
        ¬ request.Trusted settings.apiKey → counting = [])
      (fun _ _ => rfl) ?_ run found untrusted
  intro labels state index input thread stage counting server turns earlier
    isThread nothing turned untrusted
  have follows := ServerRun.follows positive earlier isThread
  rw [nothing untrusted] at turned
  exact (Server.Agrees.of_untrusted earlier untrusted follows turned).1

/-- The threads whose requests are trusted. -/
def trustedThreads
    (apiKey : Bytes) (threads : List ServerThread) : List ServerThread :=
  threads.filter fun thread => decide (thread.request.Trusted apiKey)

theorem trustedThreads_set
    {apiKey : Bytes} {threads : List ServerThread} {index : Nat}
    {thread : ServerThread} (found : threads[index]? = some thread)
    (trusted : thread.request.Trusted apiKey) (stage : Stage)
    (counting : List Counter) :
    ∃ position : Nat,
      (trustedThreads apiKey threads)[position]? = some thread ∧
        trustedThreads apiKey
            (threads.set index
              { thread with stage := stage, counting := counting }) =
          (trustedThreads apiKey threads).set position
            { thread with stage := stage, counting := counting } :=
  filter_set_of_kept found (decide_eq_true trusted) (decide_eq_true trusted)

example :
    (trustedThreads (bytes "s")
        [⟨.bearing "t" "PUT" "/v1/kv/k" [], 0, .received, []⟩,
          ⟨.bearing "s" "GET" "/healthz" [], 0, .received, []⟩,
          ⟨.bearing "s" "GET" "/v1/kv/k" [], 0, .received, []⟩]).length =
      1 := by
  decide +kernel

/-- The run without the requests that are not trusted. -/
structure Without
    (settings : Settings) (labels : List ServerLabel)
    (state : ServerState shardCount replicaCount)
    (labels' : List ServerLabel)
    (state' : ServerState shardCount replicaCount) : Prop where
  run : ServerRun settings labels' state'
  threads : state'.threads = trustedThreads settings.apiKey state.threads
  agrees : state.server.Agrees state'.server
  performed : performedLabels labels' = performedLabels labels

private theorem Without.receive
    {settings : Settings} {labels labels' : List ServerLabel}
    {state state' : ServerState shardCount replicaCount}
    (without : Without settings labels state labels' state')
    (request : HttpRequest) (now : Int) :
    ∃ labels' state',
      Without settings
        (labels ++ [.request state.threads.length request now])
        (state.receive request now) labels' state' := by
  have unperformed (labels : List ServerLabel) (index : Nat) :
      performedLabels (labels ++ [.request index request now]) =
        performedLabels labels := by
    rw [performedLabels_concat, ServerLabel.performed, Option.toList_none,
      List.append_nil]
  by_cases trusted : request.Trusted settings.apiKey
  · refine
      ⟨_, _, without.run.extend (.request state' request now), ?_,
        without.agrees, ?_⟩
    · unfold ServerState.receive trustedThreads
      rw [List.filter_append, without.threads]
      simp [trustedThreads, trusted]
    · rw [unperformed, unperformed]
      exact without.performed
  · refine ⟨labels', state', without.run, ?_, without.agrees, ?_⟩
    · unfold ServerState.receive trustedThreads
      rw [List.filter_append, without.threads]
      simp [trustedThreads, trusted]
    · rw [unperformed]
      exact without.performed

private theorem Without.turn
    {settings : Settings} {labels labels' : List ServerLabel}
    {state state' : ServerState shardCount replicaCount} {index : Nat}
    {input : TurnInput} {thread : ServerThread}
    (positive : 0 < replicaCount) (run : ServerRun settings labels state)
    (without : Without settings labels state labels' state')
    (found : state.threads[index]? = some thread)
    (active : thread.stage.Active) :
    ∃ labels' state',
      Without settings
        (labels ++
          [.turn
            { index := index
              input := input
              thread := thread
              next := (state.server.turn input thread).stage
              performed :=
                state.server.performed thread.stage thread.counting }])
        (state.advance index input thread) labels' state' := by
  have follows :=
    ServerRun.follows positive run found
  by_cases trusted : thread.request.Trusted settings.apiKey
  · have noScrape (loaded : List UInt64) :
        thread.stage ≠ .scraping loaded := by
      intro scrapes
      rw [scrapes] at follows
      exact trusted.1.2 follows
    obtain ⟨sameStage, sameCounting, agrees, samePerformed⟩ :=
      without.agrees.turn noScrape
    obtain ⟨position, isThread, same⟩ :=
      trustedThreads_set found trusted (state.server.turn input thread).stage
        (state.server.turn input thread).counting
    rw [← without.threads] at isThread same
    have step := ServerStep.turn position input thread isThread active
    refine ⟨_, _, without.run.extend step, ?_, agrees, ?_⟩
    · unfold ServerState.advance
      rw [same, sameStage, sameCounting]
    · rw [performedLabels_concat, performedLabels_concat, without.performed]
      simp only [ServerLabel.performed, samePerformed]
  · have turned := state.server.turns input thread active
    rw [run.counting_eq_nil positive found trusted] at turned ⊢
    obtain ⟨_, agrees, unperformed⟩ :=
      Server.Agrees.of_untrusted run trusted follows turned
    refine ⟨labels', state', without.run, ?_, agrees.trans without.agrees, ?_⟩
    · rw [without.threads]
      exact
        (filter_set_of_dropped found (decide_eq_false trusted)
          (decide_eq_false trusted)).symm
    · rw [performedLabels_concat, ServerLabel.performed, unperformed,
        Option.toList_none, List.append_nil]
      exact without.performed

/-- Without the requests that are not trusted, the run has the same cluster,
breakers and rate limits, and answers the same to the requests that are. -/
theorem Server.untrusted_requests_have_no_part
    {settings : Settings} {labels : List ServerLabel}
    {state : ServerState shardCount replicaCount}
    (positive : 0 < replicaCount) (run : ServerRun settings labels state) :
    ∃ labels' state',
      ServerRun settings labels' state' ∧
        state'.threads =
          (state.threads.filter fun thread =>
            decide (thread.request.Trusted settings.apiKey)) ∧
        state.server.Agrees state'.server ∧
        performedLabels labels' = performedLabels labels := by
  have without :
      ∃ labels' state', Without settings labels state labels' state' := by
    induction run with
    | initial started =>
        subst started
        exact ⟨[], _, .initial rfl, rfl, .refl _, rfl⟩
    | extend earlier step inductionHypothesis =>
        obtain ⟨labels', state', without⟩ := inductionHypothesis
        cases step with
        | request request now =>
            exact without.receive request now
        | turn index input thread found active =>
            exact without.turn positive earlier found active
  obtain ⟨labels', state', without⟩ := without
  exact
    ⟨labels', state', without.run, without.threads, without.agrees,
      without.performed⟩

/-- A write among requests with another token and to an open path. -/
theorem Server.write_among_untrusted :
    ∃ labels,
      ∃ state : ServerState 1 1,
        ServerRun ⟨bytes "s", 20, 40, 2⟩ labels state ∧
          state.threads.map ServerThread.status =
            [some 201, some 401, some 200] ∧
          ∃ labels' state',
            ServerRun ⟨bytes "s", 20, 40, 2⟩ labels' state' ∧
              state'.threads =
                (state.threads.filter fun thread =>
                  decide (thread.request.Trusted (bytes "s"))) ∧
              state.server.Agrees state'.server ∧
              performedLabels labels' = performedLabels labels := by
  obtain ⟨labels, state, run, answers⟩ :=
    ServerRun.of_schedule ⟨bytes "s", 20, 40, 2⟩
      ([.request (.bearing "s" "PUT" "/v1/kv/k" (bytes "v")) 0,
          .request (.bearing "t" "DELETE" "/v1/kv/k" []) 0,
          .request (.bearing "t" "GET" "/healthz" []) 0] ++
        List.replicate 3 (.turn 1 {}) ++ List.replicate 8 (.turn 0 {}) ++
        List.replicate 3 (.turn 2 {}))
      (fun _ (state : ServerState 1 1) =>
        decide
          (state.threads.map ServerThread.status =
            [some 201, some 401, some 200]))
      (by decide +kernel)
  exact
    ⟨labels, state, run, of_decide_eq_true answers,
      untrusted_requests_have_no_part (by decide) run⟩

end Mediation

end ShardedKvStore

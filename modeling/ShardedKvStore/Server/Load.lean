import ShardedKvStore.Server.Attempts

/-!
# The load of a client

A client pays one token of its bucket for a request, and a request costs at most
`max_retries + 1` calls of the cluster.  So the rate, the burst and the number of
retries bound what one client makes the cluster do in any window of a run, next to
what its requests that were under way when the window began have still to call.
-/

namespace ShardedKvStore

open Foundation

section Load

variable {shardCount replicaCount : Nat} [NeZero shardCount]

/-! ## Calls of a client -/

/-- A call of the cluster for a client. -/
def ServerLabel.loads (client : Bytes) : ServerLabel → Bool
  | .turn taken =>
      taken.performed.isSome && clientId taken.thread.request = client
  | .request _ _ _ => false

/-- How many calls of the cluster were made for a client. -/
def loadOf (client : Bytes) (labels : List ServerLabel) : Nat :=
  labels.countP (ServerLabel.loads client)

/-- A request of a client passes the rate limit. -/
def ServerLabel.admits (client : Bytes) : ServerLabel → Bool
  | .turn taken =>
      match taken.thread.stage, taken.next with
      | .authorized, .admitted => clientId taken.thread.request = client
      | _, _ => false
  | .request _ _ _ => false

/-- How many requests of a client have passed the rate limit. -/
def admissionsOf (client : Bytes) (labels : List ServerLabel) : Nat :=
  labels.countP (ServerLabel.admits client)

/-- The calls a thread may still make. -/
def Stage.callsLeft (maxRetries : UInt64) : Stage → Nat
  | .admitted => maxRetries.toNat + 1
  | .entering _ => maxRetries.toNat + 1
  | .executing _ (.attempting attempt) =>
      maxRetries.toNat + 1 - attempt.toNat
  | .executing _ (.called attempt _) => maxRetries.toNat - attempt.toNat
  | .administering _ => 1
  | _ => 0

/-- The request has passed the rate limit, and a call of it may be to come. -/
def Stage.underWay : Stage → Bool
  | .admitted => true
  | .entering _ => true
  | .executing _ (.attempting _) => true
  | .executing _ (.called _ _) => true
  | .administering _ => true
  | _ => false

/-- How many requests of a client are under way. -/
def underWayOf
    (client : Bytes) (state : ServerState shardCount replicaCount) : Nat :=
  state.threads.countP fun thread =>
    thread.stage.underWay && clientId thread.request = client

/-- The calls a thread may still make for a client. -/
def ServerThread.callsLeft
    (client : Bytes) (maxRetries : UInt64) (thread : ServerThread) : Nat :=
  if clientId thread.request = client then
    thread.stage.callsLeft maxRetries
  else
    0

/-- A turn makes one of the calls that were left, or lets the request pass. -/
private theorem Turns.callsLeft_le
    {settings : Settings} {server server' : Server shardCount replicaCount}
    {input : TurnInput} {request : HttpRequest} {started : Int}
    {stage stage' : Stage} {counting counting' : List Counter}
    {calls : List ClusterLabel}
    (notMax : settings.maxRetries + 1 ≠ 0)
    (sameRetries : server.gateway.maxRetries = settings.maxRetries)
    (spent : stage.Spent shardCount settings request calls)
    (turned :
      Turns server input request started stage counting stage' counting'
        server') :
    stage = .authorized ∧ stage' = .admitted ∨
      (server.performed stage counting).isSome.toNat +
          stage'.callsLeft settings.maxRetries ≤
        stage.callsLeft settings.maxRetries := by
  cases turned with
  | admitted _ =>
      exact Or.inl ⟨rfl, rfl⟩
  | ask sent =>
      right
      simp only [Gateway.askBreaker]
      split
      · simp [Server.performed, Stage.callsLeft]
      · simp [Server.performed, Stage.callsLeft]
  | attempt sent attempt =>
      right
      have atMost := spent.toNat_le notMax
      simp only [Gateway.attempt]
      split
      · simp only [Server.performed, Stage.callsLeft, Option.isSome_some,
          Bool.toNat_true]
        omega
      · simp only [Server.performed, Stage.callsLeft, Option.isSome_some,
          Bool.toNat_true]
        omega
  | record sent attempt result =>
      right
      obtain ⟨failures, failed, _⟩ := spent
      have atMost := failed.toNat_le notMax
      have small := toNat_succ_lt notMax
      simp only [Gateway.record, Gateway.finish, sameRetries]
      split
      · simp [Server.performed, Stage.callsLeft]
      · split
        case isTrue again =>
          rw [UInt64.le_iff_toNat_le, UInt64.toNat_add] at again
          simp only [UInt64.reduceToNat] at again
          simp only [Server.performed, Stage.callsLeft, UInt64.toNat_add,
            UInt64.reduceToNat, Option.isSome_none, Bool.toNat_false]
          omega
        case isFalse ended =>
          simp [Server.performed, Stage.callsLeft]
  | _ =>
      right
      simp [Server.performed, Stage.callsLeft]

/-- A turn of a thread pays for the calls of its client. -/
private theorem Turns.paid
    {settings : Settings} {server server' : Server shardCount replicaCount}
    {input : TurnInput} {thread : ServerThread} {stage : Stage}
    {counting : List Counter} {calls : List ClusterLabel} (index : Nat)
    (client : Bytes)
    (notMax : settings.maxRetries + 1 ≠ 0)
    (sameRetries : server.gateway.maxRetries = settings.maxRetries)
    (spent : thread.stage.Spent shardCount settings thread.request calls)
    (turned :
      Turns server input thread.request thread.started thread.stage
        thread.counting stage counting server')
    {taken : Turn}
    (isTaken :
      taken =
        { index := index
          input := input
          thread := thread
          next := stage
          performed := server.performed thread.stage thread.counting }) :
    loadOf client [.turn taken] +
        ServerThread.callsLeft client settings.maxRetries
          { thread with stage := stage, counting := counting } ≤
      (settings.maxRetries.toNat + 1) * admissionsOf client [.turn taken] +
        thread.callsLeft client settings.maxRetries := by
  subst isTaken
  unfold loadOf admissionsOf ServerThread.callsLeft
  simp only [List.countP_singleton, ServerLabel.loads, ServerLabel.admits]
  by_cases own : clientId thread.request = client
  · simp only [own, if_true, decide_true, Bool.and_true]
    rcases turned.callsLeft_le notMax sameRetries spent with
      ⟨before, after⟩ | atMost
    · have idle : server.performed thread.stage thread.counting = none := by
        rw [before]
        cases thread.counting with
        | _ => rfl
      rw [idle, before, after]
      simp [Stage.callsLeft]
    · cases performed : server.performed thread.stage thread.counting with
      | none =>
          simp only [performed, Option.isSome_none, Bool.toNat_false] at atMost
          simp only [Option.isSome_none, Bool.false_eq_true, if_false]
          omega
      | some label =>
          simp only [performed, Option.isSome_some, Bool.toNat_true] at atMost
          simp only [Option.isSome_some, if_true]
          omega
  · simp [own]

/-- The calls that are left for a client. -/
private def callsLeftOf
    (client : Bytes) (maxRetries : UInt64)
    (state : ServerState shardCount replicaCount) : Nat :=
  (state.threads.map (ServerThread.callsLeft client maxRetries)).sum

private theorem Stage.callsLeft_le (maxRetries : UInt64) (stage : Stage) :
    stage.callsLeft maxRetries ≤
      (maxRetries.toNat + 1) * stage.underWay.toNat := by
  cases stage with
  | executing sent progress =>
      cases progress with
      | attempting attempt =>
          simp [callsLeft, underWay]
      | called attempt result =>
          simp only [callsLeft, underWay, Bool.toNat_true]
          omega
      | _ =>
          simp [callsLeft, underWay]
  | _ =>
      simp [callsLeft, underWay]

private theorem ServerThread.callsLeft_le
    (client : Bytes) (maxRetries : UInt64) (thread : ServerThread) :
    thread.callsLeft client maxRetries ≤
      (maxRetries.toNat + 1) *
        if (thread.stage.underWay && clientId thread.request = client) = true
        then 1 else 0 := by
  have own := thread.stage.callsLeft_le maxRetries
  unfold callsLeft
  by_cases isOwn : clientId thread.request = client
  · cases isUnderWay : thread.stage.underWay with
    | false =>
        rw [isUnderWay] at own
        simpa [isOwn] using own
    | true =>
        rw [isUnderWay] at own
        simpa [isOwn] using own
  · simp [isOwn]

omit [NeZero shardCount] in
/-- A request that is under way makes at most `max_retries + 1` calls. -/
private theorem callsLeftOf_le
    (client : Bytes) (maxRetries : UInt64)
    (state : ServerState shardCount replicaCount) :
    callsLeftOf client maxRetries state ≤
      (maxRetries.toNat + 1) * underWayOf client state := by
  unfold callsLeftOf underWayOf
  induction state.threads with
  | nil =>
      exact Nat.zero_le _
  | cons thread rest inductionHypothesis =>
      rw [List.map_cons, List.sum_cons, List.countP_cons, Nat.mul_add,
        Nat.add_comm]
      exact
        Nat.add_le_add inductionHypothesis
          (thread.callsLeft_le client maxRetries)

/-- The calls that were made since a state of a run and those that are left were paid
for: the calls that are left are a potential, which the requests that pass the rate
limit fill. -/
private theorem ServerRun.loadOf_le
    {settings : Settings} {before window : List ServerLabel}
    {state later : ServerState shardCount replicaCount} (client : Bytes)
    (positive : 0 < replicaCount) (notMax : settings.maxRetries + 1 ≠ 0)
    (run : ServerRun settings before state)
    (continued : Run (fun start => start = state) ServerStep window later) :
    loadOf client window + callsLeftOf client settings.maxRetries later ≤
      (settings.maxRetries.toNat + 1) * admissionsOf client window +
        callsLeftOf client settings.maxRetries state := by
  induction continued with
  | initial started =>
      subst started
      simp [loadOf, admissionsOf]
  | extend earlier step inductionHypothesis =>
      have reached := run.append earlier
      rcases step.cases with
        ⟨request, now, rfl, rfl⟩ |
          ⟨index, input, thread, stage, counting, _, found, turned, rfl, rfl⟩
      · have nothing :
            ServerThread.callsLeft client settings.maxRetries
              ⟨request, now, .received, []⟩ = 0 :=
          ite_self 0
        simpa [loadOf, admissionsOf, callsLeftOf, ServerLabel.loads,
          ServerLabel.admits, ServerState.receive, nothing] using
          inductionHypothesis
      · have paid :=
          turned.paid index client notMax (ServerRun.maxRetries_eq reached)
            (ServerRun.spent positive reached found) rfl
        have weights :
            ((List.set _ index
                    { thread with
                      stage := stage
                      counting := counting }).map _).sum +
                _ =
              _ :=
          sum_map_set
            (ServerThread.callsLeft client settings.maxRetries) found
        unfold loadOf admissionsOf callsLeftOf at *
        rw [List.countP_append, List.countP_append, Nat.mul_add]
        dsimp only at weights ⊢
        omega

/-! ## Admissions of a client -/

theorem ofClient_limitedRequests_append
    (client : Bytes) (first second : List ServerLabel) :
    RateLimiter.ofClient client (limitedRequests (first ++ second)) =
      RateLimiter.ofClient client (limitedRequests first) ++
        RateLimiter.ofClient client (limitedRequests second) := by
  unfold limitedRequests RateLimiter.ofClient
  rw [List.filterMap_append, List.filter_append]

/-- How many of its own requests the bucket of a client accepts. -/
def acceptedOf
    (ratePerSecond burst : ℚ) (own : List LimitedRequest) : Nat :=
  match own with
  | [] => 0
  | first :: _ =>
      (TokenBucket.create ratePerSecond burst first.constructed).accepted
        (own.map LimitedRequest.now)

theorem acceptedOf_concat
    (ratePerSecond burst : ℚ) (own : List LimitedRequest)
    (request : LimitedRequest) :
    acceptedOf ratePerSecond burst (own ++ [request]) =
      acceptedOf ratePerSecond burst own +
        (((TokenBucket.create ratePerSecond burst
            (own.head?.getD request).constructed).after
              (own.map LimitedRequest.now)).consume
                request.now 1).1.toNat := by
  cases own with
  | nil =>
      simp [acceptedOf, TokenBucket.accepted]
  | cons first rest =>
      change
        (TokenBucket.create ratePerSecond burst first.constructed).accepted
            ((first :: rest ++ [request]).map LimitedRequest.now) =
          _
      rw [List.map_append, TokenBucket.accepted_append]
      simp [acceptedOf, TokenBucket.accepted]

example :
    acceptedOf 1 2
        [⟨bytes "c", 0, 0⟩, ⟨bytes "c", 0, 0⟩, ⟨bytes "c", 0, 0⟩,
          ⟨bytes "c", 0, 1000000000⟩] =
      3 := by
  decide +kernel

/-- The request that passes the rate limit is the one its bucket accepts. -/
private theorem Turns.admits_eq
    {server server' : Server shardCount replicaCount} {input : TurnInput}
    {thread : ServerThread} {stage : Stage} {counting : List Counter}
    {ratePerSecond burst : ℚ} {requests : List LimitedRequest} (index : Nat)
    (client : Bytes)
    (limiter :
      server.limiter = RateLimiter.after { ratePerSecond, burst } requests)
    (turned :
      Turns server input thread.request thread.started thread.stage
        thread.counting stage counting server')
    {taken : Turn}
    (isTaken :
      taken =
        { index := index
          input := input
          thread := thread
          next := stage
          performed := server.performed thread.stage thread.counting }) :
    acceptedOf ratePerSecond burst
        (RateLimiter.ofClient client
          (requests ++ (ServerLabel.turn taken).limited.toList)) =
      acceptedOf ratePerSecond burst
          (RateLimiter.ofClient client requests) +
        ((ServerLabel.turn taken).admits client).toNat := by
  obtain ⟨request, started, before, pending⟩ := thread
  subst isTaken
  have answer :=
    RateLimiter.allowedByRateLimit_own ratePerSecond burst requests
      (input.limited request)
  rw [← limiter] at answer
  have appended :
      RateLimiter.ofClient client (requests ++ [input.limited request]) =
        RateLimiter.ofClient client requests ++
          if clientId request = client then [input.limited request] else [] := by
    simp [RateLimiter.ofClient, List.filter_cons, TurnInput.limited]
  by_cases own : clientId request = client
  · have sameClient : (input.limited request).clientId = client := own
    rw [sameClient] at answer
    rw [if_pos own] at appended
    cases turned with
    | admitted allowed =>
        rw [allowed] at answer
        change acceptedOf _ _ (RateLimiter.ofClient client (_ ++ [_])) = _
        rw [appended, acceptedOf_concat, ← answer]
        simp [ServerLabel.admits, own]
    | limited refused =>
        rw [refused] at answer
        change acceptedOf _ _ (RateLimiter.ofClient client (_ ++ [_])) = _
        rw [appended, acceptedOf_concat, ← answer]
        rfl
    | _ =>
        simp [ServerLabel.admits, ServerLabel.limited]
  · rw [if_neg own, List.append_nil] at appended
    cases turned with
    | _ => simp [ServerLabel.admits, ServerLabel.limited, appended, own]

/-- The rate limit lets through what the bucket of the client accepts. -/
private theorem ServerRun.admissionsOf_eq
    {settings : Settings} {labels : List ServerLabel}
    {state : ServerState shardCount replicaCount} (client : Bytes)
    (run : ServerRun settings labels state) :
    admissionsOf client labels =
      acceptedOf settings.ratePerSecond settings.burst
        (RateLimiter.ofClient client (limitedRequests labels)) := by
  induction run with
  | initial _ =>
      rfl
  | extend earlier step inductionHypothesis =>
      rw [limitedRequests_concat]
      rcases step.cases with
        ⟨_, _, rfl, _⟩ | ⟨index, _, _, _, _, _, _, turned, rfl, _⟩
      · simpa [admissionsOf, ServerLabel.admits, ServerLabel.limited] using
          inductionHypothesis
      · rw [turned.admits_eq index client (ServerRun.limiter_eq earlier) rfl,
          ← inductionHypothesis]
        unfold admissionsOf
        rw [List.countP_append, List.countP_singleton]
        cases ServerLabel.admits client _ with
        | _ => rfl

/-- A bucket lets through its burst and what its rate adds, whatever it has accepted
before. -/
private theorem acceptedOf_append_le
    {ratePerSecond burst : ℚ} {earlier own : List LimitedRequest}
    (rateNonneg : 0 ≤ ratePerSecond) (burstNonneg : 0 ≤ burst)
    (ordered :
      ∀ first ∈ (earlier ++ own).head?,
        (first.constructed ::
          (earlier ++ own).map LimitedRequest.now).Pairwise (· ≤ ·))
    {since until_ : Int} (started : since ≤ until_)
    (inTime : ∀ request ∈ own, since ≤ request.now ∧ request.now ≤ until_) :
    (acceptedOf ratePerSecond burst (earlier ++ own) : ℚ) ≤
      acceptedOf ratePerSecond burst earlier +
        (burst + ratePerSecond * seconds (until_ - since)) := by
  have refills :=
    mul_nonneg rateNonneg (seconds_nonneg (sub_nonneg.mpr started))
  cases isOwn : earlier ++ own with
  | nil =>
      obtain ⟨rfl, rfl⟩ := List.append_eq_nil_iff.mp isOwn
      have atLeast := add_nonneg burstNonneg refills
      simpa [acceptedOf] using atLeast
  | cons first rest =>
      let bucket := TokenBucket.create ratePerSecond burst first.constructed
      have whole :
          acceptedOf ratePerSecond burst (first :: rest) =
            bucket.accepted (earlier.map LimitedRequest.now) +
              (bucket.after (earlier.map LimitedRequest.now)).accepted
                (own.map LimitedRequest.now) := by
        rw [← TokenBucket.accepted_append, ← List.map_append, isOwn]
        rfl
      have before :
          acceptedOf ratePerSecond burst earlier =
            bucket.accepted (earlier.map LimitedRequest.now) := by
        cases earlier with
        | nil =>
            rfl
        | cons head tail =>
            obtain ⟨rfl, _⟩ := List.cons.inj isOwn
            rfl
      have inOrder :
          (first.constructed ::
            (earlier.map LimitedRequest.now ++
              own.map LimitedRequest.now)).Pairwise (· ≤ ·) := by
        rw [← List.map_append]
        apply ordered
        rw [isOwn]
        rfl
      have running :=
        (TokenBucket.running_create burstNonneg).after rateNonneg
          (inOrder.sublist
            (List.Sublist.cons_cons _ (List.sublist_append_left _ _)))
      have inWindow :
          ((bucket.after (earlier.map LimitedRequest.now)).accepted
              (own.map LimitedRequest.now) : ℚ) ≤
            burst + ratePerSecond * seconds (until_ - since) := by
        apply
          running.accepted_window_le rateNonneg
            (TokenBucket.ordered_window inOrder)
        · intro time member
          obtain ⟨request, inOwn, rfl⟩ := List.mem_map.mp member
          exact inTime request inOwn
        · exact started
      rw [whole, before]
      push_cast
      exact add_le_add_right inWindow _

/-- From any state of a run on, the calls a client makes the cluster do are bounded by
the requests of it that are under way, the burst, the rate and the number of retries,
whatever the other clients send and however the threads take turns. -/
theorem Server.client_load_bounded
    {settings : Settings} {before window : List ServerLabel}
    {state later : ServerState shardCount replicaCount} (client : Bytes)
    (positive : 0 < replicaCount) (notMax : settings.maxRetries + 1 ≠ 0)
    (rateNonneg : 0 ≤ settings.ratePerSecond)
    (burstNonneg : 0 ≤ settings.burst)
    (run : ServerRun settings before state)
    (continued : Run (fun start => start = state) ServerStep window later)
    (ordered :
      ∀ first ∈
          (RateLimiter.ofClient client
            (limitedRequests (before ++ window))).head?,
        (first.constructed ::
            (RateLimiter.ofClient client
              (limitedRequests (before ++ window))).map
                LimitedRequest.now).Pairwise (· ≤ ·))
    {since until_ : Int} (started : since ≤ until_)
    (inTime :
      ∀ request ∈ RateLimiter.ofClient client (limitedRequests window),
        since ≤ request.now ∧ request.now ≤ until_) :
    (loadOf client window : ℚ) ≤
      (settings.maxRetries.toNat + 1) *
        (underWayOf client state + settings.burst +
          settings.ratePerSecond * seconds (until_ - since)) := by
  have paid := run.loadOf_le client positive notMax continued
  have left := callsLeftOf_le client settings.maxRetries state
  have calls :
      loadOf client window ≤
        (settings.maxRetries.toNat + 1) *
          (underWayOf client state + admissionsOf client window) := by
    rw [Nat.mul_add]
    omega
  have admitted :
      (admissionsOf client window : ℚ) ≤
        settings.burst + settings.ratePerSecond * seconds (until_ - since) := by
    have inBoth := ServerRun.admissionsOf_eq client (run.append continued)
    rw [ofClient_limitedRequests_append] at ordered inBoth
    have accepted :=
      acceptedOf_append_le rateNonneg burstNonneg ordered started inTime
    rw [← inBoth, ← run.admissionsOf_eq client] at accepted
    unfold admissionsOf at accepted ⊢
    rw [List.countP_append] at accepted
    push_cast at accepted
    linarith
  calc (loadOf client window : ℚ)
      ≤ (settings.maxRetries.toNat + 1) *
          (underWayOf client state + admissionsOf client window) := by
        exact_mod_cast calls
    _ ≤ _ := by
        rw [add_assoc]
        gcongr

/-- A client stops a replica and begins to write.  Ten seconds later the write is
tried twice, and of three reads one is tried twice, one finds the breaker open, and
one is refused by the bucket. -/
theorem Server.load_of_retries :
    ∃ before window,
      ∃ state later : ServerState 1 1,
        ServerRun ⟨bytes "s", 1, 2, 1⟩ before state ∧
          Run (fun start => start = state) ServerStep window later ∧
          later.threads.map ServerThread.status =
            [some 200, some 503, some 503, some 503, some 429] ∧
          underWayOf (bytes "127.0.0.1") state = 1 ∧
          loadOf (bytes "127.0.0.1") window = 4 ∧
          (loadOf (bytes "127.0.0.1") window : ℚ) ≤
            (1 + 1) *
              ((1 : Nat) + 2 + 1 * seconds (10000000000 - 10000000000)) := by
  let get : HttpRequest := .bearing "s" "GET" "/v1/kv/k" []
  let tenth : TurnInput := { now := 10000000000 }
  have leads :
      ((ServerState.initial 1 1 ⟨bytes "s", 1, 2, 1⟩).follow
          ([.request (.bearing "s" "POST" "/admin/fail/0/s0-r0" []) 0,
              .request (.bearing "s" "PUT" "/v1/kv/k" (bytes "v")) 0] ++
            List.replicate 6 (.turn 0 {}) ++
            List.replicate 3 (.turn 1 {}))).any
        (fun reached =>
          (reached.2.follow
              (List.replicate 3 (.request get 10000000000) ++
                List.replicate 9 (.turn 1 tenth) ++
                List.replicate 12 (.turn 2 tenth) ++
                List.replicate 7 (.turn 3 tenth) ++
                List.replicate 5 (.turn 4 tenth))).any
            fun ended =>
              decide
                (ended.2.threads.map ServerThread.status =
                    [some 200, some 503, some 503, some 503, some 429] ∧
                  underWayOf (bytes "127.0.0.1") reached.2 = 1 ∧
                  loadOf (bytes "127.0.0.1") ended.1 = 4 ∧
                  RateLimiter.ofClient (bytes "127.0.0.1")
                      (limitedRequests reached.1) =
                    List.replicate 2 ⟨bytes "127.0.0.1", 0, 0⟩ ∧
                  RateLimiter.ofClient (bytes "127.0.0.1")
                      (limitedRequests ended.1) =
                    List.replicate 3
                      ⟨bytes "127.0.0.1", 0, 10000000000⟩)) = true := by
    decide +kernel
  obtain ⟨⟨before, state⟩, follows, continues⟩ :=
    (Option.any_eq_true _ _).mp leads
  obtain ⟨⟨window, later⟩, follows', holds⟩ :=
    (Option.any_eq_true _ _).mp continues
  obtain ⟨answers, waiting, calls, ownBefore, own⟩ := of_decide_eq_true holds
  have run : ServerRun ⟨bytes "s", 1, 2, 1⟩ before state :=
    ServerState.run_follow follows
  have continued :
      Run (fun start => start = state) ServerStep window later :=
    ServerState.run_follow follows'
  have split :
      RateLimiter.ofClient (bytes "127.0.0.1")
          (limitedRequests (before ++ window)) =
        List.replicate 2 ⟨bytes "127.0.0.1", 0, 0⟩ ++
          List.replicate 3 ⟨bytes "127.0.0.1", 0, 10000000000⟩ := by
    rw [ofClient_limitedRequests_append, ownBefore, own]
  have bounded :=
    client_load_bounded (bytes "127.0.0.1") (by decide) (by decide)
      (by decide) (by decide) run continued
      (by rw [split]; decide)
      (le_refl 10000000000)
      (by rw [own]; decide)
  rw [waiting] at bounded
  exact
    ⟨before, window, state, later, run, continued, answers, waiting, calls,
      bounded⟩

end Load

end ShardedKvStore

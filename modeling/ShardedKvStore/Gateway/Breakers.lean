import ShardedKvStore.Gateway.Writes

/-!
# Open circuit breakers

The breaker of a shard is asked once for each request, before the first attempt,
and it is told after every attempt.  An open breaker turns requests away that
arrive.  It does not stop a request that was let through before: that request
makes the attempts it has left, and when one of them succeeds the breaker is
closed again.
-/

namespace ShardedKvStore

open Foundation

/-! ## What happens to a breaker -/

namespace CircuitBreaker

variable {breaker : CircuitBreaker} {now since : Int}

/-- The breaker keeps the duration of the constructor, and it was not opened
after the given time. -/
structure Timely (clock : Int) (breaker : CircuitBreaker) : Prop where
  duration : breaker.openDuration = milliseconds 5000
  opened : breaker.state = .opened → breaker.openedAt ≤ clock

theorem Timely.later
    {clock : Int} (timely : breaker.Timely clock) (later : clock ≤ now) :
    breaker.Timely now :=
  ⟨timely.duration, fun isOpen => (timely.opened isOpen).trans later⟩

theorem Timely.allowRequest
    (timely : breaker.Timely now) :
    (breaker.allowRequest now).2.Timely now := by
  unfold CircuitBreaker.allowRequest
  split
  · exact timely
  · split
    · exact ⟨timely.duration, fun isOpen => by cases isOpen⟩
    · exact timely
  · exact timely

theorem Timely.recordSuccess
    (timely : breaker.Timely now) : breaker.recordSuccess.Timely now :=
  ⟨timely.duration, fun isOpen => by cases isOpen⟩

theorem Timely.recordFailure
    (timely : breaker.Timely now) :
    (breaker.recordFailure now).Timely now := by
  unfold CircuitBreaker.recordFailure
  simp only
  split
  · exact ⟨timely.duration, fun _ => le_refl now⟩
  · exact ⟨timely.duration, timely.opened⟩

/-- The breaker is open and was last opened at the given time or later. -/
structure OpenSince (since : Int) (breaker : CircuitBreaker) : Prop where
  isOpen : breaker.state = .opened
  since_le : since ≤ breaker.openedAt
  duration : breaker.openDuration = milliseconds 5000

/-- For five seconds an open breaker refuses. -/
theorem OpenSince.allowRequest
    (openSince : breaker.OpenSince since)
    (early : now < since + milliseconds 5000) :
    breaker.allowRequest now = (false, breaker) := by
  have waiting : ¬ now - breaker.openedAt ≥ breaker.openDuration := by
    have since_le := openSince.since_le
    rw [openSince.duration]
    omega
  unfold CircuitBreaker.allowRequest
  rw [openSince.isOpen]
  simp only [if_neg waiting]

theorem OpenSince.recordFailure
    (openSince : breaker.OpenSince since) (later : since ≤ now) :
    (breaker.recordFailure now).OpenSince since := by
  unfold CircuitBreaker.recordFailure
  simp only
  split
  · exact ⟨rfl, later, openSince.duration⟩
  · exact ⟨openSince.isOpen, openSince.since_le, openSince.duration⟩

end CircuitBreaker

namespace Gateway

variable {shardCount replicaCount : Nat} [NeZero shardCount]

theorem askBreaker_breakers
    (gateway : Gateway shardCount replicaCount) (now : Int)
    (request : KvRequest) :
    (gateway.askBreaker now request).2.breakers =
      Function.update gateway.breakers (Cluster.shardForKey request.key)
        ((gateway.breakers
          (Cluster.shardForKey request.key)).allowRequest now).2 := by
  unfold askBreaker
  simp only
  split
  · rfl
  · rfl

/-- A refused request is answered. -/
theorem askBreaker_refuses
    {gateway : Gateway shardCount replicaCount} {now : Int}
    {request : KvRequest}
    (refuses :
      ((gateway.breakers
        (Cluster.shardForKey request.key)).allowRequest now).1 = false) :
    (gateway.askBreaker now request).1 =
      .answered
        (circuitOpenResponse
          (Cluster.shardForKey request.key : Fin shardCount)) := by
  unfold askBreaker
  simp only
  rw [if_neg (by rw [refuses]; exact Bool.false_ne_true)]

omit [NeZero shardCount] in
theorem finish_breakers
    (gateway : Gateway shardCount replicaCount) (request : KvRequest)
    (result : OperationResult) :
    (gateway.finish request result).2.breakers = gateway.breakers := by
  unfold finish
  simp only
  split
  · rfl
  · rfl

theorem record_breakers
    (gateway : Gateway shardCount replicaCount) (now : Int)
    (request : KvRequest) (attempt : UInt64) (result : OperationResult) :
    (gateway.record now request attempt result).2.breakers =
      Function.update gateway.breakers (Cluster.shardForKey request.key)
        (if result.status < 500 then
          (gateway.breakers
            (Cluster.shardForKey request.key)).recordSuccess
        else
          (gateway.breakers
            (Cluster.shardForKey request.key)).recordFailure now) := by
  unfold record
  simp only
  split
  · exact finish_breakers _ _ _
  · split
    · split
      · rfl
      · rfl
    · rw [finish_breakers]
      split
      · rfl
      · rfl

end Gateway

section Moves

variable {shardCount replicaCount : Nat} [NeZero shardCount]

/-- The step tells the breaker of the shard about a call that did not fail. -/
def GatewayState.RecordsSuccess
    (state : GatewayState shardCount replicaCount)
    (shard : Fin shardCount) : GatewayLabel → Prop
  | .record index _ =>
      ∃ request attempt result,
        state.threads[index]? = some ⟨request, .called attempt result⟩ ∧
          Cluster.shardForKey request.key = shard ∧ result.status < 500
  | _ => False

/-- The changes of the breaker of a shard. -/
inductive BreakerMove
    (state : GatewayState shardCount replicaCount)
    (shard : Fin shardCount) : GatewayLabel → CircuitBreaker → Prop
  | kept (label : GatewayLabel) :
      BreakerMove state shard label (state.gateway.breakers shard)
  | asked (request : KvRequest) (now : Int) :
      BreakerMove state shard (.request request now)
        ((state.gateway.breakers shard).allowRequest now).2
  | succeeded (index : Nat) (now : Int) :
      state.RecordsSuccess shard (.record index now) →
      BreakerMove state shard (.record index now)
        (state.gateway.breakers shard).recordSuccess
  | failed (index : Nat) (now : Int) :
      BreakerMove state shard (.record index now)
        ((state.gateway.breakers shard).recordFailure now)

theorem GatewayStep.breakerMove
    {state next : GatewayState shardCount replicaCount}
    {label : GatewayLabel} (step : GatewayStep state label next)
    (shard : Fin shardCount) :
    BreakerMove state shard label (next.gateway.breakers shard) := by
  cases step with
  | request request now =>
      simp only [GatewayState.spawn, Gateway.askBreaker_breakers]
      by_cases same : Cluster.shardForKey request.key = shard
      · subst same
        rw [Function.update_self]
        exact .asked request now
      · rw [Function.update_of_ne (Ne.symm same)]
        exact .kept _
  | attempt index request attempt found =>
      exact .kept _
  | record index now request attempt result found =>
      simp only [GatewayState.advance, Gateway.record_breakers]
      by_cases same : Cluster.shardForKey request.key = shard
      · subst same
        rw [Function.update_self]
        split
        case isTrue succeeded =>
          exact .succeeded index now
            ⟨request, attempt, result, found, rfl, succeeded⟩
        case isFalse =>
          exact .failed index now
      · rw [Function.update_of_ne (Ne.symm same)]
        exact .kept _
  | admin operation isAdmin =>
      exact .kept _

end Moves

/-! ## Runs with a clock -/

section Clocked

variable {shardCount replicaCount : Nat} [NeZero shardCount]

/-- A step that reads the clock reads the time at which it is taken. -/
def GatewayLabel.OccursAt : GatewayLabel → Int → Prop
  | .request _ now, time => now = time
  | .record _ now, time => now = time
  | _, _ => True

/-- The gateway, its threads and the time of the last step. -/
structure ClockedState (shardCount replicaCount : Nat) extends
    GatewayState shardCount replicaCount where
  clock : Int

/-- The steps of the gateway, at times that do not decrease. -/
inductive ClockedStep :
    ClockedState shardCount replicaCount → GatewayLabel × Int →
      ClockedState shardCount replicaCount → Prop
  | step {state : ClockedState shardCount replicaCount}
      {next : GatewayState shardCount replicaCount}
      {label : GatewayLabel} {time : Int} :
      GatewayStep state.toGatewayState label next →
      state.clock ≤ time → label.OccursAt time →
      ClockedStep state (label, time) ⟨next, time⟩

/-- The runs of a gateway in front of a fresh cluster, from any time on. -/
abbrev ClockedRun (maxRetries : UInt64) :
    List (GatewayLabel × Int) →
      ClockedState shardCount replicaCount → Prop :=
  Run
    (fun state =>
      state.toGatewayState =
        GatewayState.initial shardCount replicaCount maxRetries)
    ClockedStep

/-- A step that records no success for the shard. -/
def QuietStep
    (shard : Fin shardCount)
    (state : ClockedState shardCount replicaCount)
    (label : GatewayLabel × Int)
    (next : ClockedState shardCount replicaCount) : Prop :=
  ClockedStep state label next ∧ ¬ state.RecordsSuccess shard label.1

theorem ClockedStep.timely
    {state next : ClockedState shardCount replicaCount}
    {label : GatewayLabel × Int} (step : ClockedStep state label next)
    {shard : Fin shardCount}
    (timely : (state.gateway.breakers shard).Timely state.clock) :
    (next.gateway.breakers shard).Timely next.clock := by
  cases step with
  | @step next label time taken later occurs =>
      have now := timely.later later
      have move := taken.breakerMove shard
      change (next.gateway.breakers shard).Timely time
      generalize next.gateway.breakers shard = after at move ⊢
      cases move with
      | kept =>
          exact now
      | asked request asked =>
          obtain rfl : asked = time := occurs
          exact now.allowRequest
      | succeeded index told isSuccess =>
          exact now.recordSuccess
      | failed index told =>
          obtain rfl : told = time := occurs
          exact now.recordFailure

theorem ClockedRun.timely
    {maxRetries : UInt64} {steps : List (GatewayLabel × Int)}
    {state : ClockedState shardCount replicaCount}
    (run : ClockedRun maxRetries steps state) (shard : Fin shardCount) :
    (state.gateway.breakers shard).Timely state.clock := by
  induction run with
  | initial started =>
      rw [started]
      exact ⟨rfl, fun isOpen => by cases isOpen⟩
  | extend _ step inductionHypothesis =>
      exact step.timely inductionHypothesis

/-! ## Requests that arrive while the breaker is open -/

/-- The breaker of the shard has been open since the given time, and the requests
for it that arrived after the first `count` requests were turned away. -/
structure Shielded
    (since : Int) (shard : Fin shardCount) (count : Nat)
    (state : GatewayState shardCount replicaCount) : Prop where
  openSince : (state.gateway.breakers shard).OpenSince since
  refused :
    ∀ index thread,
      count ≤ index → state.threads[index]? = some thread →
        Cluster.shardForKey thread.request.key = shard →
        thread.progress = .answered (circuitOpenResponse shard)

section Shield

variable {since : Int} {shard : Fin shardCount} {count : Nat}
  {state next : GatewayState shardCount replicaCount}

/-- Only the first requests are still under way. -/
theorem Shielded.index_lt
    (shielded : Shielded since shard count state)
    {index : Nat} {request : KvRequest} {progress : Progress}
    (found : state.threads[index]? = some ⟨request, progress⟩)
    (underWay : progress ≠ .answered (circuitOpenResponse shard))
    (ofShard : Cluster.shardForKey request.key = shard) :
    index < count := by
  by_contra later
  exact underWay
    (shielded.refused index _ (not_lt.mp later) found ofShard)

/-- A thread takes a step that is not the answer of the breaker. -/
theorem Shielded.refused_set
    (shielded : Shielded since shard count state)
    {position : Nat} {request : KvRequest} {progress progress' : Progress}
    (found : state.threads[position]? = some ⟨request, progress⟩)
    (underWay : progress ≠ .answered (circuitOpenResponse shard))
    (index : Nat) (thread : RequestThread) (later : count ≤ index)
    (atIndex :
      (state.threads.set position ⟨request, progress'⟩)[index]? =
        some thread)
    (ofShard : Cluster.shardForKey thread.request.key = shard) :
    thread.progress = .answered (circuitOpenResponse shard) := by
  by_cases same : position = index
  · subst same
    obtain ⟨inside, _⟩ := List.getElem?_eq_some_iff.mp found
    rw [List.getElem?_set_self inside] at atIndex
    obtain rfl := Option.some.inj atIndex
    have early := shielded.index_lt found underWay ofShard
    exact absurd early (not_lt.mpr later)
  · rw [List.getElem?_set_ne same] at atIndex
    exact shielded.refused index thread later atIndex ofShard

/-- Within five seconds every step that records no success keeps the shield. -/
theorem Shielded.step
    (shielded : Shielded since shard count state)
    {label : GatewayLabel} {time : Int}
    (step : GatewayStep state label next)
    (quiet : ¬ state.RecordsSuccess shard label)
    (occurs : label.OccursAt time) (later : since ≤ time)
    (early : time < since + milliseconds 5000) :
    Shielded since shard count next := by
  refine ⟨?_, ?_⟩
  · have move := step.breakerMove shard
    generalize next.gateway.breakers shard = after at move ⊢
    cases move with
    | kept =>
        exact shielded.openSince
    | asked request asked =>
        obtain rfl : asked = time := occurs
        rw [shielded.openSince.allowRequest early]
        exact shielded.openSince
    | succeeded index told isSuccess =>
        exact absurd isSuccess quiet
    | failed index told =>
        obtain rfl : told = time := occurs
        exact shielded.openSince.recordFailure later
  · cases step with
    | request request now =>
        obtain rfl : now = time := occurs
        intro index thread late atIndex ofShard
        simp only [GatewayState.spawn] at atIndex
        by_cases inside : index < state.threads.length
        · rw [List.getElem?_append_left inside] at atIndex
          exact shielded.refused index thread late atIndex ofShard
        · -- the thread of the request itself
          rw [List.getElem?_append_right (not_lt.mp inside)] at atIndex
          have isNew := List.mem_singleton.mp (List.mem_of_getElem? atIndex)
          subst isNew
          subst ofShard
          refine Gateway.askBreaker_refuses ?_
          rw [shielded.openSince.allowRequest early]
    | attempt index request attempt found =>
        exact shielded.refused_set found (by simp)
    | record index now request attempt result found =>
        exact shielded.refused_set found (by simp)
    | admin operation isAdmin =>
        exact shielded.refused

end Shield

/-- The calls of a run for the keys of a shard that were made before the given
time belong to the first `count` requests. -/
def CallsOfFirst
    (shard : Fin shardCount) (count : Nat) (deadline : Int)
    (steps : List (GatewayLabel × Int)) : Prop :=
  ∀ index request answer time,
    (GatewayLabel.attempt index request answer, time) ∈ steps →
      Cluster.shardForKey request.key = shard → time < deadline →
      index < count

private theorem quietRun_shielded
    {since : Int} {shard : Fin shardCount}
    {opened state : ClockedState shardCount replicaCount}
    {steps : List (GatewayLabel × Int)}
    (openSince : (opened.gateway.breakers shard).OpenSince since)
    (later : since ≤ opened.clock)
    (quiet : Run (· = opened) (QuietStep shard) steps state) :
    since ≤ state.clock ∧
      (state.clock < since + milliseconds 5000 →
        Shielded since shard opened.threads.length state.toGatewayState) ∧
      CallsOfFirst shard opened.threads.length
        (since + milliseconds 5000) steps := by
  induction quiet with
  | initial started =>
      subst started
      refine ⟨later, fun _ => ⟨openSince, ?_⟩, ?_⟩
      · intro index thread late atIndex _
        rw [List.getElem?_eq_none late] at atIndex
        cases atIndex
      · intro index request answer time member
        cases member
  | extend _ step inductionHypothesis =>
      obtain ⟨sinceLe, shielded, calls⟩ := inductionHypothesis
      obtain ⟨⟨taken, clockLe, occurs⟩, records⟩ := step
      refine ⟨sinceLe.trans clockLe, fun early => ?_, ?_⟩
      · exact (shielded (clockLe.trans_lt early)).step taken records occurs
          (sinceLe.trans clockLe) early
      · intro index request answer time member ofShard early
        rcases List.mem_append.mp member with earlier | last
        · exact calls index request answer time earlier ofShard early
        · have isLast := List.mem_singleton.mp last
          cases isLast
          cases taken with
          | attempt _ _ attempt found =>
              exact (shielded (clockLe.trans_lt early)).index_lt found
                (by simp) ofShard

/-- In every run with a clock, once the breaker of a shard is open since a time,
only requests that had arrived by then call the cluster for keys of the shard
within the next five seconds, as long as no success is recorded for it. -/
theorem Gateway.open_breaker_refuses_arrivals
    {maxRetries : UInt64} {before steps : List (GatewayLabel × Int)}
    {opened state : ClockedState shardCount replicaCount}
    {shard : Fin shardCount}
    (run : ClockedRun maxRetries before opened)
    (isOpen : (opened.gateway.breakers shard).state = .opened)
    (quiet : Run (· = opened) (QuietStep shard) steps state) :
    CallsOfFirst shard opened.threads.length
      ((opened.gateway.breakers shard).openedAt + milliseconds 5000)
      steps := by
  have timely := run.timely shard
  have openSince :
      (opened.gateway.breakers shard).OpenSince
        (opened.gateway.breakers shard).openedAt :=
    ⟨isOpen, le_refl _, timely.duration⟩
  exact (quietRun_shielded openSince (timely.opened isOpen) quiet).2.2

end Clocked

/-! ## A gateway with three retries -/

local instance oneShard : NeZero 1 :=
  ⟨Nat.one_ne_zero⟩

/-- The request has arrived at a gateway that retries three times, and two of the
three replicas have failed. -/
def putFailing : GatewayState 1 3 :=
  let initial := GatewayState.initial 1 3 3
  ((initial.spawn putRequest (initial.gateway.askBreaker 0 putRequest)).administer
    (.failReplica 0 (bytes "s0-r1"))).administer
      (.failReplica 0 (bytes "s0-r2"))

/-- The result of a put without a majority. -/
def refusedPut : OperationResult where
  status := 503
  message :=
    bytes "write rejected because a majority could not acknowledge the log entry"
  leader := bytes "s0-r0"

/-- The first request makes an attempt. -/
def GatewayState.attemptPut
    (attempt : UInt64) (state : GatewayState 1 3) : GatewayState 1 3 :=
  state.advance 0 putRequest (state.gateway.attempt putRequest attempt)

/-- The first request makes an attempt and tells the breaker that it was
refused. -/
def GatewayState.refuseAttempt
    (attempt : UInt64) (now : Int) (state : GatewayState 1 3) :
    GatewayState 1 3 :=
  (state.attemptPut attempt).advance 0 putRequest
    ((state.attemptPut attempt).gateway.record now putRequest attempt
      refusedPut)

theorem ClockedRun.refuseAttempt
    {steps : List (GatewayLabel × Int)} {state : GatewayState 1 3}
    {clock called told : Int}
    (run : ClockedRun 3 steps ⟨state, clock⟩) (attempt : UInt64)
    (attempting :
      state.threads[0]? = some ⟨putRequest, .attempting attempt⟩)
    (refused :
      (state.attemptPut attempt).threads[0]? =
        some ⟨putRequest, .called attempt refusedPut⟩)
    (calledLater : clock ≤ called) (toldLater : called ≤ told) :
    ∃ before,
      ClockedRun 3 (before ++ [(.record 0 told, told)])
        ⟨state.refuseAttempt attempt told, told⟩ := by
  have attempted :
      ClockedRun 3 _ ⟨state.attemptPut attempt, called⟩ :=
    run.extend
      (.step (.attempt 0 putRequest attempt attempting) calledLater trivial)
  exact ⟨_, attempted.extend
    (.step (.record 0 told putRequest attempt refusedPut refused) toldLater
      rfl)⟩

/-- The third failure has opened the breaker, after 63 milliseconds. -/
def breakerOpen : ClockedState 1 3 where
  toGatewayState :=
    ((putFailing.refuseAttempt 0 (milliseconds 1)).refuseAttempt 1
      (milliseconds 22)).refuseAttempt 2 (milliseconds 63)
  clock := milliseconds 63

/-- The calls are made after 0, 21 and 62 milliseconds, with the pauses of the
source between them. -/
theorem clockedRun_breakerOpen :
    ∃ before,
      ClockedRun 3
        (before ++ [(.record 0 (milliseconds 63), milliseconds 63)])
        breakerOpen := by
  have begun :
      ClockedRun 3 [] ⟨GatewayState.initial 1 3 3, milliseconds 0⟩ :=
    .initial rfl
  have failing : ClockedRun 3 _ ⟨putFailing, milliseconds 0⟩ :=
    ((begun.extend (.step (.request _ putRequest 0) le_rfl rfl)).extend
      (.step (.admin _ (.failReplica 0 (bytes "s0-r1")) trivial) le_rfl
        trivial)).extend
      (.step (.admin _ (.failReplica 0 (bytes "s0-r2")) trivial) le_rfl
        trivial)
  obtain ⟨_, first⟩ :=
    ClockedRun.refuseAttempt failing 0 (by decide +kernel)
      (by decide +kernel)
      (show milliseconds 0 ≤ milliseconds 0 by decide)
      (show milliseconds 0 ≤ milliseconds 1 by decide)
  obtain ⟨_, second⟩ :=
    ClockedRun.refuseAttempt first 1 (by decide +kernel) (by decide +kernel)
      (show milliseconds 1 ≤ milliseconds 21 by decide)
      (show milliseconds 21 ≤ milliseconds 22 by decide)
  exact
    ClockedRun.refuseAttempt second 2 (by decide +kernel) (by decide +kernel)
      (show milliseconds 22 ≤ milliseconds 62 by decide)
      (show milliseconds 62 ≤ milliseconds 63 by decide)

/-- A second request for the same shard, 37 milliseconds later, and the fourth
attempt of the first one. -/
def arrivedLate : ClockedState 1 3 where
  toGatewayState :=
    (breakerOpen.spawn putRequest
      (breakerOpen.gateway.askBreaker (milliseconds 100)
        putRequest)).attemptPut 3
  clock := milliseconds 143

/-- The second request makes no call. -/
theorem Gateway.late_request_refused :
    ∃ before steps,
      ClockedRun 3 before breakerOpen ∧
        (breakerOpen.gateway.breakers 0).state = .opened ∧
        Run (· = breakerOpen) (QuietStep 0) steps arrivedLate ∧
        (.request putRequest (milliseconds 100), milliseconds 100) ∈
          steps ∧
        CallsOfFirst (0 : Fin 1) 1 (milliseconds 63 + milliseconds 5000)
          steps := by
  obtain ⟨_, run⟩ := clockedRun_breakerOpen
  have isOpen : (breakerOpen.gateway.breakers 0).state = .opened := by
    decide +kernel
  have begun :
      Run (· = breakerOpen) (QuietStep 0) [] breakerOpen :=
    .initial rfl
  have arrived :=
    begun.extend
      ⟨.step (.request _ putRequest (milliseconds 100))
        (show milliseconds 63 ≤ milliseconds 100 by decide) rfl, id⟩
  have quiet : Run (· = breakerOpen) (QuietStep 0) _ arrivedLate :=
    arrived.extend
      ⟨.step (.attempt 0 putRequest 3 (by decide +kernel))
        (show milliseconds 100 ≤ milliseconds 143 by decide) trivial, id⟩
  exact ⟨_, _, run, isOpen, quiet, by simp,
    open_breaker_refuses_arrivals run isOpen quiet⟩

/-- A replica has recovered, and the fourth attempt of the first request has
succeeded. -/
def breakerPassed : GatewayState 1 3 :=
  (breakerOpen.administer (.recoverReplica 0 (bytes "s0-r1"))).attemptPut 3

/-- The breaker was told, and a second request has arrived. -/
def arrivedAfterSuccess : GatewayState 1 3 :=
  let told :=
    breakerPassed.advance 0 putRequest
      (breakerPassed.gateway.record (milliseconds 144) putRequest 3
        { ok := true
          status := 201
          message := bytes "stored"
          leader := bytes "s0-r0" })
  told.spawn putRequest
    (told.gateway.askBreaker (milliseconds 200) putRequest)

/-- The breaker opens after 63 milliseconds.  The request that opened it calls the
cluster 80 milliseconds later, and as that call succeeds a request that arrives
after 200 milliseconds calls it too. -/
theorem Gateway.open_breaker_passed :
    ∃ before steps state first second,
      ClockedRun 3
          (before ++ [(.record 0 (milliseconds 63), milliseconds 63)])
          breakerOpen ∧
        (breakerOpen.gateway.breakers 0).state = .opened ∧
        (breakerOpen.gateway.breakers 0).openedAt = milliseconds 63 ∧
        Run (· = breakerOpen) ClockedStep steps state ∧
        (GatewayLabel.attempt 0 putRequest first, milliseconds 143) ∈
          steps ∧
        (GatewayLabel.attempt 1 putRequest second, milliseconds 200) ∈
          steps ∧
        milliseconds 200 < milliseconds 63 + milliseconds 5000 := by
  obtain ⟨before, run⟩ := clockedRun_breakerOpen
  have begun : Run (· = breakerOpen) ClockedStep [] breakerOpen :=
    .initial rfl
  have recovered :=
    begun.extend
      (.step (.admin _ (.recoverReplica 0 (bytes "s0-r1")) trivial)
        (show milliseconds 63 ≤ milliseconds 100 by decide) trivial)
  have passed :
      Run (· = breakerOpen) ClockedStep _
        ⟨breakerPassed, milliseconds 143⟩ :=
    recovered.extend
      (.step (.attempt 0 putRequest 3 (by decide +kernel))
        (show milliseconds 100 ≤ milliseconds 143 by decide) trivial)
  have arrived :
      Run (· = breakerOpen) ClockedStep _
        ⟨arrivedAfterSuccess, milliseconds 200⟩ :=
    (passed.extend
      (.step
        (.record 0 (milliseconds 144) putRequest 3 _ (by decide +kernel))
        (show milliseconds 143 ≤ milliseconds 144 by decide) rfl)).extend
      (.step (.request _ putRequest (milliseconds 200))
        (show milliseconds 144 ≤ milliseconds 200 by decide) rfl)
  have called :=
    arrived.extend
      (.step (.attempt 1 putRequest 0 (by decide +kernel))
        (le_refl (milliseconds 200)) trivial)
  exact ⟨before, _, _, _, _, run, by decide +kernel, by decide +kernel,
    called, by simp; rfl, by simp; rfl, by decide⟩

end ShardedKvStore

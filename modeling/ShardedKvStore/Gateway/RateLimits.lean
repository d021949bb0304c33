import Mathlib.Algebra.Order.Field.Rat
import Mathlib.Tactic.Linarith
import Mathlib.Tactic.Positivity
import Mathlib.Tactic.Ring
import ShardedKvStore.Gateway

/-!
# Rate limits

Every client has a token bucket, created full at its first request.  The bucket
is refilled whenever it is asked, also when it refuses, and never above its
capacity.  Its doubles are read as exact rationals; the clock counts
nanoseconds.

The tokens in a bucket are what its capacity and the refills since some start
give, less the requests accepted since that start: the start is the last time the
bucket was full.  Both directions of the limit follow from it.
-/

namespace ShardedKvStore

/-- `std::chrono::duration<double>` of a number of ticks. -/
def seconds (ticks : Int) : ℚ :=
  ticks / 1000000000

theorem seconds_zero : seconds 0 = 0 := by
  simp [seconds]

theorem seconds_nonneg {ticks : Int} (nonneg : 0 ≤ ticks) :
    0 ≤ seconds ticks := by
  have cast : (0 : ℚ) ≤ ticks := by exact_mod_cast nonneg
  unfold seconds
  positivity

theorem seconds_sub (first middle last : Int) :
    seconds (last - first) =
      seconds (middle - first) + seconds (last - middle) := by
  unfold seconds
  push_cast
  ring

/-- `TokenBucket`. -/
structure TokenBucket where
  refillPerSecond : ℚ
  capacity : ℚ
  tokens : ℚ
  lastRefill : Int
  deriving DecidableEq, Repr

namespace TokenBucket

/-- `TokenBucket::TokenBucket` at a time. -/
def create (refillPerSecond capacity : ℚ) (now : Int) : TokenBucket where
  refillPerSecond := refillPerSecond
  capacity := capacity
  tokens := capacity
  lastRefill := now

/-- The first half of `consume`. -/
def refill (now : Int) (bucket : TokenBucket) : TokenBucket :=
  { bucket with
    tokens :=
      min bucket.capacity
        (bucket.tokens +
          seconds (now - bucket.lastRefill) * bucket.refillPerSecond)
    lastRefill := now }

/-- `consume` at a time. -/
def consume (now : Int) (tokens : ℚ) (bucket : TokenBucket) :
    Bool × TokenBucket :=
  let refilled := bucket.refill now
  if refilled.tokens < tokens then
    (false, refilled)
  else
    (true, { refilled with tokens := refilled.tokens - tokens })

/-- The bucket after requests for one token each, at the given times. -/
def after (bucket : TokenBucket) (times : List Int) : TokenBucket :=
  times.foldl (fun bucket now => (bucket.consume now 1).2) bucket

/-- How many of these requests are accepted. -/
def accepted (bucket : TokenBucket) : List Int → Nat
  | [] => 0
  | now :: rest =>
      (bucket.consume now 1).1.toNat +
        accepted (bucket.consume now 1).2 rest

section Runs

variable (bucket : TokenBucket) (first second : List Int) (now : Int)

@[simp]
theorem after_nil : bucket.after [] = bucket :=
  rfl

@[simp]
theorem after_cons :
    bucket.after (now :: first) = (bucket.consume now 1).2.after first :=
  rfl

theorem after_append :
    bucket.after (first ++ second) = (bucket.after first).after second :=
  List.foldl_append

theorem accepted_append :
    bucket.accepted (first ++ second) =
      bucket.accepted first + (bucket.after first).accepted second := by
  induction first generalizing bucket with
  | nil =>
      simp [accepted]
  | cons now rest inductionHypothesis =>
      simp only [List.cons_append, accepted, after_cons,
        inductionHypothesis, Nat.add_assoc]

end Runs

/-! ## One request -/

section Consume

variable {bucket : TokenBucket} {now : Int}

/-- The members a request leaves. -/
theorem consume_members (bucket : TokenBucket) (now : Int) :
    (bucket.consume now 1).2.refillPerSecond = bucket.refillPerSecond ∧
      (bucket.consume now 1).2.capacity = bucket.capacity ∧
      (bucket.consume now 1).2.lastRefill = now := by
  unfold consume
  simp only
  split
  · exact ⟨rfl, rfl, rfl⟩
  · exact ⟨rfl, rfl, rfl⟩

/-- An accepted request takes its token out of the refilled bucket, a refused one
takes none. -/
theorem tokens_consume (bucket : TokenBucket) (now : Int) :
    (bucket.consume now 1).2.tokens + (bucket.consume now 1).1.toNat =
      (bucket.refill now).tokens := by
  unfold consume
  simp only
  split
  · simp
  · simp

theorem consume_refuses_iff :
    (bucket.consume now 1).1 = false ↔ (bucket.refill now).tokens < 1 := by
  unfold consume
  simp only
  split
  case isTrue less =>
    exact iff_of_true rfl less
  case isFalse enough =>
    exact iff_of_false nofun enough

theorem tokens_refill_le (bucket : TokenBucket) (now : Int) :
    (bucket.refill now).tokens ≤ bucket.capacity :=
  min_le_left _ _

/-- The bounds of the tokens. -/
structure Bounded (bucket : TokenBucket) : Prop where
  nonneg : 0 ≤ bucket.tokens
  le_capacity : bucket.tokens ≤ bucket.capacity

theorem Bounded.consume
    (bounded : bucket.Bounded) (rateNonneg : 0 ≤ bucket.refillPerSecond)
    (later : bucket.lastRefill ≤ now) :
    (bucket.consume now 1).2.Bounded := by
  have capacity := bounded.nonneg.trans bounded.le_capacity
  have elapsed := seconds_nonneg (sub_nonneg.mpr later)
  have refilled : 0 ≤ (bucket.refill now).tokens :=
    le_min capacity
      (add_nonneg bounded.nonneg (mul_nonneg elapsed rateNonneg))
  have atMost := tokens_refill_le bucket now
  unfold TokenBucket.consume
  simp only
  split
  case isTrue =>
    exact ⟨refilled, atMost⟩
  case isFalse enough =>
    refine ⟨sub_nonneg.mpr (not_lt.mp enough), ?_⟩
    exact (sub_le_self _ zero_le_one).trans atMost

end Consume

/-! ## Runs of requests -/

section Limits

variable {rate capacity : ℚ} {created clock now until_ : Int}
  {bucket : TokenBucket} {times : List Int}

/-- A bucket of the given rate and capacity that was last asked at `clock`. -/
structure Running
    (rate capacity : ℚ) (clock : Int) (bucket : TokenBucket) : Prop where
  rate_eq : bucket.refillPerSecond = rate
  capacity_eq : bucket.capacity = capacity
  lastRefill_eq : bucket.lastRefill = clock
  bounded : bucket.Bounded

theorem running_create (capacityNonneg : 0 ≤ capacity) :
    Running rate capacity created (create rate capacity created) :=
  ⟨rfl, rfl, rfl, capacityNonneg, le_refl capacity⟩

theorem Running.consume
    (running : Running rate capacity clock bucket)
    (rateNonneg : 0 ≤ rate) (later : clock ≤ now) :
    Running rate capacity now (bucket.consume now 1).2 := by
  obtain ⟨sameRate, sameCapacity, isNow⟩ := consume_members bucket now
  refine ⟨sameRate.trans running.rate_eq,
    sameCapacity.trans running.capacity_eq, isNow, ?_⟩
  refine running.bounded.consume ?_ ?_
  · rw [running.rate_eq]
    exact rateNonneg
  · rw [running.lastRefill_eq]
    exact later

theorem Running.after
    (running : Running rate capacity clock bucket)
    (rateNonneg : 0 ≤ rate)
    (ordered : (clock :: times).Pairwise (· ≤ ·)) :
    Running rate capacity (times.getLastD clock) (bucket.after times) := by
  induction times generalizing clock bucket with
  | nil =>
      exact running
  | cons now rest inductionHypothesis =>
      obtain ⟨later, restOrdered⟩ := List.pairwise_cons.mp ordered
      rw [List.getLastD_cons]
      exact inductionHypothesis
        (running.consume rateNonneg (later now List.mem_cons_self))
        restOrdered

theorem Running.tokens_refill
    (running : Running rate capacity clock bucket) (now : Int) :
    (bucket.refill now).tokens =
      min capacity (bucket.tokens + seconds (now - clock) * rate) := by
  unfold refill
  rw [running.rate_eq, running.capacity_eq, running.lastRefill_eq]

/-- The tokens at hand and the refills bound the accepted requests. -/
theorem Running.accepted_le
    (running : Running rate capacity clock bucket)
    (rateNonneg : 0 ≤ rate)
    (ordered : (clock :: times).Pairwise (· ≤ ·))
    (inTime : ∀ time ∈ times, time ≤ until_) (started : clock ≤ until_) :
    (bucket.accepted times : ℚ) ≤
      bucket.tokens + rate * seconds (until_ - clock) := by
  induction times generalizing clock bucket with
  | nil =>
      have elapsed := seconds_nonneg (sub_nonneg.mpr started)
      have refills := mul_nonneg rateNonneg elapsed
      have nonneg := running.bounded.nonneg
      simp only [accepted, Nat.cast_zero]
      linarith
  | cons now rest inductionHypothesis =>
      obtain ⟨later, restOrdered⟩ := List.pairwise_cons.mp ordered
      have restBound :=
        inductionHypothesis
          (running.consume rateNonneg (later now List.mem_cons_self))
          restOrdered
          (fun time member => inTime time (List.mem_cons_of_mem now member))
          (inTime now List.mem_cons_self)
      have taken := tokens_consume bucket now
      have refilled : (bucket.refill now).tokens ≤ _ :=
        (running.tokens_refill now).trans_le (min_le_right _ _)
      have split := seconds_sub clock now until_
      simp only [accepted, Nat.cast_add]
      rw [split, mul_add]
      linarith

/-- A window of requests has the capacity and the refills inside it. -/
theorem Running.accepted_window_le
    (running : Running rate capacity clock bucket)
    (rateNonneg : 0 ≤ rate)
    (ordered : (clock :: times).Pairwise (· ≤ ·)) {since : Int}
    (inWindow : ∀ time ∈ times, since ≤ time ∧ time ≤ until_)
    (started : since ≤ until_) :
    (bucket.accepted times : ℚ) ≤
      capacity + rate * seconds (until_ - since) := by
  cases times with
  | nil =>
      have elapsed := seconds_nonneg (sub_nonneg.mpr started)
      have refills := mul_nonneg rateNonneg elapsed
      have nonneg := running.bounded.nonneg
      have atMost := running.bounded.le_capacity
      rw [running.capacity_eq] at atMost
      simp only [accepted, Nat.cast_zero]
      linarith
  | cons now rest =>
      obtain ⟨later, restOrdered⟩ := List.pairwise_cons.mp ordered
      obtain ⟨afterStart, beforeEnd⟩ := inWindow now List.mem_cons_self
      have restBound :=
        (running.consume rateNonneg
          (later now List.mem_cons_self)).accepted_le rateNonneg
            restOrdered
            (fun time member =>
              (inWindow time (List.mem_cons_of_mem now member)).2)
            beforeEnd
      have taken := tokens_consume bucket now
      have refilled := tokens_refill_le bucket now
      rw [running.capacity_eq] at refilled
      have split := seconds_sub since now until_
      have waited :=
        mul_nonneg rateNonneg (seconds_nonneg (sub_nonneg.mpr afterStart))
      simp only [accepted, Nat.cast_add]
      rw [split, mul_add]
      linarith

/-- The requests `before` a point in time have left exactly what the capacity and
the refills since some start give, less the requests accepted since.  The start
is the creation or one of the requests from there on. -/
def Balanced
    (rate capacity : ℚ) (created : Int) (before later : List Int)
    (tokens : ℚ) (clock : Int) : Prop :=
  ∃ earlier since time,
    before = earlier ++ since ∧
      (earlier = [] ∧ time = created ∨
        (since ++ later).head? = some time) ∧
      tokens +
          ((create rate capacity created).after earlier).accepted since =
        capacity + rate * seconds (clock - time)

/-- A refill that fills the bucket starts anew; any other refill adds to what is
there. -/
theorem Balanced.refill
    {before : List Int}
    (balanced :
      Balanced rate capacity created before [] bucket.tokens clock)
    (running : Running rate capacity clock bucket) (now : Int) :
    Balanced rate capacity created before [now]
      (bucket.refill now).tokens now := by
  rw [running.tokens_refill]
  by_cases full :
      capacity ≤ bucket.tokens + seconds (now - clock) * rate
  · refine ⟨before, [], now, (List.append_nil _).symm, Or.inr rfl, ?_⟩
    rw [min_eq_left full, sub_self, seconds_zero]
    simp [accepted]
  · obtain ⟨earlier, since, time, isBefore, start, level⟩ := balanced
    refine ⟨earlier, since, time, isBefore, ?_, ?_⟩
    · refine start.imp_right fun isHead => ?_
      rw [List.append_nil] at isHead
      rw [List.head?_append, isHead, Option.some_or]
    · have split := seconds_sub time clock now
      rw [min_eq_right (le_of_not_ge full), split, mul_add]
      linarith

/-- The balance holds before every request of a run. -/
theorem balanced_after
    (rateNonneg : 0 ≤ rate) (capacityNonneg : 0 ≤ capacity)
    (ordered : (created :: times).Pairwise (· ≤ ·)) :
    Balanced rate capacity created times []
      ((create rate capacity created).after times).tokens
      (times.getLastD created) := by
  induction times using List.reverseRecOn with
  | nil =>
      refine ⟨[], [], created, rfl, Or.inl ⟨rfl, rfl⟩, ?_⟩
      simp [accepted, create, seconds_zero]
  | append_singleton before now inductionHypothesis =>
      have beforeOrdered : (created :: before).Pairwise (· ≤ ·) :=
        ordered.sublist
          (List.cons_sublist_cons.mpr (List.sublist_append_left _ _))
      have running :=
        (running_create capacityNonneg).after rateNonneg beforeOrdered
      obtain ⟨earlier, since, time, isBefore, start, level⟩ :=
        (inductionHypothesis beforeOrdered).refill running now
      refine ⟨earlier, since ++ [now], time, ?_, ?_, ?_⟩
      · rw [isBefore, List.append_assoc]
      · rw [List.append_nil]
        exact start
      · have last : (before ++ [now]).getLastD created = now := by
          simp
        have taken :=
          tokens_consume ((create rate capacity created).after before) now
        have reached :
            ((create rate capacity created).after earlier).after since =
              (create rate capacity created).after before := by
          rw [isBefore, after_append]
        rw [last, after_append, accepted_append, reached]
        simp only [after_cons, after_nil, accepted, Nat.add_zero]
        push_cast
        linarith

/-- The times of a window are in order behind the last time before it. -/
theorem ordered_window
    {before window : List Int}
    (ordered : (created :: (before ++ window)).Pairwise (· ≤ ·)) :
    (before.getLastD created :: window).Pairwise (· ≤ ·) := by
  induction before generalizing created with
  | nil =>
      exact ordered
  | cons first rest inductionHypothesis =>
      rw [List.getLastD_cons]
      exact inductionHypothesis (List.pairwise_cons.mp ordered).2

/-- The bucket keeps to its rate and its burst.  Its tokens stay between zero and
the capacity, every window accepts at most the capacity and the refills inside
it, and a request is refused only if some start would have had one request too
many otherwise. -/
theorem rate_and_burst_exact
    (rateNonneg : 0 ≤ rate) (capacityNonneg : 0 ≤ capacity)
    (ordered : (created :: times).Pairwise (· ≤ ·)) :
    (∀ before, before <+: times →
      0 ≤ ((create rate capacity created).after before).tokens ∧
        ((create rate capacity created).after before).tokens ≤ capacity) ∧
    (∀ before window later, times = before ++ window ++ later →
      ∀ since until_, since ≤ until_ →
        (∀ time ∈ window, since ≤ time ∧ time ≤ until_) →
          (((create rate capacity created).after before).accepted
              window : ℚ) ≤
            capacity + rate * seconds (until_ - since)) ∧
    (∀ before now later, times = before ++ now :: later →
      (((create rate capacity created).after before).consume now 1).1 =
          false →
        ∃ earlier since start,
          before = earlier ++ since ∧
            (earlier = [] ∧ start = created ∨
              (since ++ [now]).head? = some start) ∧
            capacity + rate * seconds (now - start) <
              ((create rate capacity created).after earlier).accepted
                since + 1) := by
  have runs {before : List Int} (isPrefix : before <+: times) :
      (created :: before).Pairwise (· ≤ ·) ∧
        Running rate capacity (before.getLastD created)
          ((create rate capacity created).after before) := by
    have beforeOrdered : (created :: before).Pairwise (· ≤ ·) :=
      ordered.sublist (List.cons_sublist_cons.mpr isPrefix.sublist)
    exact ⟨beforeOrdered,
      (running_create capacityNonneg).after rateNonneg beforeOrdered⟩
  refine ⟨?_, ?_, ?_⟩
  · intro before isPrefix
    obtain ⟨_, running⟩ := runs isPrefix
    have atMost := running.bounded.le_capacity
    rw [running.capacity_eq] at atMost
    exact ⟨running.bounded.nonneg, atMost⟩
  · intro before window later isTimes since until_ started inWindow
    have isPrefix : before ++ window <+: times := ⟨later, isTimes.symm⟩
    obtain ⟨windowOrdered, _⟩ := runs isPrefix
    obtain ⟨_, running⟩ :=
      runs ((List.prefix_append before window).trans isPrefix)
    exact running.accepted_window_le rateNonneg
      (ordered_window windowOrdered) inWindow started
  · intro before now later isTimes refused
    have isPrefix : before <+: times := ⟨now :: later, isTimes.symm⟩
    obtain ⟨beforeOrdered, running⟩ := runs isPrefix
    obtain ⟨earlier, since, start, isBefore, isStart, level⟩ :=
      (balanced_after rateNonneg capacityNonneg beforeOrdered).refill
        running now
    have tooFew := consume_refuses_iff.mp refused
    exact ⟨earlier, since, start, isBefore, isStart, by linarith⟩

/-- A bucket of two tokens refuses the third request at once. -/
theorem third_request_refused :
    (((create 1 2 0).after [0, 0]).consume 0 1).1 = false ∧
      ∃ earlier since start,
        [0, 0] = earlier ++ since ∧
          (earlier = [] ∧ start = 0 ∨
            (since ++ [0]).head? = some start) ∧
          (2 : ℚ) + 1 * seconds (0 - start) <
            ((create 1 2 0).after earlier).accepted since + 1 := by
  have refused :
      (((create 1 2 0).after [0, 0]).consume 0 1).1 = false := by
    decide +kernel
  have limits :=
    rate_and_burst_exact (zero_le_one : (0 : ℚ) ≤ 1)
      (zero_le_two : (0 : ℚ) ≤ 2)
      (show ([0, 0, 0, 0] : List Int).Pairwise (· ≤ ·) by decide)
  exact ⟨refused, limits.2.2 [0, 0] 0 [] rfl refused⟩

end Limits

end TokenBucket

/-! ## One bucket for each client -/

/-- The members of `Gateway` that limit rates. -/
structure RateLimiter where
  ratePerSecond : ℚ
  burst : ℚ
  buckets : Bytes → Option TokenBucket := fun _ => none

/-- A call of `allowed_by_rate_limit`, with the times its two readings of the
clock show: in the constructor of a new bucket and in `consume`. -/
structure LimitedRequest where
  clientId : Bytes
  constructed : Int
  now : Int
  deriving DecidableEq, Repr

namespace RateLimiter

/-- `allowed_by_rate_limit`. -/
def allowedByRateLimit
    (request : LimitedRequest) (limiter : RateLimiter) :
    Bool × RateLimiter :=
  let bucket :=
    (limiter.buckets request.clientId).getD
      (TokenBucket.create limiter.ratePerSecond limiter.burst
        request.constructed)
  let (allowed, asked) := bucket.consume request.now 1
  (allowed,
    { limiter with
      buckets :=
        Function.update limiter.buckets request.clientId (some asked) })

/-- The limiter after a list of calls. -/
def after (limiter : RateLimiter) (requests : List LimitedRequest) :
    RateLimiter :=
  requests.foldl
    (fun limiter request => (limiter.allowedByRateLimit request).2) limiter

/-- The requests of one client. -/
def ofClient (clientId : Bytes) (requests : List LimitedRequest) :
    List LimitedRequest :=
  requests.filter fun request => request.clientId = clientId

/-- The bucket of a client with the given requests. -/
def bucketOf (ratePerSecond burst : ℚ) (own : List LimitedRequest) :
    Option TokenBucket :=
  own.head?.map fun first =>
    (TokenBucket.create ratePerSecond burst first.constructed).after
      (own.map LimitedRequest.now)

/-- A client's bucket depends on the client's own requests only. -/
theorem buckets_after
    (ratePerSecond burst : ℚ) (requests : List LimitedRequest)
    (clientId : Bytes) :
    (after { ratePerSecond, burst } requests).buckets clientId =
        bucketOf ratePerSecond burst (ofClient clientId requests) ∧
      (after { ratePerSecond, burst } requests).ratePerSecond =
        ratePerSecond ∧
      (after { ratePerSecond, burst } requests).burst = burst := by
  induction requests using List.reverseRecOn with
  | nil =>
      exact ⟨rfl, rfl, rfl⟩
  | append_singleton requests request inductionHypothesis =>
      have concat :
          after { ratePerSecond, burst } (requests ++ [request]) =
            ((after { ratePerSecond, burst } requests).allowedByRateLimit
              request).2 :=
        List.foldl_concat _ _ _ _
      rw [concat]
      obtain ⟨isBucket, sameRate, sameBurst⟩ := inductionHypothesis
      refine ⟨?_, sameRate, sameBurst⟩
      by_cases own : request.clientId = clientId
      · subst own
        have appended :
            ofClient request.clientId (requests ++ [request]) =
              ofClient request.clientId requests ++ [request] := by
          simp [ofClient]
        simp only [allowedByRateLimit, Function.update_self, isBucket,
          sameRate, sameBurst, appended]
        cases ofClient request.clientId requests with
        | nil =>
            rfl
        | cons first rest =>
            simp [bucketOf, TokenBucket.after_append]
      · have skipped :
            ofClient clientId (requests ++ [request]) =
              ofClient clientId requests := by
          simp [ofClient, own]
        simp only [allowedByRateLimit, skipped,
          Function.update_of_ne (Ne.symm own)]
        exact isBucket

/-- The answer to a request is the answer of a bucket that was created at the
client's first request and has seen the client's requests only. -/
theorem allowedByRateLimit_own
    (ratePerSecond burst : ℚ) (requests : List LimitedRequest)
    (request : LimitedRequest) :
    ((after { ratePerSecond, burst } requests).allowedByRateLimit
        request).1 =
      (((TokenBucket.create ratePerSecond burst
          ((ofClient request.clientId requests).head?.getD
            request).constructed).after
              ((ofClient request.clientId requests).map
                LimitedRequest.now)).consume request.now 1).1 := by
  obtain ⟨isBucket, sameRate, sameBurst⟩ :=
    buckets_after ratePerSecond burst requests request.clientId
  simp only [allowedByRateLimit, isBucket, sameRate, sameBurst]
  cases ofClient request.clientId requests with
  | nil =>
      rfl
  | cons first rest =>
      rfl

end RateLimiter

end ShardedKvStore

import ShardedKvStore.Gateway

/-!
# What a circuit breaker remembers

A breaker is called in any order, and it is told outcomes also while it is open.
All that counts of its calls is how many failures came after the last success and
when the last failure was: the counter goes on while the breaker is open, every
failure at the threshold or above sets `opened_at_` anew, and a half-open breaker
has waited long enough for good.
-/

namespace ShardedKvStore

/-- The member functions of a breaker. -/
inductive BreakerCall where
  | allowRequest
  | recordSuccess
  | recordFailure
  deriving DecidableEq, Repr

/-- A call and the time the clock shows in it. -/
structure TimedCall where
  call : BreakerCall
  time : Int
  deriving DecidableEq, Repr

/-! ## The history alone -/

/-- The failures since the last success, or since construction. -/
def failuresSinceSuccess (history : List TimedCall) : Nat :=
  (history.reverse.takeWhile
    fun made => made.call != .recordSuccess).countP
      fun made => made.call == .recordFailure

/-- The time of the most recent failure. -/
def lastFailure (history : List TimedCall) : Option Int :=
  (history.reverse.find? fun made => made.call == .recordFailure).map
    TimedCall.time

/-- All failures of a history. -/
def totalFailures (history : List TimedCall) : Nat :=
  history.countP fun made => made.call == .recordFailure

section History

variable {history : List TimedCall} {time : Int}

@[simp]
theorem failuresSinceSuccess_allow :
    failuresSinceSuccess (history ++ [⟨.allowRequest, time⟩]) =
      failuresSinceSuccess history := by
  simp [failuresSinceSuccess]

@[simp]
theorem failuresSinceSuccess_success :
    failuresSinceSuccess (history ++ [⟨.recordSuccess, time⟩]) = 0 := by
  simp [failuresSinceSuccess]

@[simp]
theorem failuresSinceSuccess_failure :
    failuresSinceSuccess (history ++ [⟨.recordFailure, time⟩]) =
      failuresSinceSuccess history + 1 := by
  simp [failuresSinceSuccess]

@[simp]
theorem lastFailure_allow :
    lastFailure (history ++ [⟨.allowRequest, time⟩]) =
      lastFailure history := by
  simp [lastFailure]

@[simp]
theorem lastFailure_failure :
    lastFailure (history ++ [⟨.recordFailure, time⟩]) = some time := by
  simp [lastFailure]

theorem failuresSinceSuccess_le (history : List TimedCall) :
    failuresSinceSuccess history ≤ totalFailures history := by
  unfold failuresSinceSuccess totalFailures
  refine ((List.takeWhile_sublist _).countP_le).trans ?_
  rw [List.countP_reverse]

end History

/-! ## The breaker -/

namespace CircuitBreaker

/-- `CircuitBreaker::CircuitBreaker`. -/
def create (failureThreshold : UInt64) (openDuration : Int) :
    CircuitBreaker where
  failureThreshold := failureThreshold
  openDuration := openDuration

/-- The breaker after a call. -/
def perform (breaker : CircuitBreaker) (made : TimedCall) :
    CircuitBreaker :=
  match made.call with
  | .allowRequest => (breaker.allowRequest made.time).2
  | .recordSuccess => breaker.recordSuccess
  | .recordFailure => breaker.recordFailure made.time

/-- The breaker after a history of calls. -/
def after (breaker : CircuitBreaker) (history : List TimedCall) :
    CircuitBreaker :=
  history.foldl perform breaker

theorem after_concat
    (breaker : CircuitBreaker) (history : List TimedCall)
    (made : TimedCall) :
    breaker.after (history ++ [made]) =
      (breaker.after history).perform made :=
  List.foldl_concat _ _ _ _

/-- What the members of a breaker say about its history. -/
structure Recalls
    (failureThreshold : UInt64) (openDuration : Int)
    (history : List TimedCall) (breaker : CircuitBreaker) : Prop where
  threshold : breaker.failureThreshold = failureThreshold
  duration : breaker.openDuration = openDuration
  counted :
    breaker.consecutiveFailures.toNat = failuresSinceSuccess history
  closed :
    breaker.state = .closed ↔
      failuresSinceSuccess history < failureThreshold.toNat
  openedAt :
    failureThreshold.toNat ≤ failuresSinceSuccess history →
      lastFailure history = some breaker.openedAt
  waited :
    breaker.state = .halfOpen →
      ∃ made ∈ history, openDuration ≤ made.time - breaker.openedAt

section Recalls

variable {failureThreshold : UInt64} {openDuration : Int}
  {history : List TimedCall} {breaker : CircuitBreaker}

theorem recalls_create (positive : 1 ≤ failureThreshold) :
    Recalls failureThreshold openDuration []
      (create failureThreshold openDuration) where
  threshold := rfl
  duration := rfl
  counted := rfl
  closed := by
    have atLeastOne := UInt64.le_iff_toNat_le.mp positive
    exact iff_of_true rfl atLeastOne
  openedAt := by
    intro reached
    have atLeastOne := UInt64.le_iff_toNat_le.mp positive
    exact absurd (atLeastOne.trans reached) (by decide)
  waited := by
    intro halfOpen
    cases halfOpen

theorem Recalls.not_closed
    (recalls : Recalls failureThreshold openDuration history breaker) :
    breaker.state ≠ .closed ↔
      failureThreshold.toNat ≤ failuresSinceSuccess history := by
  rw [← not_lt]
  exact not_congr recalls.closed

/-- Asking changes nothing but the state of an open breaker that has waited. -/
theorem Recalls.allowRequest
    (recalls : Recalls failureThreshold openDuration history breaker)
    (now : Int) :
    Recalls failureThreshold openDuration
      (history ++ [⟨.allowRequest, now⟩]) (breaker.allowRequest now).2 := by
  have waited :
      breaker.state = .halfOpen →
        ∃ made ∈ history ++ [⟨.allowRequest, now⟩],
          openDuration ≤ made.time - breaker.openedAt := by
    intro halfOpen
    obtain ⟨made, member, enough⟩ := recalls.waited halfOpen
    exact ⟨made, List.mem_append_left _ member, enough⟩
  have unchanged :
      Recalls failureThreshold openDuration
        (history ++ [⟨.allowRequest, now⟩]) breaker :=
    { threshold := recalls.threshold
      duration := recalls.duration
      counted := by simpa using recalls.counted
      closed := by simpa using recalls.closed
      openedAt := by simpa using recalls.openedAt
      waited := waited }
  unfold CircuitBreaker.allowRequest
  split
  case h_1 =>
    exact unchanged
  case h_2 isOpen =>
    split
    case isTrue enough =>
      have notClosed : breaker.state ≠ .closed := by
        rw [isOpen]
        decide
      exact
        { unchanged with
          closed :=
            iff_of_false nofun fun below =>
              notClosed (unchanged.closed.mpr below)
          waited := fun _ =>
            ⟨⟨.allowRequest, now⟩, by simp, recalls.duration ▸ enough⟩ }
    case isFalse =>
      exact unchanged
  case h_3 =>
    exact unchanged

theorem Recalls.recordSuccess
    (recalls : Recalls failureThreshold openDuration history breaker)
    (positive : 1 ≤ failureThreshold) (now : Int) :
    Recalls failureThreshold openDuration
      (history ++ [⟨.recordSuccess, now⟩]) breaker.recordSuccess := by
  have atLeastOne := UInt64.le_iff_toNat_le.mp positive
  have below :
      failuresSinceSuccess (history ++ [⟨.recordSuccess, now⟩]) <
        failureThreshold.toNat := by
    rw [failuresSinceSuccess_success]
    exact atLeastOne
  exact
    { threshold := recalls.threshold
      duration := recalls.duration
      counted := by
        rw [failuresSinceSuccess_success]
        rfl
      closed := iff_of_true rfl below
      openedAt := fun reached => absurd reached (not_le.mpr below)
      waited := fun halfOpen => by cases halfOpen }

/-- A failure at the threshold or above opens the breaker at its time, whatever
the state was; one below leaves it closed. -/
theorem Recalls.recordFailure
    (recalls : Recalls failureThreshold openDuration history breaker)
    (few : failuresSinceSuccess history + 1 < 2 ^ 64) (now : Int) :
    Recalls failureThreshold openDuration
      (history ++ [⟨.recordFailure, now⟩])
      (breaker.recordFailure now) := by
  have counted :
      (breaker.consecutiveFailures + 1).toNat =
        failuresSinceSuccess history + 1 := by
    rw [UInt64.toNat_add, recalls.counted]
    exact Nat.mod_eq_of_lt few
  have reaches :
      breaker.consecutiveFailures + 1 ≥ breaker.failureThreshold ↔
        failureThreshold.toNat ≤ failuresSinceSuccess history + 1 := by
    rw [ge_iff_le, UInt64.le_iff_toNat_le, counted, recalls.threshold]
  unfold CircuitBreaker.recordFailure
  simp only
  split
  case isTrue opens =>
    have atThreshold :
        failureThreshold.toNat ≤ failuresSinceSuccess history + 1 := by
      rcases opens with halfOpen | enough
      · have notClosed : breaker.state ≠ .closed := by
          rw [halfOpen]
          decide
        exact (recalls.not_closed.mp notClosed).trans (Nat.le_succ _)
      · exact reaches.mp enough
    exact
      { threshold := recalls.threshold
        duration := recalls.duration
        counted := counted.trans failuresSinceSuccess_failure.symm
        closed := by
          rw [failuresSinceSuccess_failure]
          exact iff_of_false nofun (not_lt.mpr atThreshold)
        openedAt := fun _ => lastFailure_failure
        waited := fun halfOpen => by cases halfOpen }
  case isFalse stays =>
    obtain ⟨notHalfOpen, tooFew⟩ := not_or.mp stays
    have below :
        failuresSinceSuccess history + 1 < failureThreshold.toNat :=
      not_le.mp fun reached => tooFew (reaches.mpr reached)
    exact
      { threshold := recalls.threshold
        duration := recalls.duration
        counted := counted.trans failuresSinceSuccess_failure.symm
        closed := by
          rw [failuresSinceSuccess_failure]
          exact iff_of_true
            (recalls.closed.mpr ((Nat.lt_succ_self _).trans below)) below
        openedAt := by
          rw [failuresSinceSuccess_failure]
          exact fun reached => absurd reached (not_le.mpr below)
        waited := fun halfOpen => absurd halfOpen notHalfOpen }

/-- The members recall every history with fewer than `2^64` failures. -/
theorem recalls_after
    (positive : 1 ≤ failureThreshold) (openDuration : Int)
    (few : totalFailures history < 2 ^ 64) :
    Recalls failureThreshold openDuration history
      ((create failureThreshold openDuration).after history) := by
  induction history using List.reverseRecOn with
  | nil =>
      exact recalls_create positive
  | append_singleton history made inductionHypothesis =>
      have total :
          totalFailures (history ++ [made]) =
            totalFailures history + totalFailures [made] :=
        List.countP_append
      have recalls := inductionHypothesis (by omega)
      rw [after_concat]
      obtain ⟨call, time⟩ := made
      cases call with
      | allowRequest =>
          exact recalls.allowRequest time
      | recordSuccess =>
          exact recalls.recordSuccess positive time
      | recordFailure =>
          have one : totalFailures [⟨.recordFailure, time⟩] = 1 := rfl
          have bound := failuresSinceSuccess_le history
          exact recalls.recordFailure (by omega) time

/-- `allow_request` refuses exactly when the failures since the last success have
reached the threshold and the most recent one is younger than the duration. -/
theorem allowRequest_memoryless
    (positive : 1 ≤ failureThreshold) (openDuration : Int) {now : Int}
    (ordered :
      (history.map TimedCall.time ++ [now]).Pairwise (· ≤ ·))
    (few : totalFailures history < 2 ^ 64) :
    (((create failureThreshold openDuration).after history).allowRequest
        now).1 = false ↔
      failureThreshold.toNat ≤ failuresSinceSuccess history ∧
        ∃ last,
          lastFailure history = some last ∧ now - last < openDuration := by
  have recalls := recalls_after positive openDuration few
  generalize (create failureThreshold openDuration).after history =
    breaker at recalls ⊢
  have earlier : ∀ made ∈ history, made.time ≤ now := fun made member =>
    (List.pairwise_append.mp ordered).2.2 made.time
      (List.mem_map_of_mem member) now List.mem_cons_self
  have young :
      failureThreshold.toNat ≤ failuresSinceSuccess history →
        ((∃ last,
            lastFailure history = some last ∧
              now - last < openDuration) ↔
          now - breaker.openedAt < openDuration) := by
    intro reached
    simp [recalls.openedAt reached]
  unfold CircuitBreaker.allowRequest
  split
  case h_1 closed =>
    refine iff_of_false nofun fun ⟨reached, _⟩ => ?_
    exact recalls.not_closed.mpr reached closed
  case h_2 isOpen =>
    have reached := recalls.not_closed.mp (by rw [isOpen]; decide)
    rw [and_iff_right reached, young reached]
    split
    case isTrue enough =>
      rw [recalls.duration] at enough
      exact iff_of_false nofun (not_lt.mpr enough)
    case isFalse early =>
      rw [recalls.duration] at early
      exact iff_of_true rfl (not_le.mp early)
  case h_3 halfOpen =>
    have reached := recalls.not_closed.mp (by rw [halfOpen]; decide)
    rw [and_iff_right reached, young reached]
    obtain ⟨made, member, enough⟩ := recalls.waited halfOpen
    have before := earlier made member
    exact iff_of_false nofun (by omega)

/-- Two failures, the second one tick after the first, and a request right
after. -/
theorem second_failure_refuses :
    (((create 2 5).after
        [⟨.recordFailure, 0⟩, ⟨.recordFailure, 1⟩,
          ⟨.allowRequest, 2⟩]).allowRequest 3).1 = false :=
  (allowRequest_memoryless (by decide) 5 (by decide) (by decide)).mpr
    ⟨by decide, 1, by decide, by decide⟩

end Recalls

end CircuitBreaker

end ShardedKvStore

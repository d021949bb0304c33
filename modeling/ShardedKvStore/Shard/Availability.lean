import ShardedKvStore.Shard.CleanRuns

/-!
# When operations are served

With a majority online a write is accepted exactly when the replica that leads
it has no uncommitted tail, or is the only replica.  Without a majority writes
are always refused, and reads exactly when no leader is set: an online leader
serves reads without counting anyone.
-/

namespace ShardedKvStore.Shard

open Foundation
open SqliteStore

variable {count : Nat}

/-- The operation returned with the given status. -/
def Answered
    (ok : Bool) (status : Nat) (answer : Except KvError OperationResult) :
    Prop :=
  ∃ result, answer = .ok result ∧ result.ok = ok ∧ result.status = status

theorem Answered.unique
    {ok ok' : Bool} {status status' : Nat}
    {answer : Except KvError OperationResult}
    (first : Answered ok status answer)
    (second : Answered ok' status' answer) :
    ok = ok' ∧ status = status' := by
  obtain ⟨result, returned, isOk, hasStatus⟩ := first
  obtain ⟨result', returned', isOk', hasStatus'⟩ := second
  rw [returned] at returned'
  cases returned'
  exact ⟨isOk.symm.trans isOk', hasStatus.symm.trans hasStatus'⟩

section Spec

variable {agreed : List LogEntry} {bound : Int} {shard : Shard count}
  {elections : List Int}

/-- A write is answered according to `Accepts`. -/
theorem Operational.answered_replicateCommand
    (operational : Operational agreed bound shard)
    (agree : DurableAgree agreed bound ⟨shard.files, elections⟩)
    {command : Bytes} (isCommand : IsCommand command)
    (key value : Bytes) :
    (shard.Accepts →
      Answered true (if command = deleteCommand then 200 else 201)
        (replicateCommand command key value shard).result) ∧
      (¬ shard.Accepts →
        Answered false 503
          (replicateCommand command key value shard).result) := by
  obtain ⟨result, _, _, _, _, _, runs, _, _, answer⟩ :=
    operational.write_spec agree isCommand key value
  rw [runs]
  cases answer with
  | stored accepts _ _ isOk status =>
      exact ⟨fun _ => ⟨result, rfl, isOk, status⟩,
        fun refuses => absurd accepts refuses⟩
  | rejected refuses failed status =>
      exact ⟨fun accepts => absurd accepts refuses,
        fun _ => ⟨result, rfl, failed, status⟩⟩

theorem Operational.accepts_iff
    (operational : Operational agreed bound shard)
    (quorum :
      Foundation.majority count ≤
        tally fun position => (shard.replicas position).online) :
    shard.Accepts ↔
      count = 1 ∨
        ∀ leader,
          shard.leading = some leader →
            (shard.replicas leader).store.lastLogIndex =
              (shard.replicas leader).commitIndex := by
  have noTail_iff (leader : Fin count) :
      (shard.replicas leader).store.uncommitted = [] ↔
        (shard.replicas leader).store.lastLogIndex =
          (shard.replicas leader).commitIndex := by
    have wellFormed := operational.coherent.wellFormed leader
    have commitLe := wellFormed.commitLe
    have commitNonneg := wellFormed.commitNonneg
    rw [lastLogIndex_eq wellFormed.wellFormedLog.contiguous,
      (operational.coherent.inStep leader).commit]
    unfold SqliteStore.uncommitted
    rw [List.drop_eq_nil_iff]
    omega
  unfold Accepts
  simp only [quorum, true_and, noTail_iff]

theorem putCommand_ne_deleteCommand : putCommand ≠ deleteCommand := by
  decide

end Spec

/-! ## Writes with a majority online -/

/-- In every run, crashes included, a shard with a majority online stores every
write exactly when it has one replica, or the replica that leads the write, the
current leader or else the candidate of the election, has no entry beyond its
commit index. -/
theorem writes_served_iff_no_tail
    {shardId : Nat} {labels : List ShardLabel} {shard : Shard count}
    {elections : List Int} (positive : 0 < count)
    (run : ShardRun shardId labels (.running shard elections))
    (quorum :
      majority count ≤
        tally fun position => (shard.replicas position).online) :
    ((∀ key value, Answered true 201 (put key value shard).result) ∧
        ∀ key, Answered true 200 (erase key shard).result) ↔
      count = 1 ∨
        ∀ leader,
          shard.leading = some leader →
            (shard.replicas leader).store.lastLogIndex =
              (shard.replicas leader).commitIndex := by
  obtain ⟨agreed, bound, operational, agree, _⟩ :=
    ShardRun.agrees positive run
  have puts (key value : Bytes) :=
    operational.answered_replicateCommand agree (Or.inl rfl) key value
  have erases (key : Bytes) :=
    operational.answered_replicateCommand agree (Or.inr rfl) key []
  rw [← operational.accepts_iff quorum]
  constructor
  · intro served
    by_contra refuses
    have both := (served.1 [] []).unique ((puts [] []).2 refuses)
    exact Bool.true_eq_false.mp both.1
  · intro accepts
    refine ⟨fun key value => ?_, fun key => (erases key).1 accepts⟩
    have stored := (puts key value).1 accepts
    rwa [if_neg putCommand_ne_deleteCommand] at stored

/-- After a crash right behind the leader's `append_local` and a restart all
three replicas are online, and the first put and the first erase are refused. -/
theorem writes_refused_after_crash :
    ∃ labels elections,
      ShardRun 0 labels
          (.running (restarted 0 (crashedPut 1)) elections) ∧
        (∀ position,
          ((restarted 0 (crashedPut 1)).replicas position).online = true) ∧
        Answered false 503
          (put (bytes "k") (bytes "w")
            (restarted 0 (crashedPut 1))).result ∧
        Answered false 503
          (erase (bytes "k") (restarted 0 (crashedPut 1))).result := by
  refine ⟨_, _, shardRun_crashedPut 1, by decide +kernel, ?_, ?_⟩
  · refine ⟨{ ok := false
              status := 503
              message :=
                bytes "write rejected because a majority could not acknowledge the log entry"
              leader := bytes "s0-r0" }, ?_, rfl, rfl⟩
    decide +kernel
  · refine ⟨{ ok := false
              status := 503
              message :=
                bytes "write rejected because a majority could not acknowledge the log entry"
              leader := bytes "s0-r0" }, ?_, rfl, rfl⟩
    decide +kernel

/-- After a crash between the leader's commit and those of its followers, and a
restart, puts and erases are served. -/
theorem writes_served_after_crash :
    ∃ labels elections,
      ShardRun 0 labels
          (.running (restarted 0 (crashedPut 15)) elections) ∧
        (∀ key value,
          Answered true 201
            (put key value (restarted 0 (crashedPut 15))).result) ∧
        ∀ key,
          Answered true 200
            (erase key (restarted 0 (crashedPut 15))).result := by
  have positive : 0 < 3 := by decide
  have run := shardRun_crashedPut 15
  exact ⟨_, _, run,
    (writes_served_iff_no_tail positive run (by decide +kernel)).mpr
      (by decide +kernel)⟩

/-! ## Operations without a majority -/

/-- In every run a shard without a majority online refuses puts, erases and gets
exactly when `current_leader_locked` finds no leader. -/
theorem minority_refuses_iff_no_leader
    {shardId : Nat} {labels : List ShardLabel} {shard : Shard count}
    {elections : List Int} (positive : 0 < count)
    (run : ShardRun shardId labels (.running shard elections))
    (minority :
      (tally fun position => (shard.replicas position).online) <
        majority count) :
    ((∀ key value, Answered false 503 (put key value shard).result) ∧
        (∀ key, Answered false 503 (erase key shard).result) ∧
        ∀ key, Answered false 503 (get key shard).result) ↔
      shard.currentLeader = none := by
  obtain ⟨agreed, bound, operational, agree, _⟩ :=
    ShardRun.agrees positive run
  have refuses : ¬ shard.Accepts :=
    fun accepts => absurd accepts.1 (not_le.mpr minority)
  have puts (key value : Bytes) :=
    operational.answered_replicateCommand agree (Or.inl rfl) key value
  have erases (key : Bytes) :=
    operational.answered_replicateCommand agree (Or.inr rfl) key []
  constructor
  · rintro ⟨_, _, gets⟩
    obtain ⟨result, refused, _, status⟩ := gets []
    obtain ⟨result', _, _, _, _, runs, _, _, answer⟩ :=
      operational.get_spec agree []
    rw [runs] at refused
    cases refused
    cases answer with
    | unavailable notAvailable _ _ =>
        simpa using fun hasLeader => notAvailable (Or.inl hasLeader)
    | missing _ _ _ _ missing =>
        rw [missing] at status
        cases status
    | found _ _ _ _ found _ =>
        rw [found] at status
        cases status
  · intro noLeader
    refine ⟨fun key value => (puts key value).2 refuses,
      fun key => (erases key).2 refuses, fun key => ?_⟩
    obtain ⟨result, _, _, _, _, runs, _, _, answer⟩ :=
      operational.get_spec agree key
    rw [runs]
    have notAvailable : ¬ shard.Available := by
      rintro (hasLeader | quorum)
      · rw [noLeader] at hasLeader
        cases hasLeader
      · exact absurd quorum (not_le.mpr minority)
    cases answer with
    | unavailable _ failed status =>
        exact ⟨result, rfl, failed, status⟩
    | missing available _ _ _ _ =>
        exact absurd available notAvailable
    | found available _ _ _ _ _ =>
        exact absurd available notAvailable

/-- Three replicas that have stored a value, with only the leader online. -/
def leaderAlone : Shard 3 :=
  ((Operation.failReplica (bytes "s0-r2")).call
    ((Operation.failReplica (bytes "s0-r1")).call
      ((Operation.put (bytes "k") (bytes "v")).call
        (begun 0 3)).state).state).state

/-- The remaining leader serves a read, although there is no majority. -/
theorem get_served_without_majority :
    ∃ labels elections,
      CleanRun 0 labels (.running leaderAlone elections) ∧
        (tally fun position => (leaderAlone.replicas position).online) <
          majority 3 ∧
        (get (bytes "k") leaderAlone).result =
          .ok
            { ok := true
              status := 200
              message := bytes "ok"
              value := bytes "v"
              leader := bytes "s0-r0" } := by
  have positive : 0 < 3 := by decide
  have cleanRun :=
    (((cleanRun_begun positive 0).call
      (.put (bytes "k") (bytes "v"))).call
        (.failReplica (bytes "s0-r1"))).call
          (.failReplica (bytes "s0-r2"))
  exact ⟨_, _, cleanRun, by decide +kernel, by decide +kernel⟩

/-- Three replicas after the leader and another replica have failed. -/
def followerAlone : Shard 3 :=
  ((Operation.failReplica (bytes "s0-r1")).call
    ((Operation.failReplica (bytes "s0-r0")).call (begun 0 3)).state).state

/-- Without the leader every operation is refused. -/
theorem follower_alone_refuses :
    ∃ labels elections,
      ShardRun 0 labels (.running followerAlone elections) ∧
        (tally fun position => (followerAlone.replicas position).online) <
          majority 3 ∧
        ∀ key, Answered false 503 (get key followerAlone).result := by
  have positive : 0 < 3 := by decide
  have cleanRun :=
    ((cleanRun_begun positive 0).call
      (.failReplica (bytes "s0-r0"))).call
        (.failReplica (bytes "s0-r1"))
  have minority :
      (tally fun position => (followerAlone.replicas position).online) <
        majority 3 := by
    decide +kernel
  exact ⟨_, _, cleanRun.run, minority,
    ((minority_refuses_iff_no_leader positive cleanRun.run minority).mpr
      (by decide +kernel)).2.2⟩

end ShardedKvStore.Shard

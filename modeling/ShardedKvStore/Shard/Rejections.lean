import ShardedKvStore.Shard.Availability

/-!
# Rejected writes

A write that misses its majority has appended an entry on the leader and on every
follower that acknowledged it.  In runs without crashes each of them is then cut
back to its own commit index, which is where its log ended before.
-/

namespace ShardedKvStore.Shard

open Foundation
open SqliteStore

variable {count : Nat}

/-- Log, table, indexes and term of a replica are the same. -/
structure SameReplica (before after : RaftReplica) : Prop where
  log : after.store.log = before.store.log
  kv : after.store.kv = before.store.kv
  commitIndex : after.commitIndex = before.commitIndex
  lastApplied : after.lastApplied = before.lastApplied
  currentTerm : after.currentTerm = before.currentTerm

theorem SameReplica.refl (replica : RaftReplica) :
    SameReplica replica replica :=
  ⟨rfl, rfl, rfl, rfl, rfl⟩

section Write

variable {shardId : Nat} {agreed : List LogEntry} {bound : Int}
  {shard : Shard count} {elections : List Int} {leader : Fin count}

/-- Cutting a write off again leaves every replica as it was. -/
theorem CleanState.sameReplica_written
    (clean : CleanState shardId agreed bound (.running shard elections))
    (leads : Leads agreed bound shard leader) {entry : LogEntry}
    (nextIndex :
      entry.index = (shard.replicas leader).store.log.length + 1)
    (extends_ :
      WellFormedLog
        ((shard.replicas leader).store.log ++ [entry.stored]))
    (position : Fin count) :
    SameReplica (shard.replicas position)
      ((shard.written leader entry cutOff).replicas position) := by
  have coherent := clean.1.1.coherent
  refine written_cases coherent
    (fun position replica =>
      SameReplica (shard.replicas position) replica)
    ?_ ?_ ?_ ?_ position
  · have discarded :=
      discarded_cutOff (coherent.pending_appended nextIndex)
        (coherent.wellFormed leader) extends_
        (coherent.inStep leader).commit
    exact ⟨discarded.log.trans (clean.committed_eq_log leader),
      discarded.kv, rfl, rfl, rfl⟩
  · intro follower acknowledges
    obtain ⟨_, online, log, _, leaderLog⟩ :=
      leads.acknowledging_before coherent acknowledges
    rw [leaderLog, ← log] at extends_
    have discarded :=
      discarded_cutOff
        (leads.pending_sent coherent nextIndex acknowledges)
        (coherent.wellFormed follower) extends_
        (coherent.inStep follower).commit
    refine ⟨discarded.log.trans (clean.committed_eq_log follower),
      discarded.kv, rfl, rfl, ?_⟩
    change (shard.replicas leader).currentTerm = _
    rw [leads.term, leads.level follower online]
  · intro follower _ _ hasTail
    exact absurd (clean.uncommitted_eq_nil leader) hasTail
  · exact fun other _ _ => .refl _

/-- A write that is answered with 503 leaves every replica as it was. -/
theorem CleanState.rejected
    (clean : CleanState shardId agreed bound (.running shard elections))
    {command : Bytes} (isCommand : IsCommand command)
    (key value : Bytes) {result : OperationResult}
    (answered :
      (replicateCommand command key value shard).result = .ok result)
    (status : result.status = 503) (position : Fin count) :
    SameReplica (shard.replicas position)
      ((replicateCommand command key value shard).state.replicas
        position) := by
  obtain ⟨operational, agree, _⟩ := clean.1
  have refuses : ¬ shard.Accepts := by
    intro accepts
    obtain ⟨stored, returned, _, accepted⟩ :=
      (operational.answered_replicateCommand agree isCommand key
        value).1 accepts
    rw [answered] at returned
    obtain rfl := Except.ok.inj returned
    rw [status] at accepted
    split at accepted
    · cases accepted
    · cases accepted
  cases found : shard.currentLeader with
  | none =>
      have notAvailable : ¬ shard.Available := by
        rintro (hasLeader | quorum)
        · rw [found] at hasLeader
          cases hasLeader
        · exact refuses (clean.accepts_of_quorum quorum)
      rw [operational.replicateCommand_unavailable notAvailable]
      exact .refl _
  | some leader =>
      have coherent := operational.coherent
      have prepared := operational.prepared_of_leader found agree
      have leads := prepared.leads
      have extends_ := leads.extends_proposal coherent isCommand key value
      have tooFew := not_not.mp (prepared.accepts_iff.not.mpr refuses)
      rw [prepared.rejects isCommand key value tooFew]
      exact clean.sameReplica_written leads
        (coherent.index_proposal leader command key value) extends_ position

end Write

/-- In a run without crashes a put or an erase that is answered with 503 leaves
log, table, indexes and term of every replica as they were. -/
theorem rejected_write_changes_nothing
    {shardId : Nat} {labels : List ShardLabel} {shard : Shard count}
    {elections : List Int} (positive : 0 < count)
    (cleanRun : CleanRun shardId labels (.running shard elections)) :
    (∀ key value result,
      (put key value shard).result = .ok result → result.status = 503 →
        ∀ position,
          SameReplica (shard.replicas position)
            ((put key value shard).state.replicas position)) ∧
      ∀ key result,
        (erase key shard).result = .ok result → result.status = 503 →
          ∀ position,
            SameReplica (shard.replicas position)
              ((erase key shard).state.replicas position) := by
  obtain ⟨agreed, bound, clean⟩ := cleanRun.cleanState positive
  constructor
  · intro key value result answered rejected position
    exact clean.rejected (Or.inl rfl) key value answered rejected position
  · intro key result answered rejected position
    exact clean.rejected (Or.inr rfl) key [] answered rejected position

/-- The remaining leader of three replicas refuses a put and keeps its log of one
entry. -/
theorem leader_alone_unchanged :
    ∃ labels elections,
      CleanRun 0 labels (.running leaderAlone elections) ∧
        Answered false 503
          (put (bytes "k") (bytes "w") leaderAlone).result ∧
        (leaderAlone.replicas 0).store.log.length = 1 ∧
        ∀ position,
          SameReplica (leaderAlone.replicas position)
            ((put (bytes "k") (bytes "w") leaderAlone).state.replicas
              position) := by
  have positive : 0 < 3 := by decide
  have cleanRun :=
    (((cleanRun_begun positive 0).call
      (.put (bytes "k") (bytes "v"))).call
        (.failReplica (bytes "s0-r1"))).call
          (.failReplica (bytes "s0-r2"))
  have refused :
      (put (bytes "k") (bytes "w") leaderAlone).result =
        .ok
          { ok := false
            status := 503
            message :=
              bytes "write rejected because a majority could not acknowledge the log entry"
            leader := bytes "s0-r0" } := by
    decide +kernel
  exact ⟨_, _, cleanRun, ⟨_, refused, rfl, rfl⟩, by decide +kernel,
    (rejected_write_changes_nothing positive cleanRun).1 _ _ _ refused
      rfl⟩

end ShardedKvStore.Shard

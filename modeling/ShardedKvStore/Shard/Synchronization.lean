import ShardedKvStore.Shard.Calls

/-!
# Synchronizing a follower by snapshot

`sync_follower_locked` makes an online follower, whatever its log and table
were, a copy of the committed part of the leader.  The copy is complete: the
second synchronization finds nothing to change.
-/

namespace ShardedKvStore.Shard

open Foundation
open SqliteStore

variable {count : Nat}

/-- Installing the same entries in the same term again gives the same
replica. -/
theorem afterInstall_afterInstall
    (replica : RaftReplica) {entries : List LogEntry}
    (knownLog : KnownLog entries) (term : Int) :
    (replica.afterInstall term entries).afterInstall term entries =
      replica.afterInstall term entries := by
  obtain ⟨log, kv, rows⟩ :=
    RaftReplica.executeAll_installStatements knownLog replica.store term
  obtain ⟨logAgain, kvAgain, rowsAgain⟩ :=
    RaftReplica.executeAll_installStatements knownLog
      (replica.afterInstall term entries).store term
  have sameStore :
      (replica.afterInstall term entries).store.executeAll
          (RaftReplica.installStatements term entries) =
        (replica.afterInstall term entries).store :=
    SqliteStore.ext_of_log (kvAgain.trans kv.symm)
      (logAgain.trans log.symm) (rowsAgain.trans rows.symm)
  change
    { replica.afterInstall term entries with
      store :=
        (replica.afterInstall term entries).store.executeAll
          (RaftReplica.installStatements term entries) } = _
  rw [sameStore]

/-- Synchronization makes the follower a copy of the committed part of the
leader and leaves every other replica alone; a second one changes nothing. -/
theorem syncFollower_copies
    (shard : Shard count) {follower leader : Fin count}
    {committed tail : List LogEntry}
    (other : leader ≠ follower)
    (online : (shard.replicas follower).online = true)
    (log : (shard.replicas leader).store.log = committed ++ tail)
    (knownLog : KnownLog (committed ++ tail))
    (commit : (shard.replicas leader).commitIndex = committed.length)
    (table : (shard.replicas leader).store.kv = replayLog committed) :
    ((syncFollower follower leader shard).state.replicas
        follower).store.log = committed ∧
      ((syncFollower follower leader shard).state.replicas
        follower).store.kv = (shard.replicas leader).store.kv ∧
      ((syncFollower follower leader shard).state.replicas
        follower).commitIndex = (shard.replicas leader).commitIndex ∧
      ((syncFollower follower leader shard).state.replicas
        follower).lastApplied = (shard.replicas leader).commitIndex ∧
      ((syncFollower follower leader shard).state.replicas
        follower).currentTerm =
          max (shard.replicas follower).currentTerm
            (shard.replicas leader).currentTerm ∧
      (∀ position, position ≠ follower →
        (syncFollower follower leader shard).state.replicas position =
          shard.replicas position) ∧
      (syncFollower follower leader
        (syncFollower follower leader shard).state).state =
          (syncFollower follower leader shard).state := by
  have committedLog : KnownLog committed :=
    knownLog.of_prefix (List.prefix_append committed tail)
  have installs := syncFollower_installs online log knownLog commit
  generalize termEq :
    max (shard.replicas follower).currentTerm
      (shard.replicas leader).currentTerm = term at installs
  rw [installs]
  have others (position : Fin count) (different : position ≠ follower) :=
    withReplica_of_ne shard
      ((shard.replicas follower).afterInstall term committed) different
  have copied :=
    RaftReplica.executeAll_installStatements committedLog
      (shard.replicas follower).store term
  simp only [withReplica_self]
  refine ⟨copied.1, copied.2.1.trans table.symm, commit.symm, commit.symm,
    rfl, others, ?_⟩
  -- The leader is still there, and the follower has its term already.
  have again :
      syncFollower follower leader
          (shard.withReplica follower
            ((shard.replicas follower).afterInstall term committed)) = _ :=
    syncFollower_installs
      (by rw [withReplica_self]; exact online)
      (by rw [others leader other]; exact log) knownLog
      (by rw [others leader other]; exact commit)
  rw [again, others leader other, withReplica_self]
  have sameTerm :
      max ((shard.replicas follower).afterInstall term
          committed).currentTerm
        (shard.replicas leader).currentTerm = term := by
    change max term _ = term
    rw [← termEq, max_assoc, max_self]
  rw [sameTerm, afterInstall_afterInstall _ committedLog]
  exact congrArg (Shard.mk _ · _) (Function.update_idem _ _ _)

/-- The entries of a leader that has committed only the first. -/
def twoEntries : List LogEntry :=
  [{ index := 1, term := 1, command := putCommand, key := bytes "a" },
    { index := 2, term := 1, command := putCommand, key := bytes "b" }]

/-- A leader with an uncommitted tail, and a follower with another log, another
table and a higher term. -/
def divergent : Shard 2 where
  shardId := 0
  replicas := fun position =>
    if position = 0 then
      { id := replicaId 0 0
        store :=
          SqliteStore.empty.executeAll
            (twoEntries.map .appendLog ++ [.put (bytes "a") []])
        role := .leader
        currentTerm := 1
        commitIndex := 1
        lastApplied := 1 }
    else
      { id := replicaId 0 1
        store :=
          SqliteStore.empty.executeAll
            [.appendLog
              { index := 7, term := 3, command := bytes "?" },
              .put (bytes "c") (bytes "old")]
        currentTerm := 3 }
  leaderId := replicaId 0 0

theorem knownLog_twoEntries : KnownLog twoEntries where
  contiguous := by decide
  known := by decide
  rows := by decide

/-- The divergent follower ends with the committed entry of the leader, in its
own higher term. -/
theorem syncFollower_divergent :
    ((syncFollower 1 0 divergent).state.replicas 1).store.log =
        twoEntries.take 1 ∧
      ((syncFollower 1 0 divergent).state.replicas 1).currentTerm = 3 := by
  have copies :=
    syncFollower_copies divergent
      (show (0 : Fin 2) ≠ 1 by decide) rfl
      (show _ = twoEntries.take 1 ++ twoEntries.drop 1 by decide +kernel)
      knownLog_twoEntries rfl rfl
  exact ⟨copies.1, copies.2.2.2.2.1⟩

end ShardedKvStore.Shard

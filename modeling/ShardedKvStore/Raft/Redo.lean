import ShardedKvStore.Raft.Calls

/-!
# The redo of a restart

A crash between the application of entries and `persist_state` leaves a `kv`
table that is ahead of `last_applied`.  `load_state` applies the entries after
`last_applied` all the same, on top of a table that already has some of them and
of the entries behind them.
-/

namespace ShardedKvStore

open Foundation

namespace RaftReplica

/-- After `load_state` members and database agree and nothing is left to apply. -/
theorem inStep_loaded
    (id : Bytes) {store : SqliteStore}
    (appliedLe : store.lastApplied ≤ store.commitIndex) :
    (loaded id store).InStep ∧
      (loaded id store).votedFor = (loaded id store).store.votedFor := by
  unfold loaded loadStatements
  by_cases behind : store.lastApplied < store.commitIndex
  · rw [if_pos behind]
    have vote :
        cString (cString store.votedFor) = store.votedFor := by
      unfold SqliteStore.votedFor
      cases store.metaTable.votedFor with
      | none =>
          rfl
      | some candidate =>
          simp
    simp only [SqliteStore.executeAll_append,
      SqliteStore.executeAll_persistRows]
    exact ⟨⟨rfl, rfl, rfl, rfl⟩, vote.symm⟩
  · rw [if_neg behind]
    have level : store.lastApplied = store.commitIndex := by omega
    exact ⟨⟨rfl, rfl, level.symm, rfl⟩, rfl⟩

/-- `load_state` leaves the log alone and redoes the committed entries after
`last_applied`. -/
theorem tables_loaded
    (id : Bytes) {store : SqliteStore}
    (appliedLe : store.lastApplied ≤ store.commitIndex) :
    (loaded id store).store.log = store.log ∧
      (loaded id store).store.kv = store.redone := by
  unfold loaded loadStatements
  by_cases behind : store.lastApplied < store.commitIndex
  · rw [if_pos behind, SqliteStore.executeAll_append,
      SqliteStore.executeAll_statements, SqliteStore.executeAll_persistRows]
    exact ⟨rfl, rfl⟩
  · rw [if_neg behind]
    have nothing : store.committed.drop store.lastApplied.toNat = [] := by
      refine List.drop_eq_nil_of_le ?_
      unfold SqliteStore.committed
      rw [List.length_take]
      omega
    refine ⟨rfl, ?_⟩
    unfold SqliteStore.redone
    rw [nothing]
    rfl

/-- The redo of a table that has the entries up to `reached` is the replay of the
committed entries. -/
theorem redone_of_replayed
    {store : SqliteStore} {applied reached committed : Nat}
    (notAhead : applied ≤ reached) (notBeyond : reached ≤ committed)
    (lastApplied : store.lastApplied = applied)
    (commitIndex : store.commitIndex = committed)
    (kv : store.kv = replayLog (store.log.take reached)) :
    store.redone = replayLog (store.log.take committed) := by
  have initial :
      store.log.take reached = (store.log.take committed).take reached := by
    rw [List.take_take, Nat.min_eq_left notBeyond]
  unfold SqliteStore.redone SqliteStore.committed
  rw [kv, initial, lastApplied, commitIndex, Int.toNat_natCast,
    Int.toNat_natCast]
  unfold replayLog replay
  rw [List.map_take, List.map_drop]
  exact replayOnto_overlap _ _ notAhead

/-- Whatever part of the committed entries the table has beyond `last_applied`,
`load_state` completes it and writes the members down. -/
theorem redo_idempotent
    (id : Bytes) (store : SqliteStore) (applied reached committed : Nat)
    (contiguous : OrderedTable.Contiguous LogEntry.index store.log)
    (known : ∀ entry ∈ store.log, entry.Known)
    (notAhead : applied ≤ reached) (notBeyond : reached ≤ committed)
    (within : (committed : Int) ≤ store.lastLogIndex)
    (lastApplied : store.lastApplied = applied)
    (commitIndex : store.commitIndex = committed)
    (kv : store.kv = replayLog (store.log.take reached)) :
    ∃ replica journal,
      loadState (opened id store) = ⟨.ok (), replica, journal⟩ ∧
        replica.lastApplied = committed ∧
        replica.commitIndex = committed ∧
        replica.store.log = store.log ∧
        replica.store.kv = replayLog (store.log.take committed) ∧
        replica.store.currentTerm = replica.currentTerm ∧
        replica.store.votedFor = replica.votedFor ∧
        replica.store.commitIndex = replica.commitIndex ∧
        replica.store.lastApplied = replica.lastApplied := by
  rw [SqliteStore.lastLogIndex_eq contiguous] at within
  have appliedLe : store.lastApplied ≤ store.commitIndex := by omega
  have loads : loadState (opened id store) = _ :=
    loadState_redoes contiguous known (by omega) appliedLe (by omega)
  obtain ⟨inStep, vote⟩ := inStep_loaded id appliedLe
  obtain ⟨log, redone⟩ := tables_loaded id appliedLe
  rw [redone_of_replayed notAhead notBeyond lastApplied commitIndex kv]
    at redone
  exact ⟨_, _, loads, commitIndex, commitIndex, log, redone,
    inStep.term.symm, vote.symm, inStep.commit.symm, inStep.applied.symm⟩

/-- A put and an erase of one key, both applied and neither recorded as
applied. -/
def appliedUnrecorded : SqliteStore :=
  SqliteStore.empty.executeAll
    [.appendLog
        { index := 1, term := 1, command := putCommand, key := bytes "k",
          value := bytes "v" },
      .appendLog
        { index := 2, term := 1, command := deleteCommand,
          key := bytes "k" },
      .setMeta (.commitIndex 2), .put (bytes "k") (bytes "v"),
      .erase (bytes "k")]

theorem redo_put_and_erase :
    ∃ replica journal,
      loadState (opened (bytes "s0-r0") appliedUnrecorded) =
          ⟨.ok (), replica, journal⟩ ∧
        replica.lastApplied = 2 ∧
        replica.store.kv = replayLog (appliedUnrecorded.log.take 2) := by
  obtain ⟨replica, journal, loads, lastApplied, _, _, kv, _⟩ :=
    redo_idempotent (bytes "s0-r0") appliedUnrecorded 0 2 2 (by decide)
      (by decide) (by decide) (by decide) (by decide) rfl rfl rfl
  exact ⟨replica, journal, loads, lastApplied, kv⟩

end RaftReplica

end ShardedKvStore

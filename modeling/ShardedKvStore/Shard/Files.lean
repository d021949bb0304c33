import ShardedKvStore.Raft.Calls
import ShardedKvStore.Shard.Journals

/-!
# Databases that agree on a committed log

`FilesAgree agreed bound files` is the invariant of the databases of a shard, at
every statement of every operation.  `agreed` is the committed log of the shard:
each database has committed a prefix of it, and at least one has committed all
of it.  `bound` is the term of the latest election: no log entry has a larger
term, and at least one database remembers the term.

During votes, redo and snapshot installation a database changes in two ways
only.  It is `Kept`: the log, the commit index and the table that a redo arrives
at stay, and the term does not go back.  Or it is a `Copy`: a partly installed
snapshot, whose log is an initial part of the agreed log.
-/

namespace ShardedKvStore

open Foundation

namespace SqliteStore

/-! ## Redo -/

theorem redone_of_caughtUp
    {store : SqliteStore} (wellFormed : store.WellFormed)
    (caughtUp : store.lastApplied = store.commitIndex) :
    store.redone = store.kv := by
  have length := wellFormed.length_committed
  have nothing : store.committed.drop store.lastApplied.toNat = [] :=
    List.drop_eq_nil_of_le (by omega)
  simp [redone, nothing]

theorem committed_congr
    {left right : SqliteStore} (sameLog : left.log = right.log)
    (sameCommit : left.commitIndex = right.commitIndex) :
    left.committed = right.committed := by
  rw [committed, committed, sameLog, sameCommit]

theorem uncommitted_congr
    {left right : SqliteStore} (sameLog : left.log = right.log)
    (sameCommit : left.commitIndex = right.commitIndex) :
    left.uncommitted = right.uncommitted := by
  rw [uncommitted, uncommitted, sameLog, sameCommit]

/-- Redoing an initial part of the redo leaves the result of the redo. -/
theorem redone_of_partial
    {before after : SqliteStore} {progress : Nat}
    (sameLog : after.log = before.log)
    (sameCommit : after.commitIndex = before.commitIndex)
    (sameApplied : after.lastApplied = before.lastApplied)
    (partly :
      after.kv = replayOnto before.kv
        (((before.committed.drop before.lastApplied.toNat).take
          progress).map LogEntry.assignment)) :
    after.redone = before.redone := by
  unfold redone
  rw [committed_congr sameLog sameCommit, sameApplied, partly,
    List.map_take, replayOnto_take]

theorem lastLogTerm_congr
    {left right : SqliteStore} (sameLog : left.log = right.log) :
    left.lastLogTerm = right.lastLogTerm := by
  unfold lastLogTerm OrderedTable.last
  rw [show left.raftLog.rows = right.raftLog.rows from sameLog]

theorem lastLogTerm_eq (store : SqliteStore) :
    store.lastLogTerm = (store.log.getLast?.map LogEntry.term).getD 0 :=
  rfl

/-! ## Kept databases -/

/-- The log, the commit index and the redone table stay; the term does not go
back. -/
structure Kept (before after : SqliteStore) : Prop where
  log : after.log = before.log
  commit : after.commitIndex = before.commitIndex
  term : before.currentTerm ≤ after.currentTerm
  appliedNonneg : 0 ≤ after.lastApplied
  appliedLe : after.lastApplied ≤ after.commitIndex
  redone : after.redone = before.redone

namespace Kept

variable {before middle after : SqliteStore}

theorem refl (wellFormed : before.WellFormed) : Kept before before where
  log := rfl
  commit := rfl
  term := le_refl _
  appliedNonneg := wellFormed.appliedNonneg
  appliedLe := wellFormed.appliedLe
  redone := rfl

theorem trans (first : Kept before middle) (second : Kept middle after) :
    Kept before after where
  log := second.log.trans first.log
  commit := second.commit.trans first.commit
  term := first.term.trans second.term
  appliedNonneg := second.appliedNonneg
  appliedLe := second.appliedLe
  redone := second.redone.trans first.redone

theorem committed (kept : Kept before after) :
    after.committed = before.committed :=
  committed_congr kept.log kept.commit

theorem uncommitted (kept : Kept before after) :
    after.uncommitted = before.uncommitted :=
  uncommitted_congr kept.log kept.commit

theorem wellFormed
    (kept : Kept before after) (wellFormed : before.WellFormed) :
    after.WellFormed where
  wellFormedLog := kept.log ▸ wellFormed.wellFormedLog
  appliedNonneg := kept.appliedNonneg
  appliedLe := kept.appliedLe
  commitLe := by
    rw [kept.commit, kept.log]
    exact wellFormed.commitLe

/-- A database with the same log and indexes, and as much of the redo done as
one likes, is kept. -/
theorem of_partial_redo
    (wellFormed : before.WellFormed) (progress : Nat)
    (sameLog : after.log = before.log)
    (sameCommit : after.commitIndex = before.commitIndex)
    (sameApplied : after.lastApplied = before.lastApplied)
    (termKept : before.currentTerm ≤ after.currentTerm)
    (partly :
      after.kv = replayOnto before.kv
        (((before.committed.drop before.lastApplied.toNat).take
          progress).map LogEntry.assignment)) :
    Kept before after where
  log := sameLog
  commit := sameCommit
  term := termKept
  appliedNonneg := by
    rw [sameApplied]
    exact wellFormed.appliedNonneg
  appliedLe := by
    rw [sameApplied, sameCommit]
    exact wellFormed.appliedLe
  redone := redone_of_partial sameLog sameCommit sameApplied partly

theorem of_same_tables
    (wellFormed : before.WellFormed)
    (sameKv : after.kv = before.kv)
    (sameLog : after.log = before.log)
    (sameCommit : after.commitIndex = before.commitIndex)
    (sameApplied : after.lastApplied = before.lastApplied)
    (termKept : before.currentTerm ≤ after.currentTerm) :
    Kept before after :=
  of_partial_redo wellFormed 0 sameLog sameCommit sameApplied termKept
    (by simpa using sameKv)

end Kept

/-- Writing the rows of `persist_state` with the same indexes and a term that
is not smaller keeps the database at every statement. -/
theorem crashSafe_persistRows
    {store : SqliteStore} (wellFormed : store.WellFormed)
    {term : Int} (votedFor : Bytes)
    (notOlder : store.currentTerm ≤ term) :
    CrashSafe execute (Kept store) store
      (persistRows term votedFor store.commitIndex store.lastApplied) := by
  simp only [persistRows, crashSafe_cons, crashSafe_nil]
  refine ⟨Kept.refl wellFormed, ?_, ?_, ?_, ?_⟩
  all_goals
    exact Kept.of_same_tables wellFormed rfl rfl rfl rfl notOlder

/-- The redo of `load_state` keeps the database at every statement. -/
theorem crashSafe_loadStatements
    {store : SqliteStore} (wellFormed : store.WellFormed) :
    CrashSafe execute (Kept store) store
      (RaftReplica.loadStatements store) := by
  unfold RaftReplica.loadStatements
  split
  case isFalse =>
    exact crashSafe_nil.mpr (Kept.refl wellFormed)
  case isTrue behind =>
    generalize redoEq :
      store.committed.drop store.lastApplied.toNat = redo
    have applied (progress : Nat) :
        Kept store
          (store.executeAll ((redo.take progress).map LogEntry.statement)) := by
      refine Kept.of_partial_redo wellFormed progress ?_ ?_ ?_ ?_ ?_
      all_goals rw [executeAll_statements]
      · rfl
      · rfl
      · rfl
      · rfl
      · rw [redoEq]
    have appliedAll := applied redo.length
    rw [List.take_length] at appliedAll
    rw [crashSafe_append]
    constructor
    · intro cut
      rw [← List.map_take]
      exact applied cut
    · change CrashSafe _ _ (store.executeAll (redo.map _)) _
      rw [executeAll_statements] at appliedAll ⊢
      simp only [persistRows, crashSafe_cons, crashSafe_nil]
      have rowsKept :
          ∀ table : MetaTable,
            table.currentTerm.getD 0 = store.currentTerm →
            table.commitIndex.getD 0 = store.commitIndex →
            table.lastApplied.getD 0 = store.lastApplied →
            Kept store
              { store with
                kv := replayOnto store.kv (redo.map LogEntry.assignment)
                metaTable := table } := by
        intro table sameTerm sameCommit sameApplied
        refine appliedAll.trans <|
          Kept.of_same_tables (appliedAll.wellFormed wellFormed)
            rfl rfl sameCommit sameApplied (le_of_eq sameTerm.symm)
      refine ⟨appliedAll, rowsKept _ rfl rfl rfl, rowsKept _ rfl rfl rfl,
        rowsKept _ rfl rfl rfl, ?_⟩
      -- The last row says that the redo is complete.
      refine
        { log := rfl
          commit := rfl
          term := le_refl _
          appliedNonneg := wellFormed.commitNonneg
          appliedLe := le_refl _
          redone := ?_ }
      rw [redone_of_caughtUp ?_ rfl]
      · unfold redone
        rw [redoEq]
        rfl
      · exact
          { wellFormedLog := wellFormed.wellFormedLog
            appliedNonneg := wellFormed.commitNonneg
            appliedLe := le_refl _
            commitLe := wellFormed.commitLe }

/-! ## Copies -/

/-- A snapshot of the agreed log, perhaps partly installed. -/
structure Copy (agreed : List LogEntry) (store : SqliteStore) : Prop where
  wellFormed : store.WellFormed
  log : store.log <+: agreed
  redone : store.committed = agreed → store.redone = replayLog agreed

/-- A copy as long as no commit index is written. -/
private theorem copy_of_noneCommitted
    {agreed : List LogEntry} (wellFormed : WellFormedLog agreed)
    {reached : SqliteStore} {copied : Nat}
    (log : reached.log = agreed.take copied)
    (noCommit : reached.commitIndex = 0)
    (noneApplied : reached.lastApplied = 0)
    (emptyKv : agreed = [] → reached.kv = fun _ => none) :
    Copy agreed reached := by
  have isPrefix : reached.log <+: agreed := log ▸ List.take_prefix _ _
  have noneCommitted : reached.committed = [] := by
    simp [committed, noCommit]
  refine ⟨⟨wellFormed.of_prefix isPrefix, ?_, ?_, ?_⟩, isPrefix, ?_⟩
  · omega
  · omega
  · omega
  · intro complete
    have agreedNil : agreed = [] := by
      rw [← complete, noneCommitted]
    unfold redone
    rw [noneCommitted, emptyKv agreedNil, agreedNil, List.drop_nil]
    rfl

/-- A copy once the commit index is written, whatever is redone. -/
private theorem copy_of_complete
    {agreed : List LogEntry} (wellFormed : WellFormedLog agreed)
    {reached : SqliteStore} (sameLog : reached.log = agreed)
    (sameKv : reached.kv = replayLog agreed)
    (sameCommit : reached.commitIndex = agreed.length)
    (appliedNonneg : 0 ≤ reached.lastApplied)
    (appliedLe : reached.lastApplied ≤ reached.commitIndex) :
    Copy agreed reached := by
  have complete : reached.committed = agreed := by
    rw [committed, sameLog, sameCommit, Int.toNat_natCast,
      List.take_length]
  refine ⟨⟨sameLog ▸ wellFormed, appliedNonneg, appliedLe, ?_⟩, ?_, ?_⟩
  · rw [sameCommit, sameLog]
  · rw [sameLog]
  · intro _
    unfold redone
    rw [complete, sameKv]
    -- The redo is a final part of a log that the table already reflects.
    have again :=
      replayOnto_final (fun _ => none)
        ((agreed.take reached.lastApplied.toNat).map LogEntry.assignment)
        ((agreed.drop reached.lastApplied.toNat).map LogEntry.assignment)
    rw [← List.map_append, List.take_append_drop] at again
    exact again

/-- Every statement of `install_snapshot` after the first leaves a copy. -/
theorem crashSafe_installStatements
    {agreed : List LogEntry} (wellFormed : WellFormedLog agreed)
    (store : SqliteStore) (term : Int) :
    CrashSafe execute (fun reached => reached = store ∨ Copy agreed reached)
      store (RaftReplica.installStatements term agreed) := by
  have appended (copied : Nat) :=
    executeAll_appendLogs_empty
      (wellFormed.of_prefix (List.take_prefix copied agreed)).knownLog
  have commitOf {table : MetaTable} (isEmpty : table = {}) :
      (table.commitIndex.getD 0 : Int) = 0 := by
    rw [isEmpty]
    rfl
  have appliedOf {table : MetaTable} (isEmpty : table = {}) :
      (table.lastApplied.getD 0 : Int) = 0 := by
    rw [isEmpty]
    rfl
  obtain ⟨log, kv, metaTable⟩ := appended agreed.length
  rw [List.take_length] at log kv metaTable
  unfold RaftReplica.installStatements
  rw [crashSafe_cons, crashSafe_append, crashSafe_append]
  refine ⟨Or.inl rfl, ?_, ?_, ?_⟩
  · -- The log is copied.
    intro cut
    rw [← List.map_take]
    obtain ⟨log, kv, metaTable⟩ := appended cut
    exact Or.inr (copy_of_noneCommitted wellFormed log
      (commitOf metaTable) (appliedOf metaTable) fun _ => kv)
  · -- The entries are applied.
    intro cut
    rw [← List.map_take]
    change _ ∨ Copy agreed
      ((empty.executeAll (agreed.map .appendLog)).executeAll
        ((agreed.take cut).map LogEntry.statement))
    rw [executeAll_statements]
    refine Or.inr (copy_of_noneCommitted wellFormed
      (log.trans List.take_length.symm) (commitOf metaTable)
      (appliedOf metaTable) fun agreedNil => ?_)
    rw [agreedNil] at kv ⊢
    rw [List.take_nil]
    exact kv
  · -- The members are written down.
    change CrashSafe _ _
      ((empty.executeAll (agreed.map .appendLog)).executeAll
        (agreed.map LogEntry.statement)) _
    rw [executeAll_statements]
    generalize empty.executeAll (agreed.map .appendLog) = base at *
    have replayed :
        replayOnto base.kv (agreed.map LogEntry.assignment) =
          replayLog agreed := by
      rw [kv]
      rfl
    rw [replayed]
    have started {reached : SqliteStore} (sameLog : reached.log = base.log)
        (sameKv : reached.kv = replayLog agreed)
        (sameCommit : reached.commitIndex = base.commitIndex)
        (sameApplied : reached.lastApplied = base.lastApplied) :
        Copy agreed reached := by
      refine copy_of_noneCommitted wellFormed
        (sameLog.trans (log.trans List.take_length.symm))
        (sameCommit.trans (commitOf metaTable))
        (sameApplied.trans (appliedOf metaTable)) fun agreedNil => ?_
      rw [sameKv, agreedNil]
      rfl
    simp only [persistRows, crashSafe_cons, crashSafe_nil]
    refine ⟨Or.inr ?_, Or.inr ?_, Or.inr ?_, Or.inr ?_, Or.inr ?_⟩
    · exact started rfl rfl rfl rfl
    · exact started rfl rfl rfl rfl
    · exact started rfl rfl rfl rfl
    · have notApplied := appliedOf metaTable
      refine copy_of_complete wellFormed log rfl rfl ?_ ?_
      · exact notApplied.ge
      · exact notApplied.le.trans (Int.natCast_nonneg _)
    · exact copy_of_complete wellFormed log rfl rfl (Int.natCast_nonneg _)
        (le_refl _)

end SqliteStore

end ShardedKvStore

import ShardedKvStore.Shard.Evolution

/-!
# One database during a write

Seen from a database that is caught up, a write passes through three states.
The row is appended and perhaps applied, but not committed (`Pending`); it is
committed (`Advanced`); or it is cut off again (`Discarded`).  Each statement of
the leader and of the followers leads from one of these states to another.
-/

namespace ShardedKvStore

open Foundation

namespace SqliteStore

/-- A database between operations: well formed, with nothing to redo. -/
structure Steady (store : SqliteStore) : Prop where
  wellFormed : store.WellFormed
  caughtUp : store.lastApplied = store.commitIndex

theorem Steady.redone {store : SqliteStore} (steady : store.Steady) :
    store.redone = store.kv :=
  redone_of_caughtUp steady.wellFormed steady.caughtUp

/-- The row is appended, and the first `progress` uncommitted entries are
applied. -/
structure Pending
    (row : LogEntry) (progress : Nat) (before after : SqliteStore) :
    Prop where
  log : after.log = before.log ++ [row]
  commit : after.commitIndex = before.commitIndex
  applied : after.lastApplied = before.lastApplied
  term : before.currentTerm ≤ after.currentTerm
  kv :
    after.kv = replayOnto before.kv
      (((before.uncommitted ++ [row]).take progress).map
        LogEntry.assignment)

/-- The row is committed, and with it every entry before it. -/
structure Advanced
    (row : LogEntry) (before after : SqliteStore) : Prop where
  log : after.log = before.log ++ [row]
  commit : after.commitIndex = after.log.length
  appliedGe : before.lastApplied ≤ after.lastApplied
  appliedLe : after.lastApplied ≤ after.commitIndex
  term : before.currentTerm ≤ after.currentTerm
  kv :
    after.kv = replayOnto before.kv
      ((before.uncommitted ++ [row]).map LogEntry.assignment)

/-- The uncommitted entries are cut off. -/
structure Discarded (before after : SqliteStore) : Prop where
  log : after.log = before.committed
  commit : after.commitIndex = before.commitIndex
  applied : after.lastApplied = before.lastApplied
  term : before.currentTerm ≤ after.currentTerm
  kv : after.kv = before.kv

/-! ## Contents -/

section Contents

variable {row : LogEntry} {progress : Nat} {before after : SqliteStore}

theorem Pending.committed
    (pending : Pending row progress before after)
    (wellFormed : before.WellFormed) :
    after.committed = before.committed := by
  have commitLe := wellFormed.commitLe
  have commitNonneg := wellFormed.commitNonneg
  unfold SqliteStore.committed
  rw [pending.log, pending.commit, List.take_append_of_le_length]
  omega

theorem Pending.uncommitted
    (pending : Pending row progress before after)
    (wellFormed : before.WellFormed) :
    after.uncommitted = before.uncommitted ++ [row] := by
  have commitLe := wellFormed.commitLe
  have commitNonneg := wellFormed.commitNonneg
  unfold SqliteStore.uncommitted
  rw [pending.log, pending.commit, List.drop_append_of_le_length]
  omega

theorem Pending.wellFormed
    (pending : Pending row progress before after)
    (wellFormed : before.WellFormed)
    (extends_ : WellFormedLog (before.log ++ [row])) :
    after.WellFormed where
  wellFormedLog := by
    rw [pending.log]
    exact extends_
  appliedNonneg := by
    rw [pending.applied]
    exact wellFormed.appliedNonneg
  appliedLe := by
    rw [pending.applied, pending.commit]
    exact wellFormed.appliedLe
  commitLe := by
    have commitLe := wellFormed.commitLe
    rw [pending.commit, pending.log, List.length_append]
    push_cast
    omega

theorem Pending.contents
    (pending : Pending row progress before after)
    (steady : before.Steady) :
    after.contents = before.contents.tear row progress := by
  have committed := pending.committed steady.wellFormed
  have length := steady.wellFormed.length_committed
  have caughtUp := steady.caughtUp
  have redone : after.redone = after.kv := by
    have nothing : after.committed.drop after.lastApplied.toNat = [] := by
      rw [committed, pending.applied]
      exact List.drop_eq_nil_of_le (by omega)
    simp [SqliteStore.redone, nothing]
  simp only [SqliteStore.contents, Contents.tear, committed, redone,
    pending.kv, pending.uncommitted steady.wellFormed, steady.redone]

theorem Advanced.committed (advanced : Advanced row before after) :
    after.committed =
      before.committed ++ (before.uncommitted ++ [row]) := by
  have whole : after.committed = after.log := by
    unfold SqliteStore.committed
    rw [advanced.commit, Int.toNat_natCast, List.take_length]
  rw [whole, advanced.log, ← before.committed_append_uncommitted,
    List.append_assoc]

theorem Advanced.uncommitted (advanced : Advanced row before after) :
    after.uncommitted = [] := by
  unfold SqliteStore.uncommitted
  rw [advanced.commit, Int.toNat_natCast, List.drop_length]

theorem Advanced.wellFormed
    (advanced : Advanced row before after)
    (wellFormed : before.WellFormed)
    (extends_ : WellFormedLog (before.log ++ [row])) :
    after.WellFormed where
  wellFormedLog := by
    rw [advanced.log]
    exact extends_
  appliedNonneg := wellFormed.appliedNonneg.trans advanced.appliedGe
  appliedLe := advanced.appliedLe
  commitLe := advanced.commit.le

theorem Advanced.contents
    (advanced : Advanced row before after)
    (steady : before.Steady) :
    after.contents = before.contents.commit row := by
  have length := steady.wellFormed.length_committed
  have caughtUp := steady.caughtUp
  have nonneg := steady.wellFormed.appliedNonneg
  have appliedGe := advanced.appliedGe
  -- What is left to redo is a final part of what has been applied.
  have redone :
      after.redone =
        replayOnto before.kv
          ((before.uncommitted ++ [row]).map LogEntry.assignment) := by
    unfold SqliteStore.redone
    have skip :
        after.lastApplied.toNat =
          before.committed.length +
            (after.lastApplied - before.lastApplied).toNat := by
      omega
    rw [advanced.committed, skip, ← List.drop_drop, List.drop_left,
      advanced.kv]
    generalize
      (after.lastApplied - before.lastApplied).toNat = done
    have again :=
      replayOnto_final before.kv
        (((before.uncommitted ++ [row]).take done).map
          LogEntry.assignment)
        (((before.uncommitted ++ [row]).drop done).map
          LogEntry.assignment)
    rw [← List.map_append, List.take_append_drop] at again
    exact again
  simp only [SqliteStore.contents, Contents.commit, advanced.committed,
    advanced.uncommitted, redone, steady.redone]

theorem Discarded.committed
    (discarded : Discarded before after) :
    after.committed = before.committed := by
  unfold SqliteStore.committed
  rw [discarded.log, discarded.commit, SqliteStore.committed,
    List.take_take, min_self]

theorem Discarded.wellFormed
    (discarded : Discarded before after)
    (wellFormed : before.WellFormed) :
    after.WellFormed where
  wellFormedLog := by
    rw [discarded.log]
    exact wellFormed.wellFormedLog.of_prefix (List.take_prefix _ _)
  appliedNonneg := by
    rw [discarded.applied]
    exact wellFormed.appliedNonneg
  appliedLe := by
    rw [discarded.applied, discarded.commit]
    exact wellFormed.appliedLe
  commitLe := by
    rw [discarded.log, discarded.commit, wellFormed.length_committed]

theorem Discarded.contents
    (discarded : Discarded before after)
    (steady : before.Steady) :
    after.contents = before.contents.discard := by
  have isSteady : after.Steady :=
    ⟨discarded.wellFormed steady.wellFormed, by
      rw [discarded.applied, discarded.commit, steady.caughtUp]⟩
  have noTail : after.uncommitted = [] :=
    uncommitted_of_committed_eq_log
      (discarded.committed.trans discarded.log.symm)
  simp only [SqliteStore.contents, Contents.discard, discarded.committed,
    noTail, isSteady.redone, discarded.kv, steady.redone]

end Contents

/-! ## Statements -/

section Statements

variable {before : SqliteStore}

theorem pending_appendLog
    (wellFormed : before.WellFormed) {entry : LogEntry}
    (nextIndex : entry.index = before.log.length + 1) :
    Pending entry.stored 0 before (before.execute (.appendLog entry)) where
  log := log_appendLog wellFormed.wellFormedLog.contiguous nextIndex
  commit := rfl
  applied := rfl
  term := le_refl _
  kv := rfl

theorem Pending.of_meta
    {row : LogEntry} {progress : Nat} {middle : SqliteStore}
    (pending : Pending row progress before middle) (table : MetaTable)
    (commit : table.commitIndex.getD 0 = before.commitIndex)
    (applied : table.lastApplied.getD 0 = before.lastApplied)
    (term : before.currentTerm ≤ table.currentTerm.getD 0) :
    Pending row progress before { middle with metaTable := table } where
  log := pending.log
  commit := commit
  applied := applied
  term := term
  kv := pending.kv

/-- A follower appends a row and records the leader. -/
theorem crashSafe_appendRow
    (wellFormed : before.WellFormed) {entry : LogEntry}
    (nextIndex : entry.index = before.log.length + 1)
    {term : Int} (leaderId : Bytes)
    (notOlder : before.currentTerm ≤ term) :
    CrashSafe execute
      (fun reached =>
        reached = before ∨ Pending entry.stored 0 before reached)
      before
      (.appendLog entry ::
        persistRows term leaderId before.commitIndex before.lastApplied) := by
  have pending := pending_appendLog wellFormed nextIndex
  simp only [persistRows, crashSafe_cons, crashSafe_nil]
  refine ⟨Or.inl trivial, Or.inr pending, Or.inr ?_, Or.inr ?_, Or.inr ?_,
    Or.inr ?_⟩
  all_goals
    exact pending.of_meta _ rfl rfl notOlder

/-- Cutting off the uncommitted entries. -/
theorem Pending.truncate
    {row : LogEntry} {progress : Nat} {middle : SqliteStore}
    (pending : Pending row progress before middle)
    (wellFormed : before.WellFormed)
    (extends_ : WellFormedLog (before.log ++ [row]))
    (notApplied : progress = 0) :
    Discarded before
      (middle.execute (.truncateLogFrom (before.commitIndex + 1))) where
  log := by
    have nonneg := wellFormed.commitNonneg
    have contiguous :
        OrderedTable.Contiguous LogEntry.index middle.log := by
      rw [pending.log]
      exact extends_.contiguous
    have index :
        before.commitIndex + 1 = (before.commitIndex.toNat : Int) + 1 := by
      omega
    rw [index, log_truncateLogFrom contiguous]
    have committed := pending.committed wellFormed
    unfold SqliteStore.committed at committed
    rwa [pending.commit] at committed
  commit := pending.commit
  applied := pending.applied
  term := pending.term
  kv := by
    change middle.kv = before.kv
    rw [pending.kv, notApplied]
    rfl

/-- Whether an entry has been applied to `kv` after the commit index was last
written. -/
def noteApplied (applied : Bool) : Statement → Bool
  | .put _ _ => true
  | .erase _ => true
  | .setMeta (.commitIndex _) => false
  | _ => applied

theorem noteApplied_statement (applied : Bool) (entry : LogEntry) :
    noteApplied applied entry.statement = true := by
  unfold LogEntry.statement
  split
  · rfl
  · rfl

private theorem foldl_noteApplied
    (entries : List LogEntry) (applied : Bool) :
    entries = [] ∨
      (entries.map LogEntry.statement).foldl noteApplied applied = true := by
  induction entries generalizing applied with
  | nil =>
      exact Or.inl rfl
  | cons entry rest inductionHypothesis =>
      right
      rw [List.map_cons, List.foldl_cons, noteApplied_statement]
      rcases inductionHypothesis true with nothing | done
      · rw [nothing]
        rfl
      · exact done

/-- The tables once the commit index is written. -/
theorem Pending.advance
    {row : LogEntry} {start : SqliteStore}
    (pending : Pending row 0 before start)
    (steady : before.Steady) (table : MetaTable)
    (commit : table.commitIndex.getD 0 = start.log.length)
    (applied :
      table.lastApplied.getD 0 = before.lastApplied ∨
        table.lastApplied.getD 0 = start.log.length)
    (newTerm : before.currentTerm ≤ table.currentTerm.getD 0) :
    Advanced row before
      { start with
        kv := replayOnto start.kv
          ((before.uncommitted ++ [row]).map LogEntry.assignment)
        metaTable := table } := by
  have startKv : start.kv = before.kv := by
    simpa using pending.kv
  have startLength : start.log.length = before.log.length + 1 := by
    rw [pending.log, List.length_append, List.length_singleton]
  have appliedLe := steady.wellFormed.appliedLe
  have commitLe := steady.wellFormed.commitLe
  refine
    { log := pending.log
      commit := commit
      appliedGe := ?_
      appliedLe := ?_
      term := newTerm
      kv := by rw [startKv] }
  · change before.lastApplied ≤ table.lastApplied.getD 0
    omega
  · change table.lastApplied.getD 0 ≤ table.commitIndex.getD 0
    omega

/-- Applying and committing everything up to the row. -/
theorem Pending.advanced_commitRows
    {row : LogEntry} {start : SqliteStore}
    (pending : Pending row 0 before start)
    (steady : before.Steady) {term : Int} (votedFor : Bytes)
    (notOlder : before.currentTerm ≤ term) :
    Advanced row before
      (start.executeAll
        ((before.uncommitted ++ [row]).map LogEntry.statement ++
          persistRows term votedFor start.log.length
            start.log.length)) := by
  rw [executeAll_append, executeAll_statements, executeAll_persistRows]
  exact pending.advance steady _ rfl (Or.inr rfl) notOlder

/-- Applying and committing everything up to the row: as long as the commit
index is not written, entries may have been applied without being
committed. -/
theorem crashSafe_commitRows
    {row : LogEntry} {start : SqliteStore}
    (pending : Pending row 0 before start)
    (steady : before.Steady) (applied : Bool)
    {term : Int} (votedFor : Bytes)
    (notOlder : before.currentTerm ≤ term) :
    CrashSafe (watch execute noteApplied)
      (fun reached =>
        (∃ progress,
          Pending row progress before reached.1 ∧
            (progress = 0 ∨ reached.2 = true)) ∨
          Advanced row before reached.1)
      (start, applied)
      ((before.uncommitted ++ [row]).map LogEntry.statement ++
        persistRows term votedFor start.log.length start.log.length) := by
  generalize entriesEq : before.uncommitted ++ [row] = entries
  have startKv : start.kv = before.kv := by
    simpa using pending.kv
  have applying (progress : Nat) :
      Pending row progress before
        (start.executeAll
          ((entries.take progress).map LogEntry.statement)) := by
    rw [executeAll_statements]
    exact
      { log := pending.log
        commit := pending.commit
        applied := pending.applied
        term := pending.term
        kv := by rw [startKv, ← entriesEq] }
  have all := applying entries.length
  rw [List.take_length] at all
  have flagged :
      (entries.map LogEntry.statement).foldl noteApplied applied = true :=
    (foldl_noteApplied entries applied).resolve_left fun nothing => by
      rw [nothing] at entriesEq
      simp at entriesEq
  rw [crashSafe_append]
  constructor
  · intro cut
    rw [foldl_watch, ← List.map_take]
    refine Or.inl ⟨cut, applying cut, ?_⟩
    rcases foldl_noteApplied (entries.take cut) applied with nothing | done
    · left
      rcases List.take_eq_nil_iff.mp nothing with zero | empty
      · exact zero
      · rw [empty] at entriesEq
        simp at entriesEq
    · exact Or.inr done
  · rw [foldl_watch, flagged]
    change CrashSafe _ _
      (start.executeAll (entries.map LogEntry.statement), true) _
    rw [executeAll_statements] at all ⊢
    have advanced := pending.advance steady
    rw [entriesEq] at advanced
    simp only [persistRows, crashSafe_cons, crashSafe_nil, watch,
      noteApplied]
    refine ⟨Or.inl ⟨entries.length, all, Or.inr trivial⟩,
      Or.inl ⟨entries.length, ?_, Or.inr trivial⟩,
      Or.inl ⟨entries.length, ?_, Or.inr trivial⟩, Or.inr ?_, Or.inr ?_⟩
    · exact all.of_meta _ all.commit all.applied notOlder
    · exact all.of_meta _ all.commit all.applied notOlder
    · exact advanced _ rfl (Or.inl all.applied) notOlder
    · exact advanced _ rfl (Or.inr rfl) notOlder

end Statements

end SqliteStore

end ShardedKvStore

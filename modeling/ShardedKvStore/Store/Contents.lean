import ShardedKvStore.Store

/-!
# The contents of a well-formed database

The databases the shard works with have a contiguous log of known commands in
term order, and `last_applied ≤ commit_index ≤ last_log_index`.  On such a
database the queries are list operations on the log.

`redone` is the `kv` table that `load_state` arrives at: the entries between
`last_applied` and `commit_index` applied once more.
-/

namespace ShardedKvStore

open Foundation

/-- The table built by applying entries in index order to an empty table. -/
def replayLog (entries : List LogEntry) : Bytes → Option Bytes :=
  replay (entries.map LogEntry.assignment)

theorem replayLog_append (first second : List LogEntry) :
    replayLog (first ++ second) =
      replayOnto (replayLog first) (second.map LogEntry.assignment) := by
  unfold replayLog
  rw [List.map_append, replay_append]

namespace LogEntry

/-- The statement by which `apply_entry` applies a known command. -/
def statement (entry : LogEntry) : Statement :=
  if entry.command = putCommand then
    .put entry.key entry.value
  else
    .erase entry.key

theorem cString_putCommand : cString putCommand = putCommand := by
  decide

theorem cString_deleteCommand : cString deleteCommand = deleteCommand := by
  decide

theorem stored_known {entry : LogEntry} (known : entry.Known) :
    entry.stored.Known := by
  rcases known with isPut | isDelete
  · left
    change cString entry.command = putCommand
    rw [isPut, cString_putCommand]
  · right
    change cString entry.command = deleteCommand
    rw [isDelete, cString_deleteCommand]

@[simp]
theorem stored_stored (entry : LogEntry) :
    entry.stored.stored = entry.stored := by
  simp [stored]

/-- Storing entries keeps their indexes. -/
theorem contiguous_map_stored
    {entries : List LogEntry}
    (contiguous : OrderedTable.Contiguous LogEntry.index entries) :
    OrderedTable.Contiguous LogEntry.index (entries.map stored) :=
  contiguous.of_keys (by rw [List.map_map]; rfl)

@[simp]
theorem stored_index (entry : LogEntry) : entry.stored.index = entry.index :=
  rfl

@[simp]
theorem stored_term (entry : LogEntry) : entry.stored.term = entry.term :=
  rfl

end LogEntry

namespace SqliteStore

/-- The rows of `raft_log`. -/
def log (store : SqliteStore) : List LogEntry :=
  store.raftLog.rows

/-- The entries up to the commit index. -/
def committed (store : SqliteStore) : List LogEntry :=
  store.log.take store.commitIndex.toNat

/-- The entries after the commit index. -/
def uncommitted (store : SqliteStore) : List LogEntry :=
  store.log.drop store.commitIndex.toNat

/-- The `kv` table after the redo of `load_state`. -/
def redone (store : SqliteStore) : Bytes → Option Bytes :=
  replayOnto store.kv
    ((store.committed.drop store.lastApplied.toNat).map LogEntry.assignment)

theorem committed_append_uncommitted (store : SqliteStore) :
    store.committed ++ store.uncommitted = store.log :=
  List.take_append_drop _ _

/-- When the whole log is committed nothing is uncommitted. -/
theorem uncommitted_of_committed_eq_log
    {store : SqliteStore} (complete : store.committed = store.log) :
    store.uncommitted = [] := by
  have split := store.committed_append_uncommitted
  rw [complete] at split
  exact List.append_right_eq_self.mp split

/-- A log of known commands with indexes `1, 2, ...`, as a database holds it. -/
structure KnownLog (entries : List LogEntry) : Prop where
  contiguous : OrderedTable.Contiguous LogEntry.index entries
  known : ∀ entry ∈ entries, entry.Known
  rows : ∀ entry ∈ entries, entry.stored = entry

/-- A log of known commands with indexes `1, 2, ...` and terms in order. -/
structure WellFormedLog (entries : List LogEntry) : Prop where
  contiguous : OrderedTable.Contiguous LogEntry.index entries
  known : ∀ entry ∈ entries, entry.Known
  rows : ∀ entry ∈ entries, entry.stored = entry
  terms :
    entries.Pairwise (fun earlier later => earlier.term ≤ later.term)
  termsNonneg : ∀ entry ∈ entries, 0 ≤ entry.term

theorem WellFormedLog.knownLog
    {entries : List LogEntry} (wellFormed : WellFormedLog entries) :
    KnownLog entries :=
  ⟨wellFormed.contiguous, wellFormed.known, wellFormed.rows⟩

theorem KnownLog.map_stored
    {entries : List LogEntry} (knownLog : KnownLog entries) :
    entries.map LogEntry.stored = entries :=
  (List.map_congr_left knownLog.rows).trans (List.map_id' entries)

/-- The rows that entries of known commands become. -/
theorem knownLog_map_stored
    {entries : List LogEntry}
    (contiguous : OrderedTable.Contiguous LogEntry.index entries)
    (known : ∀ entry ∈ entries, entry.Known) :
    KnownLog (entries.map LogEntry.stored) where
  contiguous := LogEntry.contiguous_map_stored contiguous
  known := by
    intro row member
    obtain ⟨entry, inside, rfl⟩ := List.mem_map.mp member
    exact LogEntry.stored_known (known entry inside)
  rows := by
    intro row member
    obtain ⟨entry, _, rfl⟩ := List.mem_map.mp member
    exact LogEntry.stored_stored entry

theorem KnownLog.of_prefix
    {initial entries : List LogEntry}
    (knownLog : KnownLog entries) (isInitial : initial <+: entries) :
    KnownLog initial where
  contiguous := knownLog.contiguous.of_prefix isInitial
  known := fun entry member =>
    knownLog.known entry (isInitial.subset member)
  rows := fun entry member =>
    knownLog.rows entry (isInitial.subset member)

theorem wellFormedLog_nil : WellFormedLog [] where
  contiguous := OrderedTable.contiguous_nil
  known := by simp
  rows := by simp
  terms := List.Pairwise.nil
  termsNonneg := by simp

theorem knownLog_nil : KnownLog [] :=
  wellFormedLog_nil.knownLog

theorem WellFormedLog.of_prefix
    {initial entries : List LogEntry}
    (wellFormed : WellFormedLog entries) (isInitial : initial <+: entries) :
    WellFormedLog initial where
  contiguous := wellFormed.contiguous.of_prefix isInitial
  known := fun entry member =>
    wellFormed.known entry (isInitial.subset member)
  rows := fun entry member =>
    wellFormed.rows entry (isInitial.subset member)
  terms := wellFormed.terms.sublist isInitial.sublist
  termsNonneg := fun entry member =>
    wellFormed.termsNonneg entry (isInitial.subset member)

theorem WellFormedLog.append_one
    {entries : List LogEntry} {entry : LogEntry}
    (wellFormed : WellFormedLog entries)
    (nextIndex : entry.index = entries.length + 1)
    (known : entry.Known) (row : entry.stored = entry)
    (termOrder : ∀ earlier ∈ entries, earlier.term ≤ entry.term)
    (termNonneg : 0 ≤ entry.term) :
    WellFormedLog (entries ++ [entry]) where
  contiguous := wellFormed.contiguous.append_one nextIndex
  known := by
    intro tested member
    rcases List.mem_append.mp member with earlier | last
    · exact wellFormed.known tested earlier
    · rwa [List.mem_singleton.mp last]
  rows := by
    intro tested member
    rcases List.mem_append.mp member with earlier | last
    · exact wellFormed.rows tested earlier
    · rwa [List.mem_singleton.mp last]
  terms := by
    rw [List.pairwise_append]
    refine ⟨wellFormed.terms, List.pairwise_singleton _ _, ?_⟩
    intro earlier member later last
    rw [List.mem_singleton.mp last]
    exact termOrder earlier member
  termsNonneg := by
    intro tested member
    rcases List.mem_append.mp member with earlier | last
    · exact wellFormed.termsNonneg tested earlier
    · rwa [List.mem_singleton.mp last]

/-- A database whose log is well formed and whose indexes are in order. -/
structure WellFormed (store : SqliteStore) : Prop where
  wellFormedLog : WellFormedLog store.log
  appliedNonneg : 0 ≤ store.lastApplied
  appliedLe : store.lastApplied ≤ store.commitIndex
  commitLe : store.commitIndex ≤ store.log.length

theorem wellFormed_empty : WellFormed empty where
  wellFormedLog := wellFormedLog_nil
  appliedNonneg := by decide
  appliedLe := by decide
  commitLe := by decide

namespace WellFormed

variable {store : SqliteStore}

theorem commitNonneg (wellFormed : store.WellFormed) :
    0 ≤ store.commitIndex :=
  wellFormed.appliedNonneg.trans wellFormed.appliedLe

theorem length_committed (wellFormed : store.WellFormed) :
    (store.committed.length : Int) = store.commitIndex := by
  have commitLe := wellFormed.commitLe
  have commitNonneg := wellFormed.commitNonneg
  unfold committed
  rw [List.length_take]
  omega

end WellFormed

section Queries

variable {store : SqliteStore}

theorem logAt_succ
    (contiguous : OrderedTable.Contiguous LogEntry.index store.log)
    (position : Nat) :
    store.logAt (position + 1) = store.log[position]? :=
  OrderedTable.lookup_of_contiguous contiguous position

theorem logAt_eq_none
    (contiguous : OrderedTable.Contiguous LogEntry.index store.log)
    {index : Int} (outside : index < 1 ∨ store.log.length < index) :
    store.logAt index = none :=
  OrderedTable.lookup_eq_none_of_contiguous contiguous outside

theorem logsFrom_one
    (contiguous : OrderedTable.Contiguous LogEntry.index store.log) :
    store.logsFrom 1 = store.log :=
  OrderedTable.selectFrom_one_of_contiguous contiguous

theorem lastLogIndex_eq
    (contiguous : OrderedTable.Contiguous LogEntry.index store.log) :
    store.lastLogIndex = store.log.length :=
  OrderedTable.last_key_of_contiguous contiguous

theorem log_appendLog
    (contiguous : OrderedTable.Contiguous LogEntry.index store.log)
    {entry : LogEntry} (nextIndex : entry.index = store.log.length + 1) :
    (store.execute (.appendLog entry)).log = store.log ++ [entry.stored] :=
  OrderedTable.insertOrReplace_rows_of_next contiguous nextIndex

theorem log_truncateLogFrom
    (contiguous : OrderedTable.Contiguous LogEntry.index store.log)
    (kept : Nat) :
    (store.execute (.truncateLogFrom (kept + 1))).log =
      store.log.take kept :=
  OrderedTable.deleteFrom_rows_of_contiguous contiguous kept

end Queries

/-- Two databases with the same tables are the same. -/
theorem ext_of_log
    {left right : SqliteStore}
    (sameKv : left.kv = right.kv) (sameLog : left.log = right.log)
    (sameMeta : left.metaTable = right.metaTable) :
    left = right := by
  cases left
  cases right
  simp only [log] at sameKv sameLog sameMeta
  simp only [mk.injEq]
  exact ⟨sameKv, OrderedTable.ext sameLog, sameMeta⟩

end SqliteStore

end ShardedKvStore

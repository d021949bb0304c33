import ShardedKvStore.Shard.Agreement

/-!
# The contents of a database, and how operations change them

`Contents` is what a database says after its redo: the committed entries, the
`kv` table, and the uncommitted tail of the log.  An election keeps the contents
of a database or replaces them by a copy of the agreed log (`Evolves`).  A
write appends a row, applies it together with whatever stands before it in the
tail, and commits it; a write that is cut short by a crash may stop in between
(`Touched`).
-/

namespace ShardedKvStore

open Foundation

/-- What a database says after its redo. -/
structure Contents where
  committed : List LogEntry
  table : Bytes → Option Bytes
  tail : List LogEntry

namespace Contents

/-- The contents of a complete snapshot of the agreed log. -/
def copyOf (agreed : List LogEntry) : Contents where
  committed := agreed
  table := replayLog agreed
  tail := []

/-- Give up the uncommitted tail. -/
def discard (contents : Contents) : Contents :=
  { contents with tail := [] }

/-- A row has been appended, and the first `progress` entries of the tail have
been applied without being committed. -/
def tear (contents : Contents) (row : LogEntry) (progress : Nat) : Contents where
  committed := contents.committed
  table := replayOnto contents.table
    (((contents.tail ++ [row]).take progress).map LogEntry.assignment)
  tail := contents.tail ++ [row]

/-- A row has been appended and committed, and the tail before it as well. -/
def commit (contents : Contents) (row : LogEntry) : Contents where
  committed := contents.committed ++ (contents.tail ++ [row])
  table := replayOnto contents.table
    ((contents.tail ++ [row]).map LogEntry.assignment)
  tail := []

@[simp]
theorem tear_zero_table (contents : Contents) (row : LogEntry) :
    (contents.tear row 0).table = contents.table := by
  simp [tear]

/-- The change an election or a recovery makes to one database. -/
inductive Evolves (agreed : List LogEntry) : Contents → Contents → Prop
  | kept (contents : Contents) : Evolves agreed contents contents
  | copied (contents : Contents) :
      Evolves agreed contents (copyOf agreed)

theorem Evolves.trans
    {agreed : List LogEntry} {before middle after : Contents}
    (first : Evolves agreed before middle)
    (second : Evolves agreed middle after) :
    Evolves agreed before after := by
  cases second with
  | kept =>
      exact first
  | copied =>
      exact .copied before

theorem Evolves.committed_prefix
    {agreed initial : List LogEntry} {before after : Contents}
    (evolves : Evolves agreed before after)
    (inAgreed : initial <+: agreed)
    (inBefore : initial <+: before.committed) :
    initial <+: after.committed := by
  cases evolves with
  | kept =>
      exact inBefore
  | copied =>
      exact inAgreed

theorem Evolves.prefix_agreed
    {agreed : List LogEntry} {before after : Contents}
    (evolves : Evolves agreed before after)
    (inAgreed : before.committed <+: agreed) :
    after.committed <+: agreed := by
  cases evolves with
  | kept =>
      exact inAgreed
  | copied =>
      exact List.prefix_refl _

/-- The change a write may make to one database, when it is cut short by a crash
as well.  `Row` describes the rows it appends; only with `Torn` may an entry
have been applied before it was committed. -/
inductive Touched
    (Row : LogEntry → Prop) (Torn : Prop) (agreed : List LogEntry)
    (before : Contents) : Contents → Prop
  | evolved {after : Contents} :
      Evolves agreed before after →
      Touched Row Torn agreed before after
  | torn {middle : Contents} {row : LogEntry} {progress : Nat} :
      Evolves agreed before middle → middle.committed = agreed →
      Row row → (progress = 0 ∨ Torn) →
      Touched Row Torn agreed before (middle.tear row progress)
  | committed {middle : Contents} {row : LogEntry} :
      Evolves agreed before middle → middle.committed = agreed →
      Row row →
      Touched Row Torn agreed before (middle.commit row)
  | discarded {middle : Contents} :
      Evolves agreed before middle → middle.committed = agreed →
      Touched Row Torn agreed before middle.discard

theorem Touched.after_evolving
    {Row : LogEntry → Prop} {Torn : Prop} {agreed : List LogEntry}
    {before middle after : Contents}
    (second : Touched Row Torn agreed middle after)
    (first : Evolves agreed before middle) :
    Touched Row Torn agreed before after := by
  cases second with
  | evolved evolves =>
      exact .evolved (first.trans evolves)
  | torn evolves complete isRow progress =>
      exact .torn (first.trans evolves) complete isRow progress
  | committed evolves complete isRow =>
      exact .committed (first.trans evolves) complete isRow
  | discarded evolves complete =>
      exact .discarded (first.trans evolves) complete

theorem Touched.mono
    {Row Row' : LogEntry → Prop} {Torn Torn' : Prop}
    {agreed : List LogEntry} {before after : Contents}
    (touched : Touched Row Torn agreed before after)
    (rows : ∀ row, Row row → Row' row)
    (tears : ∀ row, Row row → Torn → Torn') :
    Touched Row' Torn' agreed before after := by
  cases touched with
  | evolved evolves =>
      exact .evolved evolves
  | torn evolves complete isRow progress =>
      exact .torn evolves complete (rows _ isRow)
        (progress.imp_right (tears _ isRow))
  | committed evolves complete isRow =>
      exact .committed evolves complete (rows _ isRow)
  | discarded evolves complete =>
      exact .discarded evolves complete

/-! ## Tables that follow the log -/

/-- The table is the replay of the committed entries. -/
def Replayed (contents : Contents) : Prop :=
  contents.table = replayLog contents.committed

/-- Everything is committed and applied. -/
structure Whole (contents : Contents) : Prop where
  tail : contents.tail = []
  table : contents.Replayed

theorem Replayed.commit
    {contents : Contents} (replayed : contents.Replayed) (row : LogEntry) :
    (contents.commit row).Replayed := by
  change replayOnto contents.table _ = replayLog (contents.committed ++ _)
  rw [replayLog_append, replayed]

theorem Evolves.replayed
    {agreed : List LogEntry} {before after : Contents}
    (evolves : Evolves agreed before after) (replayed : before.Replayed) :
    after.Replayed := by
  cases evolves with
  | kept =>
      exact replayed
  | copied =>
      rfl

theorem Evolves.whole
    {agreed : List LogEntry} {before after : Contents}
    (evolves : Evolves agreed before after) (whole : before.Whole) :
    after.Whole := by
  cases evolves with
  | kept =>
      exact whole
  | copied =>
      exact ⟨rfl, rfl⟩

/-- Only a torn change lets the table of a database run ahead of its log. -/
theorem Touched.replayed
    {Row : LogEntry → Prop} {agreed : List LogEntry}
    {before after : Contents}
    (touched : Touched Row False agreed before after)
    (replayed : before.Replayed) :
    after.Replayed := by
  cases touched with
  | evolved evolves =>
      exact evolves.replayed replayed
  | torn evolves _ _ progress =>
      obtain rfl := progress.resolve_right id
      change (tear _ _ 0).table = _
      rw [tear_zero_table]
      exact evolves.replayed replayed
  | committed evolves _ _ =>
      exact (evolves.replayed replayed).commit _
  | discarded evolves _ =>
      exact evolves.replayed replayed

end Contents

namespace SqliteStore

/-- The contents of a database. -/
def contents (store : SqliteStore) : Contents where
  committed := store.committed
  table := store.redone
  tail := store.uncommitted

theorem Kept.contents
    {before after : SqliteStore} (kept : Kept before after) :
    after.contents = before.contents := by
  simp only [SqliteStore.contents, kept.committed, kept.redone,
    kept.uncommitted]

/-- A copy that has committed the agreed log is complete. -/
theorem Copy.contents
    {agreed : List LogEntry} {store : SqliteStore}
    (copy : Copy agreed store) (complete : store.committed = agreed) :
    store.contents = Contents.copyOf agreed := by
  have wholeLog : store.log = agreed :=
    copy.log.eq_of_length_le
      (complete ▸ (List.take_prefix _ _).length_le)
  have noTail : store.uncommitted = [] :=
    uncommitted_of_committed_eq_log (complete.trans wholeLog.symm)
  simp only [SqliteStore.contents, Contents.copyOf, complete, noTail,
    copy.redone complete]

end SqliteStore

end ShardedKvStore

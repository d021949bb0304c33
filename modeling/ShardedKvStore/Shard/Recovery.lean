import ShardedKvStore.Shard.Availability

/-!
# The `kv` tables after crashes

A database that has committed the agreed log is the only kind of file an
election starts from, so it is enough to follow the tables of those.  The table
of such a file is the replay of the log, unless a crash stopped the leading
replica of a write between applying an entry and writing its commit index: then
the entry stays in the table, whatever becomes of it in the log.
-/

namespace ShardedKvStore

open Foundation
open SqliteStore

namespace Contents

/-- The table of a database that has committed the agreed log is replayed after
an election if it was before. -/
theorem Evolves.replayed_of_complete
    {agreed : List LogEntry} {before after : Contents}
    (evolves : Evolves agreed before after)
    (complete : after.committed = agreed)
    (holder : before.committed = agreed → before.Replayed) :
    after.Replayed := by
  cases evolves with
  | kept =>
      exact holder complete
  | copied =>
      rfl

/-- The same for a crash of an election: without a new row the agreed log is as
before. -/
theorem Touched.replayed_of_complete
    {Torn : Prop} {agreed agreed' : List LogEntry}
    {before after : Contents}
    (touched : Touched Shard.NoRow Torn agreed before after)
    (inAgreed : before.committed <+: agreed) (grows : agreed <+: agreed')
    (complete : after.committed = agreed')
    (holder : before.committed = agreed → before.Replayed) :
    after.Replayed := by
  have reaches (same : before.committed = agreed') :
      before.committed = agreed :=
    inAgreed.eq_of_length_le (same ▸ grows.length_le)
  cases touched with
  | evolved evolves =>
      cases evolves with
      | kept =>
          exact holder (reaches complete)
      | copied =>
          rfl
  | torn _ _ noRow _ =>
      exact absurd noRow id
  | committed _ _ noRow =>
      exact absurd noRow id
  | discarded evolves _ =>
      cases evolves with
      | kept =>
          exact holder (reaches complete)
      | copied =>
          rfl

end Contents

namespace Shard

variable {count : Nat}

/-! ## Runs without torn commits -/

/-- A crash of a write does not stop the leading replica between applying an
entry and writing its commit index. -/
def NotTorn : ShardState count → ShardLabel → Prop
  | .running shard _, .callCrash operation cut =>
      operation.IsWrite →
        shard.tornCommit ((operation.call shard).journal.take cut) = false
  | _, _ => True

/-- A step of a shard that is not a torn commit. -/
def UntornStep
    (shardId : Nat) (state : ShardState count) (label : ShardLabel)
    (next : ShardState count) : Prop :=
  ShardStep shardId state label next ∧ NotTorn state label

/-- The runs without torn commits from empty databases. -/
abbrev UntornRun (shardId : Nat) :
    List ShardLabel → ShardState count → Prop :=
  Run (fun state => state = emptyState) (UntornStep shardId)

/-- A running shard has only replayed tables; of the files of a stopped one,
those that have committed the agreed log have. -/
def TablesReplayed (agreed : List LogEntry) : ShardState count → Prop
  | .stopped durable =>
      ∀ position,
        (durable.files position).committed = agreed →
          (durable.files position).contents.Replayed
  | .running shard _ =>
      ∀ position, (shard.contents position).Replayed

theorem isWrite_of_row
    {operation : Operation} {row : LogEntry} (isRow : operation.Row row) :
    operation.IsWrite := by
  cases operation with
  | put =>
      trivial
  | erase =>
      trivial
  | get =>
      exact isRow
  | failReplica =>
      exact isRow
  | recoverReplica =>
      exact isRow
  | electLeader =>
      exact isRow

/-- The replicas of a freshly started shard have all committed the agreed log. -/
theorem Started.committed
    {agreed : List LogEntry} {before : Durable count}
    {journal : List (ShardEvent count)} {bound : Int} {after : Shard count}
    {elections : List Int}
    (started : Started agreed before journal bound after elections)
    (position : Fin count) :
    (after.contents position).committed = agreed := by
  obtain ⟨leader, leads⟩ := started.hasLeader
  exact leads.committed_of_online (started.online position)

/-- A step that is not a torn commit keeps the tables replayed. -/
theorem Transition.tablesReplayed
    {shardId : Nat} {agreed agreed' : List LogEntry} {bound : Int}
    {state next : ShardState count} {label : ShardLabel}
    (transition : Transition agreed state label agreed' next)
    (agrees : Agrees shardId agreed bound state)
    (notTorn : NotTorn state label)
    (replayed : TablesReplayed agreed state) :
    TablesReplayed agreed' next := by
  cases transition with
  | start started =>
      exact fun position =>
        (started.evolves position).replayed_of_complete
          (started.committed position) (replayed position)
  | startCrash grows holders =>
      exact fun position complete =>
        (holders position complete).replayed_of_complete
          (agrees.committed_prefix position) grows complete
          (replayed position)
  | call completed _ =>
      intro position
      exact completed.changes.preserves Contents.Replayed
        (fun evolves => evolves.replayed) id
        (fun row inContents => inContents.commit row) position
        (replayed position)
  | callCrash grows holders =>
      intro position complete
      have touched := (holders position complete).mono (fun _ => id)
        (fun row isRow torn => by
          rw [notTorn (isWrite_of_row isRow)] at torn
          exact Bool.false_ne_true torn)
      exact touched.replayed (replayed position)
  | stop =>
      exact fun position _ => replayed position

/-- In every run without torn commits the table of every replica is the replay
of its committed entries, and with a leader set all online replicas have the
same table. -/
theorem tables_replay_committed_logs
    {shardId : Nat} {labels : List ShardLabel} {shard : Shard count}
    {elections : List Int} (positive : 0 < count)
    (run : UntornRun shardId labels (.running shard elections)) :
    (∀ position,
      (shard.replicas position).store.kv =
        replayLog
          ((shard.replicas position).store.log.take
            (shard.replicas position).commitIndex.toNat)) ∧
      (shard.leaderId ≠ [] →
        ∀ left right,
          (shard.replicas left).online = true →
          (shard.replicas right).online = true →
            (shard.replicas left).store.kv =
              (shard.replicas right).store.kv) := by
  have rule :
      ∃ agreed bound,
        Agrees shardId agreed bound (.running shard elections) ∧
          TablesReplayed agreed (.running shard elections) := by
    refine run_agrees (fun _ => TablesReplayed) positive And.left ?_ ?_ run
    · rintro state rfl
      exact ⟨[], 0, agrees_emptyState positive shardId, fun _ _ => rfl⟩
    · intro _ _ _ _ _ _ _ _ agrees replayed stepped transition _
      exact transition.tablesReplayed agrees stepped.2 replayed
  obtain ⟨agreed, bound, ⟨operational, _, _⟩, replayed⟩ := rule
  have table (position : Fin count) :
      (shard.replicas position).store.kv =
        replayLog (shard.replicas position).store.committed := by
    rw [← operational.redone_eq position]
    exact replayed position
  constructor
  · intro position
    rw [table position, (operational.coherent.inStep position).commit]
    rfl
  · intro named left right leftOnline rightOnline
    obtain ⟨leader, leads⟩ := operational.led.resolve_left named
    rw [table left, table right, leads.committed_of_online leftOnline,
      leads.committed_of_online rightOnline]

/-- A shard of three replicas whose first put crashed on the leader right after
the entry was applied, after a restart and a refused write: the put has been
discarded from the log. -/
def staleTable : Shard 3 :=
  ((Operation.erase (bytes "x")).call (restarted 0 (crashedPut 12))).state

example :
    (staleTable.replicas 0).store.log = [] ∧
      (staleTable.replicas 0).commitIndex = 0 := by
  decide +kernel

/-- The discarded put is still in the table of the leader, and not in the tables
of the other online replicas. -/
theorem discarded_put_stays_in_table :
    ∃ labels elections,
      ShardRun 0 labels (.running staleTable elections) ∧
        (∀ position, (staleTable.replicas position).online = true) ∧
        staleTable.currentLeader = some 0 ∧
        (∀ position, (staleTable.replicas position).store.log = []) ∧
        (staleTable.replicas 0).store.kv (bytes "k") =
          some (bytes "v") ∧
        (staleTable.replicas 0).store.kv ≠
          replayLog
            ((staleTable.replicas 0).store.log.take
              (staleTable.replicas 0).commitIndex.toNat) ∧
        (staleTable.replicas 1).store.kv ≠
          (staleTable.replicas 0).store.kv := by
  have run := (shardRun_crashedPut 12).extend
    (.call _ _ (.erase (bytes "x")))
  have leaders :
      (staleTable.replicas 0).store.kv (bytes "k") =
        some (bytes "v") := by
    decide +kernel
  refine ⟨_, _, run, by decide +kernel, by decide +kernel,
    by decide +kernel, leaders, ?_, ?_⟩
  · intro same
    have nothing := congrFun same (bytes "k")
    rw [leaders] at nothing
    revert nothing
    decide +kernel
  · intro same
    have missing := congrFun same (bytes "k")
    rw [leaders] at missing
    revert missing
    decide +kernel

/-- A crash of the first put before anything is applied leaves replayed tables. -/
theorem tables_replay_after_early_crash :
    ∃ labels elections,
      UntornRun 0 labels
          (.running (restarted 0 (crashedPut 1)) elections) ∧
        ∀ position,
          ((restarted 0 (crashedPut 1)).replicas position).store.kv =
            replayLog
              (((restarted 0
                  (crashedPut 1)).replicas position).store.log.take
                ((restarted 0
                  (crashedPut 1)).replicas
                    position).commitIndex.toNat) := by
  have positive : 0 < 3 := by decide
  have nothing : UntornRun 0 [] (emptyState : ShardState 3) :=
    .initial rfl
  have started := nothing.extend
    ⟨.restart (by decide +kernel), trivial⟩
  have crashed := started.extend
    ⟨.callCrash _ _ (.put (bytes "k") (bytes "v")) 1,
      fun _ => by decide +kernel⟩
  have run := crashed.extend ⟨.restart (by decide +kernel), trivial⟩
  exact ⟨_, _, run, (tables_replay_committed_logs positive run).1⟩

end Shard

end ShardedKvStore

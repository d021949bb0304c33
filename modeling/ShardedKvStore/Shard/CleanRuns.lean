import ShardedKvStore.Shard.Runs

/-!
# Runs without crashes

Without crashes every database is whole between operations: it has no
uncommitted tail, and its `kv` table is the replay of its log.  The committed
part of each database only grows, and so does the agreed log, which a majority of
the databases and every leader have committed.
-/

namespace ShardedKvStore

open Foundation
open SqliteStore

namespace Shard

variable {count : Nat}

/-! ## Completed operations -/

namespace Changes

variable {Row : LogEntry → Prop} {agreed agreed' : List LogEntry}
  {before after : Fin count → Contents}

theorem agreed_prefix
    (changes : Changes Row agreed before after agreed') :
    agreed <+: agreed' := by
  cases changes with
  | kept _ =>
      exact List.prefix_refl _
  | committed row tail _ _ =>
      exact List.prefix_append _ _

theorem whole
    (changes : Changes Row agreed before after agreed')
    (each : ∀ position, (before position).Whole) (position : Fin count) :
    (after position).Whole :=
  changes.preserves Contents.Whole (fun evolves => evolves.whole)
    (fun whole => ⟨rfl, whole.table⟩)
    (fun row whole => ⟨rfl, whole.table.commit row⟩)
    position (each position)

/-- A completed operation never shortens the committed part of a database. -/
theorem committed_prefix
    (changes : Changes Row agreed before after agreed')
    {position : Fin count}
    (isPrefix : (before position).committed <+: agreed) :
    (before position).committed <+: (after position).committed :=
  changes.preserves
    (fun contents => (before position).committed <+: contents.committed)
    (fun evolves => evolves.committed_prefix isPrefix) id
    (fun _ inContents => inContents.trans (List.prefix_append _ _))
    position (List.prefix_refl _)

end Changes

/-- A step without a crash changes the contents as a completed operation does. -/
theorem Transition.changes
    {agreed agreed' : List LogEntry} {state next : ShardState count}
    {label : ShardLabel}
    (transition : Transition agreed state label agreed' next)
    (clean : label.Clean) :
    ∃ Row, Changes Row agreed state.contents next.contents agreed' := by
  cases transition with
  | start started =>
      exact ⟨NoRow, .kept fun position =>
        ⟨_, started.evolves position, Or.inl rfl⟩⟩
  | startCrash =>
      exact absurd clean id
  | call completed _ =>
      exact ⟨_, completed.changes⟩
  | callCrash =>
      exact absurd clean id
  | stop =>
      exact ⟨NoRow, .kept fun position => ⟨_, .kept _, Or.inl rfl⟩⟩

/-! ## Whole databases -/

/-- A run without crashes. -/
structure CleanRun (shardId : Nat) (labels : List ShardLabel)
    (state : ShardState count) : Prop where
  run : ShardRun shardId labels state
  clean : ∀ label ∈ labels, label.Clean

theorem cleanRun_begun (positive : 0 < count) (shardId : Nat) :
    CleanRun shardId [.start]
      (.running (begun shardId count) (begunElections shardId count)) :=
  ⟨shardRun_begun positive shardId, fun _ member =>
    List.mem_singleton.mp member ▸ trivial⟩

/-- Continue a run without crashes by an operation. -/
theorem CleanRun.call
    {shardId : Nat} {labels : List ShardLabel} {shard : Shard count}
    {elections : List Int}
    (cleanRun : CleanRun shardId labels (.running shard elections))
    (operation : Operation) :
    CleanRun shardId
      (labels ++ [.call operation (operation.call shard).result])
      (.running (operation.call shard).state
        (Durable.after ⟨shard.files, elections⟩
          (operation.call shard).journal).elections) := by
  refine ⟨cleanRun.run.extend (.call shard elections operation), ?_⟩
  exact forall_mem_concat_iff.mpr ⟨cleanRun.clean, trivial⟩

/-- A run without crashes that continues from a state. -/
structure CleanContinuation (shardId : Nat) (earlier : ShardState count)
    (labels : List ShardLabel) (state : ShardState count) : Prop where
  run : Run (fun start => start = earlier) (ShardStep shardId) labels state
  clean : ∀ label ∈ labels, label.Clean

/-- The databases agree and are whole. -/
def CleanState
    (shardId : Nat) (agreed : List LogEntry) (bound : Int)
    (state : ShardState count) : Prop :=
  Agrees shardId agreed bound state ∧
    ∀ position, (state.contents position).Whole

theorem CleanRun.cleanState
    {shardId : Nat} {labels : List ShardLabel} {state : ShardState count}
    (positive : 0 < count) (cleanRun : CleanRun shardId labels state) :
    ∃ agreed bound, CleanState shardId agreed bound state := by
  obtain ⟨agreed, bound, agrees, whole⟩ :=
    shardRun_agrees
      (fun labels _ state =>
        (∀ label ∈ labels, label.Clean) →
          ∀ position, (state.contents position).Whole)
      positive (fun _ _ => ⟨rfl, rfl⟩)
      (fun _ holds _ transition _ clean => by
        obtain ⟨earlier, last⟩ := forall_mem_concat_iff.mp clean
        obtain ⟨_, changes⟩ := transition.changes last
        exact changes.whole (holds earlier))
      cleanRun.run
  exact ⟨agreed, bound, agrees, whole cleanRun.clean⟩

/-- What a continuation without crashes leaves of the earlier state. -/
theorem CleanContinuation.grows
    {shardId : Nat} {agreed : List LogEntry} {bound : Int}
    {earlier later : ShardState count} {labels : List ShardLabel}
    (positive : 0 < count)
    (continuation : CleanContinuation shardId earlier labels later)
    (agrees : Agrees shardId agreed bound earlier) :
    ∃ agreed' bound',
      Agrees shardId agreed' bound' later ∧ agreed <+: agreed' ∧
        ∀ position,
          (earlier.contents position).committed <+:
            (later.contents position).committed := by
  let Grows (labels : List ShardLabel) (agreed' : List LogEntry)
      (later : ShardState count) : Prop :=
    (∀ label ∈ labels, label.Clean) →
      agreed <+: agreed' ∧
        ∀ position,
          (earlier.contents position).committed <+:
            (later.contents position).committed
  have rule :
      ∃ agreed' bound',
        Agrees shardId agreed' bound' later ∧
          Grows labels agreed' later := by
    refine run_agrees Grows positive id ?_ ?_ continuation.run
    · rintro state rfl
      exact ⟨agreed, bound, agrees, fun _ =>
        ⟨List.prefix_refl _, fun _ => List.prefix_refl _⟩⟩
    · intro _ _ _ _ _ _ _ _ agrees holds _ transition _ clean
      obtain ⟨earlierClean, lastClean⟩ := forall_mem_concat_iff.mp clean
      obtain ⟨_, changes⟩ := transition.changes lastClean
      obtain ⟨grows, each⟩ := holds earlierClean
      exact ⟨grows.trans changes.agreed_prefix, fun position =>
        (each position).trans
          (changes.committed_prefix (agrees.committed_prefix position))⟩
  obtain ⟨agreed', bound', agrees', grows⟩ := rule
  exact ⟨agreed', bound', agrees', grows continuation.clean⟩

/-! ## Logs and tables of the replicas -/

/-- One replica between the operations of a run without crashes. -/
structure LogInvariant (replica : RaftReplica) : Prop where
  indexes : OrderedTable.Contiguous LogEntry.index replica.store.log
  lastIndex : replica.store.lastLogIndex = replica.store.log.length
  termOrder :
    replica.store.log.Pairwise
      (fun earlier later => earlier.term ≤ later.term)
  ownTerms :
    ∀ entry ∈ replica.store.log, entry.term ≤ replica.currentTerm
  committed : replica.commitIndex = replica.store.lastLogIndex
  applied : replica.lastApplied = replica.commitIndex
  table : replica.store.kv = replayLog replica.store.log

namespace CleanState

variable {shardId : Nat} {agreed : List LogEntry} {bound : Int}
  {shard : Shard count} {elections : List Int}

theorem uncommitted_eq_nil
    (clean : CleanState shardId agreed bound (.running shard elections))
    (position : Fin count) :
    (shard.replicas position).store.uncommitted = [] :=
  (clean.2 position).tail

/-- Without tails only a missing majority rejects a write. -/
theorem accepts_of_quorum
    (clean : CleanState shardId agreed bound (.running shard elections))
    (quorum :
      majority count ≤
        tally fun position => (shard.replicas position).online) :
    shard.Accepts :=
  ⟨quorum, Or.inr fun leader _ => clean.uncommitted_eq_nil leader⟩

theorem committed_eq_log
    (clean : CleanState shardId agreed bound (.running shard elections))
    (position : Fin count) :
    (shard.replicas position).store.committed =
      (shard.replicas position).store.log := by
  have split :=
    (shard.replicas position).store.committed_append_uncommitted
  rwa [clean.uncommitted_eq_nil position, List.append_nil] at split

theorem kv_eq
    (clean : CleanState shardId agreed bound (.running shard elections))
    (position : Fin count) :
    (shard.replicas position).store.kv =
      replayLog (shard.replicas position).store.committed := by
  rw [← clean.1.1.redone_eq position]
  exact (clean.2 position).table

theorem logInvariant
    (clean : CleanState shardId agreed bound (.running shard elections))
    (position : Fin count) :
    LogInvariant (shard.replicas position) := by
  have operational := clean.1.1
  have wellFormed := operational.coherent.wellFormed position
  have inStep := operational.coherent.inStep position
  have lastIndex := lastLogIndex_eq wellFormed.wellFormedLog.contiguous
  refine
    { indexes := wellFormed.wellFormedLog.contiguous
      lastIndex := lastIndex
      termOrder := wellFormed.wellFormedLog.terms
      ownTerms := operational.ownTerms position
      committed := ?_
      applied := inStep.caughtUp
      table := ?_ }
  · rw [inStep.commit, ← wellFormed.length_committed,
      clean.committed_eq_log position, lastIndex]
  · rw [clean.kv_eq position, clean.committed_eq_log position]

theorem log_prefix
    (clean : CleanState shardId agreed bound (.running shard elections))
    (position : Fin count) :
    (shard.replicas position).store.log <+: agreed := by
  rw [← clean.committed_eq_log position]
  exact (clean.1.1.coherent.file position).committed

/-- An online replica has the agreed log while there is a leader. -/
theorem log_eq_of_leads
    (clean : CleanState shardId agreed bound (.running shard elections))
    {leader position : Fin count} (leads : Leads agreed bound shard leader)
    (online : (shard.replicas position).online = true) :
    (shard.replicas position).store.log = agreed := by
  rw [← clean.committed_eq_log position]
  exact leads.committed_of_online online

end CleanState

/-- Between the operations of a run without crashes every replica satisfies its
invariant, the logs are initial parts of each other, and with a leader set every
online replica has the leader's log, table and commit index. -/
theorem logs_agree_in_clean_runs
    {shardId : Nat} {labels : List ShardLabel} {shard : Shard count}
    {elections : List Int} (positive : 0 < count)
    (cleanRun : CleanRun shardId labels (.running shard elections)) :
    (∀ position, LogInvariant (shard.replicas position)) ∧
      (∀ left right,
        (shard.replicas left).store.log <+:
            (shard.replicas right).store.log ∨
          (shard.replicas right).store.log <+:
            (shard.replicas left).store.log) ∧
      (shard.leaderId ≠ [] →
        ∃ leader,
          (shard.replicas leader).id = shard.leaderId ∧
            ∀ position,
              (shard.replicas position).online = true →
                (shard.replicas position).store.log =
                    (shard.replicas leader).store.log ∧
                  (shard.replicas position).store.kv =
                    (shard.replicas leader).store.kv ∧
                  (shard.replicas position).commitIndex =
                    (shard.replicas leader).commitIndex) := by
  obtain ⟨agreed, bound, clean⟩ := cleanRun.cleanState positive
  refine ⟨clean.logInvariant, ?_, ?_⟩
  · intro left right
    exact List.prefix_or_prefix_of_prefix
      (clean.log_prefix left) (clean.log_prefix right)
  · intro named
    obtain ⟨leader, leads⟩ := clean.1.1.led.resolve_left named
    refine ⟨leader, leads.named.symm, ?_⟩
    intro position online
    have log :
        (shard.replicas position).store.log =
          (shard.replicas leader).store.log := by
      rw [clean.log_eq_of_leads leads online,
        clean.log_eq_of_leads leads leads.online]
    have own := clean.logInvariant position
    have leaders := clean.logInvariant leader
    refine ⟨log, ?_, ?_⟩
    · rw [own.table, leaders.table, log]
    · rw [own.committed, leaders.committed, own.lastIndex,
        leaders.lastIndex, log]

/-- A shard of three replicas that has stored a value satisfies the invariant. -/
theorem logs_agree_after_put :
    ∃ labels elections,
      CleanRun 0 labels
          (.running
            ((Operation.put (bytes "k") (bytes "v")).call
              (begun 0 3)).state elections) ∧
        ∀ position,
          LogInvariant
            (((Operation.put (bytes "k") (bytes "v")).call
              (begun 0 3)).state.replicas position) := by
  have positive : 0 < 3 := by decide
  have cleanRun :=
    (cleanRun_begun positive 0).call (.put (bytes "k") (bytes "v"))
  exact ⟨_, _, cleanRun,
    (logs_agree_in_clean_runs positive cleanRun).1⟩

/-! ## Committed entries -/

end Shard

namespace RaftReplica

/-- The entry is in the committed part of the replica's log. -/
def HasCommitted (replica : RaftReplica) (entry : LogEntry) : Prop :=
  replica.store.logAt entry.index = some entry ∧
    entry.index ≤ replica.commitIndex

instance (replica : RaftReplica) (entry : LogEntry) :
    Decidable (replica.HasCommitted entry) :=
  inferInstanceAs (Decidable (_ ∧ _))

end RaftReplica

namespace Shard

variable {count : Nat}

/-- A replica that has committed the agreed log has committed its entries. -/
theorem Coherent.hasCommitted
    {agreed : List LogEntry} {bound : Int} {shard : Shard count}
    (coherent : Coherent agreed bound shard) {position : Fin count}
    (complete : (shard.replicas position).store.committed = agreed)
    {index : Nat} {entry : LogEntry} (found : agreed[index]? = some entry) :
    (shard.replicas position).HasCommitted entry := by
  have wellFormed := coherent.wellFormed position
  have inLog :
      (shard.replicas position).store.log[index]? = some entry := by
    obtain ⟨rest, shape⟩ := FilesAgree.agreed_prefix_log complete
    obtain ⟨inside, _⟩ := List.getElem?_eq_some_iff.mp found
    rw [← shape, List.getElem?_append_left inside]
    exact found
  have entryIndex : entry.index = index + 1 :=
    wellFormed.wellFormedLog.contiguous index entry inLog
  refine ⟨?_, ?_⟩
  · rw [entryIndex, logAt_succ wellFormed.wellFormedLog.contiguous, inLog]
  · have commit : (shard.replicas position).commitIndex = agreed.length :=
      (coherent.inStep position).commit.trans
        (coherent.agree.commitIndex_eq complete)
    obtain ⟨inside, _⟩ := List.getElem?_eq_some_iff.mp found
    omega

theorem Operational.commitIndex_eq_length
    {agreed : List LogEntry} {bound : Int} {shard : Shard count}
    (operational : Operational agreed bound shard) (position : Fin count) :
    (shard.replicas position).commitIndex =
      (shard.contents position).committed.length := by
  rw [(operational.coherent.inStep position).commit]
  exact (operational.coherent.wellFormed position).length_committed.symm

/-- An acknowledged write adds one entry to the agreed log of a run without
crashes. -/
theorem CleanState.acknowledged
    {shardId : Nat} {agreed agreed' : List LogEntry} {bound : Int}
    {shard : Shard count} {elections : List Int} {operation : Operation}
    {result : OperationResult}
    (clean : CleanState shardId agreed bound (.running shard elections))
    (isWrite : operation.IsWrite)
    (answers :
      Answers shard agreed operation (.result result) agreed')
    (acknowledged : result.ok = true) :
    ∃ entry, operation.Row entry ∧ agreed' = agreed ++ [entry] := by
  have stores {command key value : Bytes}
      (answer :
        WriteAnswer command key value shard agreed result agreed') :
      ∃ entry,
        Records command key value entry ∧ agreed' = agreed ++ [entry] := by
    cases answer with
    | stored _ _ records _ _ =>
        exact ⟨_, records, by rw [clean.uncommitted_eq_nil]; rfl⟩
    | rejected _ failed _ =>
        rw [failed] at acknowledged
        cases acknowledged
  cases answers with
  | put answer =>
      exact stores answer
  | erase answer =>
      exact stores answer
  | get =>
      exact absurd isWrite id

/-- In a run without crashes no commit index ever decreases, and the entry of an
acknowledged write is a new one that a majority of all replicas and every
leader have committed from then on. -/
theorem committed_entries_stay_committed
    {shardId : Nat} {labels : List ShardLabel} {shard : Shard count}
    {elections : List Int} (positive : 0 < count)
    (cleanRun : CleanRun shardId labels (.running shard elections)) :
    (∀ labels' later elections',
      CleanContinuation shardId (.running shard elections) labels'
          (.running later elections') →
        ∀ position,
          (shard.replicas position).commitIndex ≤
            (later.replicas position).commitIndex) ∧
      ∀ operation result after elections',
        Operation.IsWrite operation → result.ok = true →
        ShardStep shardId (.running shard elections)
            (.call operation (.ok (.result result)))
            (.running after elections') →
          ∃ entry,
            operation.Row entry ∧
              (∀ position,
                (shard.replicas position).commitIndex < entry.index) ∧
              ∀ labels' later elections'',
                CleanContinuation shardId (.running after elections')
                    labels' (.running later elections'') →
                  (majority count ≤
                    tally fun position =>
                      decide
                        ((later.replicas position).HasCommitted entry)) ∧
                  ∀ leader,
                    later.currentLeader = some leader →
                      (later.replicas leader).HasCommitted entry := by
  obtain ⟨agreed, bound, clean⟩ := cleanRun.cleanState positive
  constructor
  · intro labels' later elections' continuation position
    obtain ⟨_, _, agrees, _, grows⟩ := continuation.grows positive clean.1
    rw [clean.1.1.commitIndex_eq_length, agrees.1.commitIndex_eq_length]
    exact_mod_cast (grows position).length_le
  · intro operation result after elections' isWrite acknowledged step
    obtain ⟨agreed', bound', transition, agrees⟩ :=
      step.transition positive clean.1
    cases transition with
    | call completed answers =>
      obtain ⟨entry, isRow, extended⟩ :=
        clean.acknowledged isWrite answers acknowledged
      have found : agreed'[agreed.length]? = some entry := by
        rw [extended]
        exact List.getElem?_concat_length
      refine ⟨entry, isRow, ?_, ?_⟩
      · intro position
        have entryIndex : entry.index = agreed.length + 1 :=
          agrees.1.coherent.agree.wellFormedAgreed.contiguous _ _ found
        have commitLe := clean.1.1.coherent.agree.commitIndex_le position
        rw [(clean.1.1.coherent.inStep position).commit]
        change (shard.files position).commitIndex < _
        omega
      · intro labels' later elections'' continuation
        obtain ⟨agreed'', bound'', later_, ⟨rest, shape⟩, _⟩ :=
          continuation.grows positive agrees
        have foundLater : agreed''[agreed.length]? = some entry := by
          obtain ⟨inside, _⟩ := List.getElem?_eq_some_iff.mp found
          rw [← shape, List.getElem?_append_left inside]
          exact found
        have coherent := later_.1.coherent
        constructor
        · refine later_.1.majority.trans (tally_mono ?_)
          intro position complete
          exact decide_eq_true
            (coherent.hasCommitted (of_decide_eq_true complete) foundLater)
        · intro leader found
          exact coherent.hasCommitted
            (later_.1.leads_of_currentLeader found).complete foundLater

/-- The first value stored in a shard of three replicas stays committed. -/
theorem first_put_stays_committed :
    ∃ labels elections after elections',
      CleanRun 0 labels (.running (begun 0 3) elections) ∧
        ShardStep 0 (.running (begun 0 3) elections)
          (.call (.put (bytes "k") (bytes "v"))
            (.ok (.result
              { ok := true
                status := 201
                message := bytes "stored"
                leader := bytes "s0-r0" })))
          (.running after elections') ∧
        ∃ entry,
          Records putCommand (bytes "k") (bytes "v") entry ∧
            ∀ labels' later elections'',
              CleanContinuation 0 (.running after elections') labels'
                  (.running later elections'') →
                majority 3 ≤
                  tally fun position =>
                    decide
                      ((later.replicas position).HasCommitted entry) := by
  have positive : 0 < 3 := by decide
  have cleanRun := cleanRun_begun positive 0
  have step := @ShardStep.call 3 0 (begun 0 3) (begunElections 0 3)
    (.put (bytes "k") (bytes "v"))
  have answer :
      ((Operation.put (bytes "k") (bytes "v")).call (begun 0 3)).result =
        .ok (.result
          { ok := true
            status := 201
            message := bytes "stored"
            leader := bytes "s0-r0" }) := by
    decide +kernel
  rw [answer] at step
  obtain ⟨entry, isRow, _, stays⟩ :=
    (committed_entries_stay_committed positive cleanRun).2
      (.put (bytes "k") (bytes "v")) _ _ _ trivial rfl step
  exact ⟨_, _, _, _, cleanRun, step, entry, isRow,
    fun labels' later elections'' continuation =>
      (stays labels' later elections'' continuation).1⟩

end Shard

end ShardedKvStore

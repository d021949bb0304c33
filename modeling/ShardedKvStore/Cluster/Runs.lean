import ShardedKvStore.Cluster
import ShardedKvStore.Shard.Histories

/-!
# Runs of a cluster

What a run of the cluster does to one of its shards is a run of that shard: an
operation is one step of the shard it is routed to and none of the others, a
crash or a stop is a step of every shard.  Results about shards carry over to the
cluster through this projection.
-/

namespace ShardedKvStore

open Foundation

/-- The public operations of a cluster. -/
inductive ClusterOperation where
  | put (key value : Bytes)
  | erase (key : Bytes)
  | get (key : Bytes)
  | failReplica (shardId : Nat) (replica : Bytes)
  | recoverReplica (shardId : Nat) (replica : Bytes)
  | elect (shardId : Nat)
  deriving DecidableEq, Repr

namespace ClusterOperation

variable {shardCount replicaCount : Nat} [NeZero shardCount]

/-- Call an operation. -/
def call : ClusterOperation → ClusterCall shardCount replicaCount Response
  | .put key value => do
      return .result (← Cluster.put key value)
  | .erase key => do
      return .result (← Cluster.erase key)
  | .get key => do
      return .result (← Cluster.get key)
  | .failReplica shardId replica => do
      return .flag (← Cluster.failReplica shardId replica)
  | .recoverReplica shardId replica => do
      return .flag (← Cluster.recoverReplica shardId replica)
  | .elect shardId => do
      return .flag (← Cluster.elect shardId)

/-- The shard with a number. -/
def numbered (shardCount shardId : Nat) : Option (Fin shardCount) :=
  if inRange : shardId < shardCount then some ⟨shardId, inRange⟩ else none

/-- The shard an operation is routed to, and what it asks of it. -/
def target : ClusterOperation → Option (Fin shardCount × Operation)
  | .put key value => some (Cluster.shardForKey key, .put key value)
  | .erase key => some (Cluster.shardForKey key, .erase key)
  | .get key => some (Cluster.shardForKey key, .get key)
  | .failReplica shardId replica =>
      (numbered shardCount shardId).map (·, .failReplica replica)
  | .recoverReplica shardId replica =>
      (numbered shardCount shardId).map (·, .recoverReplica replica)
  | .elect shardId => (numbered shardCount shardId).map (·, .electLeader)

/-- The write of an operation. -/
def write : ClusterOperation → Option Write
  | .put key value => some ⟨putCommand, key, value⟩
  | .erase key => some ⟨deleteCommand, key, []⟩
  | _ => none

end ClusterOperation

namespace Cluster

variable {shardCount replicaCount : Nat}

theorem onShard_map
    {Value Next : Type} (shard : Fin shardCount)
    (call : ShardCall replicaCount Value) (change : Value → Next) :
    (do
      return change (← onShard shard call) :
        ClusterCall shardCount replicaCount Next) =
      onShard shard (do return change (← call)) := by
  funext cluster
  simp only [onShard, Journaled.bind_apply]
  cases answer : call (cluster.shards shard) with
  | mk result state journal =>
      cases result with
      | error failure =>
          rfl
      | ok value =>
          simp [Outcome.andThen]

theorem onNumber_apply
    (shardId : Nat) {call : ShardCall replicaCount Bool}
    {operation : Operation}
    (isCall : operation.call = do return .flag (← call))
    (cluster : Cluster shardCount replicaCount) :
    (do
      return .flag (← onNumber shardId call) :
        ClusterCall shardCount replicaCount Response) cluster =
      match
        (ClusterOperation.numbered shardCount shardId).map
          (·, operation) with
      | some (shard, operation) => onShard shard operation.call cluster
      | none => ⟨.ok (.flag false), cluster, []⟩ := by
  unfold onNumber ClusterOperation.numbered
  split
  · rw [onShard_map, ← isCall]
    rfl
  · rfl

end Cluster

/-- An operation is the operation of the shard it is routed to. -/
theorem ClusterOperation.call_apply
    {shardCount replicaCount : Nat} [NeZero shardCount]
    (operation : ClusterOperation)
    (cluster : Cluster shardCount replicaCount) :
    operation.call cluster =
      match (operation.target : Option (Fin shardCount × Operation)) with
      | some (shard, shardOperation) =>
          Cluster.onShard shard shardOperation.call cluster
      | none => ⟨.ok (.flag false), cluster, []⟩ := by
  cases operation with
  | put key value =>
      exact congrFun (Cluster.onShard_map _ _ _) cluster
  | erase key =>
      exact congrFun (Cluster.onShard_map _ _ _) cluster
  | get key =>
      exact congrFun (Cluster.onShard_map _ _ _) cluster
  | failReplica shardId replica =>
      exact Cluster.onNumber_apply shardId rfl cluster
  | recoverReplica shardId replica =>
      exact Cluster.onNumber_apply shardId rfl cluster
  | elect shardId =>
      exact Cluster.onNumber_apply shardId rfl cluster

/-! ## States and steps -/

/-- A cluster whose process is stopped or running. -/
inductive ClusterState (shardCount replicaCount : Nat) where
  | stopped (files : Cluster.ClusterFiles shardCount replicaCount)
  | running (cluster : Cluster shardCount replicaCount)

/-- The steps of a run. -/
inductive ClusterLabel where
  /-- the constructor runs on the files -/
  | start
  /-- the process crashes after `cut` events of the constructor -/
  | startCrash (cut : Nat)
  /-- an operation returns or throws -/
  | call (operation : ClusterOperation) (answer : Except KvError Response)
  /-- the process crashes after `cut` events of an operation -/
  | callCrash (operation : ClusterOperation) (cut : Nat)
  /-- the process stops between operations -/
  | stop

namespace ClusterLabel

/-- A step without a crash. -/
def Clean : ClusterLabel → Prop
  | .startCrash _ => False
  | .callCrash _ _ => False
  | _ => True

/-- What a step says about a write. -/
def event : ClusterLabel → Option WriteEvent
  | .call operation answer =>
      Shard.acknowledgedWrite answer operation.write
  | .callCrash operation _ => operation.write.map .interrupted
  | _ => none

/-- The history of a run. -/
def history (labels : List ClusterLabel) : List WriteEvent :=
  labels.filterMap event

end ClusterLabel

section Steps

variable {shardCount replicaCount : Nat}

/-- The state after the constructor has run. -/
def Cluster.afterStart
    (files : Cluster.ClusterFiles shardCount replicaCount) :
    ClusterState shardCount replicaCount :=
  let outcome := Cluster.construct files
  match outcome.result with
  | .ok _ => .running outcome.state
  | .error _ => .stopped (Cluster.filesAfter files outcome.journal)

theorem Cluster.afterStart_of_ok
    {files : Cluster.ClusterFiles shardCount replicaCount}
    (isOk : (Cluster.construct files).result = .ok ()) :
    Cluster.afterStart files =
      .running (Cluster.construct files).state := by
  unfold Cluster.afterStart
  simp only [isOk]

variable [NeZero shardCount]

/-- The steps of a cluster. -/
inductive ClusterStep :
    ClusterState shardCount replicaCount → ClusterLabel →
      ClusterState shardCount replicaCount → Prop
  | start (files : Cluster.ClusterFiles shardCount replicaCount) :
      ClusterStep (.stopped files) .start (Cluster.afterStart files)
  | startCrash
      (files : Cluster.ClusterFiles shardCount replicaCount) (cut : Nat) :
      ClusterStep (.stopped files) (.startCrash cut)
        (.stopped (Cluster.filesAfter files
          ((Cluster.construct files).journal.take cut)))
  | call (cluster : Cluster shardCount replicaCount)
      (operation : ClusterOperation) :
      ClusterStep (.running cluster)
        (.call operation (operation.call cluster).result)
        (.running (operation.call cluster).state)
  | callCrash (cluster : Cluster shardCount replicaCount)
      (operation : ClusterOperation) (cut : Nat) :
      ClusterStep (.running cluster) (.callCrash operation cut)
        (.stopped (Cluster.filesAfter cluster.files
          ((operation.call cluster).journal.take cut)))
  | stop (cluster : Cluster shardCount replicaCount) :
      ClusterStep (.running cluster) .stop (.stopped cluster.files)

/-- The state before the first start. -/
def ClusterState.empty : ClusterState shardCount replicaCount :=
  .stopped fun _ _ => SqliteStore.empty

/-- The runs of a cluster from empty databases. -/
abbrev ClusterRun :
    List ClusterLabel → ClusterState shardCount replicaCount → Prop :=
  Run (fun state => state = ClusterState.empty) ClusterStep

end Steps

/-! ## The events of one shard -/

namespace Cluster

variable {shardCount replicaCount : Nat}

/-- The events of one shard in a journal. -/
def eventsOf
    (shard : Fin shardCount)
    (events : List (ClusterEvent shardCount replicaCount)) :
    List (ShardEvent replicaCount) :=
  events.filterMap fun event =>
    if event.1 = shard then some event.2 else none

theorem eventsOf_append
    (shard : Fin shardCount)
    (first second : List (ClusterEvent shardCount replicaCount)) :
    eventsOf shard (first ++ second) =
      eventsOf shard first ++ eventsOf shard second :=
  List.filterMap_append

theorem eventsOf_own
    (shard : Fin shardCount) (events : List (ShardEvent replicaCount)) :
    eventsOf shard (events.map (Prod.mk shard)) = events := by
  simp [eventsOf, List.filterMap_map]

theorem eventsOf_other
    {shard other : Fin shardCount} (different : other ≠ shard)
    (events : List (ShardEvent replicaCount)) :
    eventsOf shard (events.map (Prod.mk other)) = [] := by
  simp [eventsOf, List.filterMap_map, different]

/-- The files of a shard are changed by the events of the shard only. -/
theorem filesAfter_shard
    (files : ClusterFiles shardCount replicaCount)
    (events : List (ClusterEvent shardCount replicaCount))
    (shard : Fin shardCount) :
    filesAfter files events shard =
      (eventsOf shard events).foldl Shard.performOnFiles
        (files shard) := by
  induction events generalizing files with
  | nil =>
      rfl
  | cons event rest inductionHypothesis =>
      change filesAfter (performOnFiles files event) rest shard = _
      rw [inductionHypothesis]
      by_cases own : event.1 = shard
      · subst own
        simp [eventsOf, performOnFiles]
      · have other : shard ≠ event.1 := fun same => own same.symm
        simp [eventsOf, performOnFiles, own, other]

/-- A crash keeps a prefix of the events of each shard. -/
theorem eventsOf_take
    (shard : Fin shardCount)
    (events : List (ClusterEvent shardCount replicaCount)) (cut : Nat) :
    ∃ shardCut,
      eventsOf shard (events.take cut) =
        (eventsOf shard events).take shardCut := by
  have isPrefix :
      eventsOf shard (events.take cut) <+: eventsOf shard events :=
    (List.take_prefix cut events).filterMap _
  exact ⟨_, List.prefix_iff_eq_take.mp isPrefix⟩

/-- The loop of the constructor over shards that are not built yet. -/
private theorem forEach_constructor
    {files : ClusterFiles shardCount replicaCount}
    (returns :
      ∀ shard : Fin shardCount,
        (Shard.construct shard (files shard)).result = .ok ())
    (shards : List (Fin shardCount)) (distinct : shards.Nodup)
    (cluster : Cluster shardCount replicaCount)
    (fresh :
      ∀ shard ∈ shards,
        cluster.shards shard = Shard.opened shard (files shard)) :
    ∃ built journal,
      Journaled.forEach (fun shard => onShard shard Shard.constructor)
          shards cluster = ⟨.ok (), built, journal⟩ ∧
        ∀ shard,
          built.shards shard =
              (if shard ∈ shards then
                (Shard.construct shard (files shard)).state
              else
                cluster.shards shard) ∧
            eventsOf shard journal =
              (if shard ∈ shards then
                (Shard.construct shard (files shard)).journal
              else
                []) := by
  induction shards generalizing cluster with
  | nil =>
      exact ⟨cluster, [], rfl, fun shard => by simp [eventsOf]⟩
  | cons first rest inductionHypothesis =>
      obtain ⟨notInRest, restDistinct⟩ := List.nodup_cons.mp distinct
      have builds :
          onShard first Shard.constructor cluster =
            ⟨.ok (),
              ⟨Function.update cluster.shards first
                (Shard.construct first (files first)).state⟩,
              (Shard.construct first (files first)).journal.map
                (Prod.mk first)⟩ := by
        unfold onShard
        rw [fresh first List.mem_cons_self, ← returns first]
        rfl
      obtain ⟨built, journal, runs, each⟩ :=
        inductionHypothesis restDistinct
          ⟨Function.update cluster.shards first
            (Shard.construct first (files first)).state⟩
          (fun shard member => by
            have different : shard ≠ first :=
              fun same => notInRest (same ▸ member)
            simp only [Function.update_of_ne different]
            exact fresh shard (List.mem_cons_of_mem first member))
      refine ⟨built,
        (Shard.construct first (files first)).journal.map
          (Prod.mk first) ++ journal, ?_, fun shard => ?_⟩
      · simp only [Journaled.forEach, Journaled.bind_apply, builds,
          Outcome.andThen_ok, runs, Outcome.prepend_mk]
      · obtain ⟨state, events⟩ := each shard
        rw [eventsOf_append, state, events]
        by_cases isFirst : shard = first
        · subst isFirst
          rw [eventsOf_own]
          simp [notInRest]
        · rw [eventsOf_other (Ne.symm isFirst)]
          simp [isFirst]

/-- The constructor builds each shard on its own files. -/
theorem construct_apply
    {files : ClusterFiles shardCount replicaCount}
    (positive : 0 < shardCount)
    (returns :
      ∀ shard : Fin shardCount,
        (Shard.construct shard (files shard)).result = .ok ()) :
    (construct files).result = .ok () ∧
      ∀ shard : Fin shardCount,
        (construct files).state.shards shard =
            (Shard.construct shard (files shard)).state ∧
          eventsOf shard (construct files).journal =
            (Shard.construct shard (files shard)).journal := by
  obtain ⟨built, journal, runs, each⟩ :=
    forEach_constructor returns (List.finRange shardCount)
      (List.nodup_finRange shardCount) (opened files) (fun _ _ => rfl)
  have whole : construct files = ⟨.ok (), built, journal⟩ := by
    have enough : ¬ shardCount < 1 := by omega
    unfold construct constructor
    simp only [Journaled.ite_apply, if_neg enough]
    exact runs
  rw [whole]
  refine ⟨rfl, fun shard => ?_⟩
  obtain ⟨state, events⟩ := each shard
  rw [if_pos (List.mem_finRange shard)] at state events
  exact ⟨state, events⟩

end Cluster

/-! ## The projection to a shard -/

section Projection

variable {shardCount replicaCount : Nat}

/-- The state of one shard. -/
def ClusterState.shard
    (state : ClusterState shardCount replicaCount)
    (shard : Fin shardCount) (elections : List Int) :
    Shard.ShardState replicaCount :=
  match state with
  | .stopped files => .stopped ⟨files shard, elections⟩
  | .running cluster => .running (cluster.shards shard) elections

variable [NeZero shardCount]

/-- The part of a history that concerns a shard. -/
def historyOf
    (shard : Fin shardCount) (history : List WriteEvent) :
    List WriteEvent :=
  history.filter fun event =>
    Cluster.shardForKey event.write.key = shard

theorem historyOf_append
    (shard : Fin shardCount) (first second : List WriteEvent) :
    historyOf shard (first ++ second) =
      historyOf shard first ++ historyOf shard second :=
  List.filter_append ..

/-- An operation is routed with its write, to the shard of its key. -/
theorem ClusterOperation.target_write
    {operation : ClusterOperation} {shard : Fin shardCount}
    {shardOperation : Operation}
    (routed : operation.target = some (shard, shardOperation)) :
    shardOperation.write = operation.write ∧
      ∀ write, operation.write = some write →
        Cluster.shardForKey write.key = shard := by
  have numbered_write {shardId : Nat} {asked : Operation}
      (noWrite : asked.write = none)
      (found :
        (numbered shardCount shardId).map (·, asked) =
          some (shard, shardOperation)) :
      shardOperation.write = none := by
    obtain ⟨_, _, same⟩ := Option.map_eq_some_iff.mp found
    cases same
    exact noWrite
  cases operation with
  | put key value =>
      cases routed
      exact ⟨rfl, fun write isWrite => by cases isWrite; rfl⟩
  | erase key =>
      cases routed
      exact ⟨rfl, fun write isWrite => by cases isWrite; rfl⟩
  | get key =>
      cases routed
      exact ⟨rfl, fun write isWrite => by cases isWrite⟩
  | failReplica shardId replica =>
      exact ⟨numbered_write rfl routed, fun _ isWrite => by cases isWrite⟩
  | recoverReplica shardId replica =>
      exact ⟨numbered_write rfl routed, fun _ isWrite => by cases isWrite⟩
  | elect shardId =>
      exact ⟨numbered_write rfl routed, fun _ isWrite => by cases isWrite⟩

theorem ClusterOperation.write_of_noTarget
    {operation : ClusterOperation}
    (nowhere :
      (operation.target : Option (Fin shardCount × Operation)) = none) :
    operation.write = none := by
  cases operation with
  | put key value =>
      cases nowhere
  | erase key =>
      cases nowhere
  | get key =>
      cases nowhere
  | failReplica shardId replica =>
      rfl
  | recoverReplica shardId replica =>
      rfl
  | elect shardId =>
      rfl

/-- The event of an operation concerns the shard it is routed to. -/
theorem historyOf_routed
    {operation : ClusterOperation} {target : Fin shardCount}
    {shardOperation : Operation}
    (routed : operation.target = some (target, shardOperation))
    (event : Option Write → Option WriteEvent)
    (keepsWrite :
      ∀ write reached,
        event write = some reached → write = some reached.write)
    (shard : Fin shardCount) :
    historyOf shard (event operation.write).toList =
      if target = shard then
        (event shardOperation.write).toList
      else
        [] := by
  obtain ⟨sameWrite, ownShard⟩ := operation.target_write routed
  rw [sameWrite]
  cases hasEvent : event operation.write with
  | none =>
      simp [historyOf]
  | some reached =>
      have own :=
        ownShard reached.write (keepsWrite _ _ hasEvent)
      by_cases same : target = shard
      · simp [historyOf, own, same]
      · simp [historyOf, own, same]

theorem write_of_acknowledged
    {answer : Except KvError Response} (write : Option Write)
    (reached : WriteEvent)
    (found : Shard.acknowledgedWrite answer write = some reached) :
    write = some reached.write := by
  unfold Shard.acknowledgedWrite at found
  split at found
  · split at found
    · obtain ⟨_, isWrite, same⟩ := Option.map_eq_some_iff.mp found
      rw [isWrite, ← same]
      rfl
    · cases found
  · cases found

private theorem write_of_interrupted
    (write : Option Write) (reached : WriteEvent)
    (found : write.map WriteEvent.interrupted = some reached) :
    write = some reached.write := by
  obtain ⟨_, isWrite, same⟩ := Option.map_eq_some_iff.mp found
  rw [isWrite, ← same]
  rfl

private theorem stopped_after
    (files : Shard.Files replicaCount) (elections : List Int)
    (events : List (ShardEvent replicaCount)) :
    Shard.Durable.after ⟨files, elections⟩ events =
      ⟨events.foldl Shard.performOnFiles files,
        (Shard.Durable.after ⟨files, elections⟩ events).elections⟩ := by
  rw [← Shard.Durable.after_files ⟨files, elections⟩ events]

/-- The step of a shard that a step of the cluster amounts to, or none. -/
def Projects
    (state next : ClusterState shardCount replicaCount)
    (label : ClusterLabel) (shard : Fin shardCount)
    (elections : List Int) : Prop :=
  (next.shard shard elections = state.shard shard elections ∧
      historyOf shard label.event.toList = []) ∨
    ∃ shardLabel elections',
      Shard.ShardStep shard (state.shard shard elections) shardLabel
          (next.shard shard elections') ∧
        shardLabel.event.toList = historyOf shard label.event.toList ∧
        (label.Clean → shardLabel.Clean)

private theorem projects_call
    (cluster : Cluster shardCount replicaCount)
    (operation : ClusterOperation) (shard : Fin shardCount)
    (elections : List Int) :
    Projects (.running cluster) (.running (operation.call cluster).state)
      (.call operation (operation.call cluster).result) shard
      elections := by
  have calls := operation.call_apply cluster
  cases routed :
      (operation.target : Option (Fin shardCount × Operation)) with
  | none =>
      rw [routed] at calls
      left
      rw [calls]
      exact ⟨rfl, rfl⟩
  | some target =>
      obtain ⟨target, shardOperation⟩ := target
      rw [routed] at calls
      have events :=
        historyOf_routed routed
          (Shard.acknowledgedWrite (operation.call cluster).result)
          write_of_acknowledged shard
      by_cases own : target = shard
      · subst own
        rw [if_pos rfl] at events
        refine Or.inr ⟨.call shardOperation
            (operation.call cluster).result,
          (Shard.Durable.after ⟨(cluster.shards target).files, elections⟩
            (shardOperation.call (cluster.shards target)).journal).elections,
          ?_, events.symm, fun _ => trivial⟩
        rw [calls]
        change Shard.ShardStep _ _ _
          (.running
            (Function.update cluster.shards target
              (shardOperation.call (cluster.shards target)).state
              target) _)
        rw [Function.update_self]
        exact .call _ _ _
      · rw [if_neg own] at events
        refine Or.inl ⟨?_, events⟩
        rw [calls]
        change Shard.ShardState.running
          (Function.update cluster.shards target _ shard) _ = _
        rw [Function.update_of_ne (Ne.symm own)]
        rfl

private theorem projects_callCrash
    (cluster : Cluster shardCount replicaCount)
    (operation : ClusterOperation) (cut : Nat) (shard : Fin shardCount)
    (elections : List Int) :
    Projects (.running cluster)
      (.stopped (Cluster.filesAfter cluster.files
        ((operation.call cluster).journal.take cut)))
      (.callCrash operation cut) shard elections := by
  have calls := operation.call_apply cluster
  -- A shard whose files stay as they are has stopped between operations.
  have stops
      (noEvents :
        Cluster.eventsOf shard
          ((operation.call cluster).journal.take cut) = [])
      (noWrite :
        historyOf shard
          (operation.write.map WriteEvent.interrupted).toList = []) :
      Projects (.running cluster)
        (.stopped (Cluster.filesAfter cluster.files
          ((operation.call cluster).journal.take cut)))
        (.callCrash operation cut) shard elections := by
    refine Or.inr ⟨.stop, elections, ?_, noWrite.symm, fun _ => trivial⟩
    change Shard.ShardStep _ _ _
      (.stopped ⟨Cluster.filesAfter cluster.files _ shard, _⟩)
    rw [Cluster.filesAfter_shard, noEvents]
    exact .stop _ _
  cases routed :
      (operation.target : Option (Fin shardCount × Operation)) with
  | none =>
      rw [routed] at calls
      refine stops ?_ ?_
      · rw [calls, List.take_nil]
        rfl
      · rw [operation.write_of_noTarget routed]
        rfl
  | some target =>
      obtain ⟨target, shardOperation⟩ := target
      rw [routed] at calls
      have journal :
          (operation.call cluster).journal =
            (shardOperation.call (cluster.shards target)).journal.map
              (Prod.mk target) := by
        rw [calls]
        rfl
      have events :=
        historyOf_routed routed (Option.map WriteEvent.interrupted)
          write_of_interrupted shard
      by_cases own : target = shard
      · subst own
        rw [if_pos rfl] at events
        refine Or.inr ⟨.callCrash shardOperation cut,
          (Shard.Durable.after ⟨(cluster.shards target).files, elections⟩
            ((shardOperation.call
              (cluster.shards target)).journal.take cut)).elections,
          ?_, events.symm, fun clean => clean⟩
        change Shard.ShardStep _ _ _
          (.stopped ⟨Cluster.filesAfter cluster.files _ target, _⟩)
        rw [Cluster.filesAfter_shard, journal, ← List.map_take,
          Cluster.eventsOf_own]
        change Shard.ShardStep _ _ _
          (.stopped ⟨List.foldl _ (cluster.shards target).files _, _⟩)
        rw [← stopped_after]
        exact .callCrash _ _ _ _
      · rw [if_neg own] at events
        refine stops ?_ events
        rw [journal, ← List.map_take, Cluster.eventsOf_other own]

/-- A step of the cluster projects to each of its shards. -/
theorem ClusterStep.project
    {state next : ClusterState shardCount replicaCount}
    {label : ClusterLabel} (step : ClusterStep state label next)
    (returns :
      ∀ files, state = .stopped files →
        ∀ shard : Fin shardCount,
          (Shard.construct shard (files shard)).result = .ok ())
    (shard : Fin shardCount) (elections : List Int) :
    Projects state next label shard elections := by
  cases step with
  | start files =>
      obtain ⟨isOk, each⟩ :=
        Cluster.construct_apply (NeZero.pos shardCount)
          (returns files rfl)
      rw [Cluster.afterStart_of_ok isOk]
      refine Or.inr ⟨.start,
        Shard.restartedElections shard ⟨files shard, elections⟩, ?_, rfl,
        fun _ => trivial⟩
      change Shard.ShardStep _ _ _
        (.running ((Cluster.construct files).state.shards shard) _)
      rw [(each shard).1]
      exact .restart (returns files rfl shard)
  | startCrash files cut =>
      obtain ⟨_, each⟩ :=
        Cluster.construct_apply (NeZero.pos shardCount)
          (returns files rfl)
      obtain ⟨shardCut, events⟩ :=
        Cluster.eventsOf_take shard (Cluster.construct files).journal cut
      rw [(each shard).2] at events
      refine Or.inr ⟨.startCrash shardCut,
        (Shard.Durable.after ⟨files shard, elections⟩
          ((Shard.construct shard (files shard)).journal.take
            shardCut)).elections, ?_, rfl, fun clean => clean⟩
      change Shard.ShardStep _ _ _
        (.stopped ⟨Cluster.filesAfter files _ shard, _⟩)
      rw [Cluster.filesAfter_shard, events, ← stopped_after]
      exact .startCrash _ shardCut
  | call cluster operation =>
      exact projects_call cluster operation shard elections
  | callCrash cluster operation cut =>
      exact projects_callCrash cluster operation cut shard elections
  | stop cluster =>
      exact Or.inr ⟨.stop, elections, .stop _ _, rfl, fun _ => trivial⟩

theorem ClusterLabel.history_concat
    (labels : List ClusterLabel) (label : ClusterLabel) :
    history (labels ++ [label]) = history labels ++ label.event.toList :=
  filterMap_concat event labels label

/-- The run of a shard inside a run of the cluster. -/
structure ShardView
    (labels : List ClusterLabel)
    (state : ClusterState shardCount replicaCount)
    (shard : Fin shardCount) (shardLabels : List Shard.ShardLabel)
    (elections : List Int) : Prop where
  run : Shard.ShardRun shard shardLabels (state.shard shard elections)
  history :
    Shard.writeHistory shardLabels =
      historyOf shard (ClusterLabel.history labels)
  clean :
    (∀ label ∈ labels, label.Clean) → ∀ label ∈ shardLabels, label.Clean

/-- The constructor of every shard returns on the files a run leaves. -/
theorem ShardView.construct_returns
    {labels : List ClusterLabel} {shard : Fin shardCount}
    {files : Cluster.ClusterFiles shardCount replicaCount}
    {shardLabels : List Shard.ShardLabel} {elections : List Int}
    (positive : 0 < replicaCount)
    (view : ShardView labels (.stopped files) shard shardLabels elections) :
    (Shard.construct shard (files shard)).result = .ok () := by
  obtain ⟨_, _, agrees⟩ := Shard.ShardRun.agrees positive view.run
  obtain ⟨_, _, _, runs, _⟩ :=
    Shard.DurableAgree.construct_spec agrees positive shard
  rw [runs]

theorem ShardView.extend
    {labels : List ClusterLabel} {label : ClusterLabel}
    {state next : ClusterState shardCount replicaCount}
    {shard : Fin shardCount} {shardLabels : List Shard.ShardLabel}
    {elections : List Int}
    (view : ShardView labels state shard shardLabels elections)
    (projects : Projects state next label shard elections) :
    ∃ shardLabels' elections',
      ShardView (labels ++ [label]) next shard shardLabels'
        elections' := by
  rcases projects with
    ⟨same, noEvent⟩ | ⟨shardLabel, elections', step, event, isClean⟩
  · refine ⟨shardLabels, elections, ?_, ?_, ?_⟩
    · rw [same]
      exact view.run
    · rw [ClusterLabel.history_concat, historyOf_append, noEvent,
        List.append_nil]
      exact view.history
    · exact fun clean => view.clean (forall_mem_concat_iff.mp clean).1
  · refine ⟨shardLabels ++ [shardLabel], elections', ?_, ?_, ?_⟩
    · exact view.run.extend step
    · rw [ClusterLabel.history_concat, historyOf_append, ← event,
        ← view.history, Shard.writeHistory_concat]
    · intro clean
      obtain ⟨earlier, last⟩ := forall_mem_concat_iff.mp clean
      exact forall_mem_concat_iff.mpr ⟨view.clean earlier, isClean last⟩

/-- Every run of the cluster contains a run of each shard. -/
theorem ClusterRun.shardView
    {labels : List ClusterLabel}
    {state : ClusterState shardCount replicaCount}
    (positive : 0 < replicaCount) (run : ClusterRun labels state)
    (shard : Fin shardCount) :
    ∃ shardLabels elections,
      ShardView labels state shard shardLabels elections := by
  induction run generalizing shard with
  | initial started =>
      refine ⟨[], [], ?_, rfl, fun _ _ member => ?_⟩
      · rw [started]
        exact .initial rfl
      · exact absurd member List.not_mem_nil
  | extend _ step inductionHypothesis =>
      obtain ⟨shardLabels, elections, view⟩ := inductionHypothesis shard
      refine view.extend (step.project ?_ shard elections)
      rintro files rfl other
      obtain ⟨_, _, otherView⟩ := inductionHypothesis other
      exact otherView.construct_returns positive

/-! ## Restarts -/

/-- The constructor returns on whatever files a run leaves. -/
theorem ClusterRun.restart
    {labels : List ClusterLabel}
    {files : Cluster.ClusterFiles shardCount replicaCount}
    (positive : 0 < replicaCount)
    (run : ClusterRun labels (.stopped files)) :
    ClusterRun (labels ++ [.start])
      (.running (Cluster.construct files).state) := by
  have returns (shard : Fin shardCount) :
      (Shard.construct shard (files shard)).result = .ok () := by
    obtain ⟨_, _, view⟩ := run.shardView positive shard
    exact view.construct_returns positive
  obtain ⟨isOk, _⟩ :=
    Cluster.construct_apply (NeZero.pos shardCount) returns
  rw [← Cluster.afterStart_of_ok isOk]
  exact run.extend (.start files)

/-- A cluster after its first start. -/
def Cluster.begun (shardCount replicaCount : Nat) :
    Cluster shardCount replicaCount :=
  (Cluster.construct fun _ _ => SqliteStore.empty).state

theorem clusterRun_begun (positive : 0 < replicaCount) :
    ClusterRun [.start]
      (.running (Cluster.begun shardCount replicaCount)) := by
  have nothing :
      ClusterRun []
        (ClusterState.empty : ClusterState shardCount replicaCount) :=
    .initial rfl
  exact ClusterRun.restart positive nothing

end Projection

end ShardedKvStore

import ShardedKvStore.Cluster.Runs
import ShardedKvStore.Shard.Availability

/-!
# The cluster refines one map

To its callers a cluster that never crashes is a single map from keys to values:
writes take effect at once or are refused, and reads return what the map holds.
Elections, failures, recoveries and restarts leave the map as it is; they only
decide which requests are refused.
-/

namespace ShardedKvStore

open Foundation
open SqliteStore

/-! ## The map -/

/-- The steps of the map.  `serves` holds of the keys whose shard has a majority
online when the step is taken. -/
inductive MapStep
    (serves : Bytes → Prop) (map : Bytes → Option Bytes) :
    ClusterLabel → (Bytes → Option Bytes) → Prop
  | start : MapStep serves map .start map
  | stop : MapStep serves map .stop map
  | stored {key value : Bytes} {result : OperationResult} :
      serves key → result.ok = true → result.status = 201 →
      MapStep serves map (.call (.put key value) (.ok (.result result)))
        (Function.update map key (some value))
  | notStored {key value : Bytes} {result : OperationResult} :
      ¬ serves key → result.ok = false → result.status = 503 →
      MapStep serves map (.call (.put key value) (.ok (.result result))) map
  | erased {key : Bytes} {result : OperationResult} :
      serves key → result.ok = true → result.status = 200 →
      MapStep serves map (.call (.erase key) (.ok (.result result)))
        (Function.update map key none)
  | notErased {key : Bytes} {result : OperationResult} :
      ¬ serves key → result.ok = false → result.status = 503 →
      MapStep serves map (.call (.erase key) (.ok (.result result))) map
  | found {key : Bytes} {result : OperationResult} :
      map key = some result.value →
      result.ok = true → result.status = 200 →
      MapStep serves map (.call (.get key) (.ok (.result result))) map
  | missing {key : Bytes} {result : OperationResult} :
      map key = none → result.ok = false → result.status = 404 →
      MapStep serves map (.call (.get key) (.ok (.result result))) map
  | notRead {key : Bytes} {result : OperationResult} :
      ¬ serves key → result.ok = false → result.status = 503 →
      MapStep serves map (.call (.get key) (.ok (.result result))) map
  | failReplica {shardId : Nat} {replica : Bytes} {flag : Bool} :
      MapStep serves map
        (.call (.failReplica shardId replica) (.ok (.flag flag))) map
  | recoverReplica {shardId : Nat} {replica : Bytes} {flag : Bool} :
      MapStep serves map
        (.call (.recoverReplica shardId replica) (.ok (.flag flag))) map
  | elect {shardId : Nat} {flag : Bool} :
      MapStep serves map (.call (.elect shardId) (.ok (.flag flag))) map

/-- What a write event assigns. -/
def WriteEvent.assignment (event : WriteEvent) : Assignment Bytes Bytes :=
  (event.write.key, event.write.effect)

/-- The map after a run. -/
def mapAfter (labels : List ClusterLabel) : Bytes → Option Bytes :=
  replay ((ClusterLabel.history labels).map WriteEvent.assignment)

theorem mapAfter_concat (labels : List ClusterLabel) (label : ClusterLabel) :
    mapAfter (labels ++ [label]) =
      replayOnto (mapAfter labels)
        (label.event.toList.map WriteEvent.assignment) := by
  unfold mapAfter
  rw [ClusterLabel.history_concat, List.map_append, replay_append]

/-! ## Answers of a shard -/

namespace Shard

variable {count : Nat} {shardId : Nat} {agreed : List LogEntry} {bound : Int}
  {shard : Shard count} {elections : List Int}

/-- A majority of the replicas is online. -/
def HasQuorum (shard : Shard count) : Prop :=
  majority count ≤ tally fun position => (shard.replicas position).online

/-- Without crashes no tail is in the way of a write. -/
theorem CleanState.accepts_iff
    (clean : CleanState shardId agreed bound (.running shard elections)) :
    shard.Accepts ↔ shard.HasQuorum :=
  ⟨fun accepts => accepts.1, clean.accepts_of_quorum⟩

/-- A read returns what the agreed log leaves in the key. -/
theorem CleanState.kv_of_leading
    (clean : CleanState shardId agreed bound (.running shard elections))
    (available : shard.Available) {leader : Fin count}
    (isLeading : shard.leading = some leader) :
    (shard.replicas leader).store.kv = replayLog agreed := by
  have complete :=
    clean.1.1.leading_complete clean.1.2.1 available isLeading
  change (shard.replicas leader).store.committed = agreed at complete
  rw [clean.kv_eq leader, complete]

/-- The agreed log assigns what its history does. -/
theorem assignments_of_loggedAs
    {history : List WriteEvent}
    (logged : List.Forall₂ WriteEvent.LoggedAs history agreed)
    (nulFree : ∀ event ∈ history, NulFree event.write.key) :
    agreed.map LogEntry.assignment =
      history.map WriteEvent.assignment := by
  induction logged with
  | nil =>
      rfl
  | cons isLogged _ inductionHypothesis =>
      obtain ⟨write, isWrite, recorded⟩ := isLogged
      have firstNulFree := nulFree _ List.mem_cons_self
      rw [isWrite] at firstNulFree
      have sameKey : cString write.key = write.key :=
        cString_of_nulFree firstNulFree
      rw [List.map_cons, List.map_cons, recorded.assignment_eq, sameKey,
        isWrite, inductionHypothesis fun event member =>
          nulFree event (List.mem_cons_of_mem _ member)]
      rfl

end Shard

/-! ## Refinement -/

section Refinement

variable {shardCount replicaCount : Nat} [NeZero shardCount]

/-- The keys of an operation have no NUL bytes. -/
def ClusterOperation.PlainKey : ClusterOperation → Prop
  | .put key _ => NulFree key
  | .erase key => NulFree key
  | .get key => NulFree key
  | _ => True

/-- A step without a crash, on a key without NUL bytes. -/
def ClusterLabel.Admissible : ClusterLabel → Prop
  | .call operation _ => operation.PlainKey
  | .start => True
  | .stop => True
  | _ => False

theorem ClusterLabel.Admissible.clean
    {label : ClusterLabel} (admissible : label.Admissible) :
    label.Clean := by
  cases label with
  | startCrash cut =>
      exact admissible
  | callCrash operation cut =>
      exact admissible
  | start =>
      trivial
  | stop =>
      trivial
  | call operation answer =>
      trivial

/-- The shard of the key has a majority online. -/
def ClusterState.Serves
    (state : ClusterState shardCount replicaCount) (key : Bytes) : Prop :=
  match state with
  | .stopped _ => False
  | .running cluster => (cluster.shards (Cluster.shardForKey key)).HasQuorum

/-- The cluster and the map take a step together; a start leaves every replica
online. -/
structure RefinedStep
    (before : ClusterState shardCount replicaCount ×
      (Bytes → Option Bytes))
    (label : ClusterLabel)
    (after : ClusterState shardCount replicaCount ×
      (Bytes → Option Bytes)) : Prop where
  cluster : ClusterStep before.1 label after.1
  map : MapStep before.1.Serves before.2 label after.2
  online :
    label = .start →
      ∃ started : Cluster shardCount replicaCount,
        after.1 = .running started ∧
          ∀ shard position,
            ((started.shards shard).replicas position).online = true

theorem ClusterLabel.write_nulFree
    {label : ClusterLabel} (admissible : label.Admissible)
    {event : WriteEvent} (isEvent : label.event = some event) :
    NulFree event.write.key := by
  cases label with
  | start =>
      cases isEvent
  | startCrash cut =>
      cases isEvent
  | stop =>
      cases isEvent
  | callCrash operation cut =>
      exact admissible.elim
  | call operation answer =>
      have isWrite := write_of_acknowledged _ _ isEvent
      cases operation with
      | put key value =>
          rw [← Option.some.inj isWrite]
          exact admissible
      | erase key =>
          rw [← Option.some.inj isWrite]
          exact admissible
      | get key =>
          cases isWrite
      | failReplica shardId replica =>
          cases isWrite
      | recoverReplica shardId replica =>
          cases isWrite
      | elect shardId =>
          cases isWrite

/-- In a run without crashes the agreed log of a shard and the map have the same
entries for the keys of the shard. -/
theorem ClusterRun.agreedMap
    {labels : List ClusterLabel}
    {state : ClusterState shardCount replicaCount}
    (positive : 0 < replicaCount) (run : ClusterRun labels state)
    (admissible : ∀ label ∈ labels, label.Admissible)
    (shard : Fin shardCount) :
    ∃ agreed bound elections,
      Shard.CleanState shard agreed bound (state.shard shard elections) ∧
        ∀ key, Cluster.shardForKey key = shard →
          replayLog agreed key = mapAfter labels key := by
  obtain ⟨shardLabels, elections, view⟩ := run.shardView positive shard
  have cleanRun : Shard.CleanRun shard shardLabels (state.shard shard elections) :=
    ⟨view.run, view.clean fun label member =>
      (admissible label member).clean⟩
  obtain ⟨agreed, bound, clean, logged⟩ :=
    cleanRun.log_eq_history positive
  refine ⟨agreed, bound, elections, clean, fun key inShard => ?_⟩
  have nulFree :
      ∀ event ∈ ClusterLabel.history labels, NulFree event.write.key := by
    intro event member
    obtain ⟨label, inLabels, isEvent⟩ := List.mem_filterMap.mp member
    exact ClusterLabel.write_nulFree (admissible label inLabels) isEvent
  rw [view.history] at logged
  have assignments :=
    Shard.assignments_of_loggedAs logged fun event member =>
      nulFree event (List.mem_of_mem_filter member)
  have filtered :
      (historyOf shard (ClusterLabel.history labels)).map
          WriteEvent.assignment =
        ((ClusterLabel.history labels).map WriteEvent.assignment).filter
          fun assignment => Cluster.shardForKey assignment.1 = shard := by
    rw [List.filter_map]
    rfl
  change replay (agreed.map LogEntry.assignment) key = _
  rw [assignments, filtered]
  refine replayOnto_filter (fun assignment _ isKey => ?_) _
  rw [isKey]
  exact decide_eq_true inShard

/-- What a shard answers to an operation routed to it. -/
theorem ClusterRun.answers
    {labels : List ClusterLabel}
    {cluster : Cluster shardCount replicaCount}
    (positive : 0 < replicaCount)
    (run : ClusterRun labels (.running cluster))
    (admissible : ∀ label ∈ labels, label.Admissible)
    {operation : ClusterOperation} {shard : Fin shardCount}
    {shardOperation : Operation}
    (routed : operation.target = some (shard, shardOperation)) :
    ∃ agreed bound elections response agreed',
      Shard.CleanState shard agreed bound
          (.running (cluster.shards shard) elections) ∧
        (∀ key, Cluster.shardForKey key = shard →
          replayLog agreed key = mapAfter labels key) ∧
        (operation.call cluster).result = .ok response ∧
        Shard.Answers (cluster.shards shard) agreed shardOperation response
          agreed' := by
  obtain ⟨agreed, bound, elections, clean, sameMap⟩ :=
    run.agreedMap positive admissible shard
  obtain ⟨response, _, agreed', _, _, _, returns, _, answers⟩ :=
    clean.1.1.call_spec clean.1.2.1 shardOperation
  refine ⟨agreed, bound, elections, response, agreed', clean, sameMap, ?_,
    answers⟩
  have calls := operation.call_apply cluster
  rw [routed] at calls
  rw [calls]
  change (shardOperation.call (cluster.shards shard)).result = _
  rw [returns]

private theorem mapStep_unrouted
    {operation : ClusterOperation}
    (nowhere :
      (operation.target : Option (Fin shardCount × Operation)) = none)
    (serves : Bytes → Prop) (map : Bytes → Option Bytes) :
    MapStep serves map (.call operation (.ok (.flag false))) map := by
  cases operation with
  | put key value =>
      cases nowhere
  | erase key =>
      cases nowhere
  | get key =>
      cases nowhere
  | failReplica shardId replica =>
      exact .failReplica
  | recoverReplica shardId replica =>
      exact .recoverReplica
  | elect shardId =>
      exact .elect

/-- An operation is a step of the map. -/
theorem ClusterRun.mapStep_call
    {labels : List ClusterLabel}
    {cluster : Cluster shardCount replicaCount}
    (positive : 0 < replicaCount)
    (run : ClusterRun labels (.running cluster))
    (admissible : ∀ label ∈ labels, label.Admissible)
    {operation : ClusterOperation} (plainKey : operation.PlainKey) :
    MapStep (ClusterState.running cluster).Serves (mapAfter labels)
      (.call operation (operation.call cluster).result)
      (mapAfter
        (labels ++ [.call operation (operation.call cluster).result])) := by
  rw [mapAfter_concat]
  cases routed :
      (operation.target : Option (Fin shardCount × Operation)) with
  | none =>
      have calls := operation.call_apply cluster
      rw [routed] at calls
      rw [calls]
      exact mapStep_unrouted routed _ _
  | some target =>
      obtain ⟨shard, shardOperation⟩ := target
      obtain ⟨agreed, bound, elections, response, agreed', clean, sameMap,
        returns, answers⟩ := run.answers positive admissible routed
      rw [returns]
      cases operation with
      | put key value =>
          cases routed
          cases answers with
          | put answer =>
              cases answer with
              | stored accepts _ _ isOk status =>
                  have update :
                      ClusterLabel.event
                          (.call (.put key value) (.ok (.result _))) =
                        some (.acknowledged ⟨putCommand, key, value⟩) :=
                    if_pos isOk
                  rw [update]
                  exact .stored (clean.accepts_iff.mp accepts) isOk status
              | rejected refuses failed status =>
                  have nothing :
                      ClusterLabel.event
                          (.call (.put key value) (.ok (.result _))) =
                        none :=
                    if_neg (by rw [failed]; exact Bool.false_ne_true)
                  rw [nothing]
                  exact .notStored
                    (fun serves => refuses (clean.accepts_iff.mpr serves))
                    failed status
      | erase key =>
          cases routed
          cases answers with
          | erase answer =>
              cases answer with
              | stored accepts _ _ isOk status =>
                  have update :
                      ClusterLabel.event
                          (.call (.erase key) (.ok (.result _))) =
                        some (.acknowledged ⟨deleteCommand, key, []⟩) :=
                    if_pos isOk
                  rw [update]
                  exact .erased (clean.accepts_iff.mp accepts) isOk status
              | rejected refuses failed status =>
                  have nothing :
                      ClusterLabel.event
                          (.call (.erase key) (.ok (.result _))) =
                        none :=
                    if_neg (by rw [failed]; exact Bool.false_ne_true)
                  rw [nothing]
                  exact .notErased
                    (fun serves => refuses (clean.accepts_iff.mpr serves))
                    failed status
      | get key =>
          cases routed
          have sameKey : cString key = key := cString_of_nulFree plainKey
          cases answers with
          | get answer =>
              have nothing (result : OperationResult) :
                  ClusterLabel.event
                      (.call (.get key) (.ok (.result result))) =
                    none :=
                ite_self none
              rw [nothing]
              cases answer with
              | unavailable notAvailable failed status =>
                  exact .notRead
                    (fun serves => notAvailable (Or.inr serves))
                    failed status
              | missing available isLeading absent failed status =>
                  rw [sameKey, clean.kv_of_leading available isLeading,
                    sameMap key rfl] at absent
                  exact .missing absent failed status
              | found available isLeading present isOk status isValue =>
                  rw [sameKey, clean.kv_of_leading available isLeading,
                    sameMap key rfl, ← isValue] at present
                  exact .found present isOk status
      | failReplica shardId replica =>
          obtain ⟨_, _, same⟩ := Option.map_eq_some_iff.mp routed
          cases same
          cases answers
          exact .failReplica
      | recoverReplica shardId replica =>
          obtain ⟨_, _, same⟩ := Option.map_eq_some_iff.mp routed
          cases same
          cases answers
          exact .recoverReplica
      | elect shardId =>
          obtain ⟨_, _, same⟩ := Option.map_eq_some_iff.mp routed
          cases same
          cases answers
          exact .elect

/-- A start of the cluster leaves every replica online. -/
theorem ClusterRun.online_started
    {labels : List ClusterLabel}
    {files : Cluster.ClusterFiles shardCount replicaCount}
    (positive : 0 < replicaCount)
    (run : ClusterRun labels (.stopped files)) :
    Cluster.afterStart files =
        .running (Cluster.construct files).state ∧
      ∀ shard position,
        (((Cluster.construct files).state.shards shard).replicas
          position).online = true := by
  have starts (shard : Fin shardCount) :
      (Shard.construct shard (files shard)).result = .ok () ∧
        ∀ position,
          ((Shard.construct shard (files shard)).state.replicas
            position).online = true := by
    obtain ⟨_, _, view⟩ := run.shardView positive shard
    obtain ⟨_, _, agrees⟩ := Shard.ShardRun.agrees positive view.run
    obtain ⟨_, _, _, runs, _, started⟩ :=
      Shard.DurableAgree.construct_spec agrees positive shard
    rw [runs]
    exact ⟨rfl, started.online⟩
  obtain ⟨isOk, each⟩ :=
    Cluster.construct_apply (NeZero.pos shardCount)
      fun shard => (starts shard).1
  refine ⟨Cluster.afterStart_of_ok isOk, fun shard => ?_⟩
  rw [(each shard).1]
  exact (starts shard).2

/-- A run of the cluster without crashes is a run of the map. -/
theorem Cluster.refines_one_map
    {labels : List ClusterLabel}
    {state : ClusterState shardCount replicaCount}
    (positive : 0 < replicaCount) (run : ClusterRun labels state)
    (admissible : ∀ label ∈ labels, label.Admissible) :
    ∃ map,
      Run (fun pair => pair = (ClusterState.empty, fun _ => none))
        RefinedStep labels (state, map) := by
  refine ⟨mapAfter labels, ?_⟩
  induction run with
  | initial started =>
      rw [started]
      exact .initial rfl
  | @extend labels state next label run step inductionHypothesis =>
      obtain ⟨earlier, last⟩ := forall_mem_concat_iff.mp admissible
      refine .extend (inductionHypothesis earlier) ?_
      cases step with
      | start files =>
          obtain ⟨isRunning, online⟩ := ClusterRun.online_started positive run
          refine ⟨.start files, ?_, fun _ => ⟨_, isRunning, online⟩⟩
          rw [mapAfter_concat]
          exact .start
      | startCrash files cut =>
          exact last.elim
      | call cluster operation =>
          exact ⟨.call cluster operation,
            ClusterRun.mapStep_call positive run earlier last,
            fun isStart => by cases isStart⟩
      | callCrash cluster operation cut =>
          exact last.elim
      | stop cluster =>
          refine ⟨.stop cluster, ?_, fun isStart => by cases isStart⟩
          rw [mapAfter_concat]
          exact .stop

/-- A put, a restart and a read, on the cluster and on the map. -/
theorem Cluster.put_refines_one_map :
    ∃ labels,
      ∃ cluster : Cluster 2 3,
        ∃ map,
          ClusterLabel.history labels =
              [.acknowledged ⟨putCommand, bytes "k", bytes "v"⟩] ∧
            Run (fun pair => pair = (ClusterState.empty, fun _ => none))
              RefinedStep labels (.running cluster, map) := by
  have positive : 0 < 3 := by decide
  have started : ClusterRun [.start] (.running (begun 2 3)) :=
    clusterRun_begun positive
  have written := started.extend (.call _ (.put (bytes "k") (bytes "v")))
  have restarted := ClusterRun.restart positive (written.extend (.stop _))
  have run := restarted.extend (.call _ (.get (bytes "k")))
  have plainKey : NulFree (bytes "k") := by decide
  have startAdmissible :
      ∀ label ∈ [ClusterLabel.start], label.Admissible :=
    List.forall_mem_singleton.mpr trivial
  obtain ⟨map, refined⟩ :=
    refines_one_map positive run
      (by
        simp only [forall_mem_concat_iff]
        exact ⟨⟨⟨⟨startAdmissible, plainKey⟩, trivial⟩, trivial⟩, plainKey⟩)
  exact ⟨_, _, map, by decide +kernel, refined⟩

end Refinement

end ShardedKvStore

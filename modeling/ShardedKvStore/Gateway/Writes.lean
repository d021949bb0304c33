import ShardedKvStore.Cluster.Refinement
import ShardedKvStore.Gateway.Runs

/-!
# Retried writes

An attempt that fails leaves nothing behind that a later commit could take
along, so a write that is attempted several times is committed once, by the
attempt that succeeds, or not at all.  The committed log of a shard is the
sequence of the successful attempts on its keys.
-/

namespace ShardedKvStore

open Foundation
open SqliteStore

/-! ## Successful attempts -/

/-- A successful attempt to write, and the position of its thread. -/
def GatewayLabel.success : GatewayLabel → Option (Nat × Write)
  | .attempt index sent (.ok result) =>
      if result.ok = true then sent.write.map (Prod.mk index) else none
  | _ => none

/-- The successful attempts of a run, in order. -/
def successes (labels : List GatewayLabel) : List (Nat × Write) :=
  labels.filterMap GatewayLabel.success

theorem successes_concat
    (labels : List GatewayLabel) (label : GatewayLabel) :
    successes (labels ++ [label]) =
      successes labels ++ label.success.toList :=
  filterMap_concat GatewayLabel.success labels label

/-- The thread at the position has had a successful attempt. -/
def HasSucceeded (labels : List GatewayLabel) (index : Nat) : Prop :=
  index ∈ (successes labels).map Prod.fst

theorem hasSucceeded_concat
    (labels : List GatewayLabel) (label : GatewayLabel) (index : Nat) :
    HasSucceeded (labels ++ [label]) index ↔
      HasSucceeded labels index ∨
        ∃ write, label.success = some (index, write) := by
  unfold HasSucceeded
  rw [successes_concat, List.map_append, List.mem_append]
  cases found : label.success with
  | none =>
      simp
  | some reached =>
      obtain ⟨position, write⟩ := reached
      simp [eq_comm]

/-! ## Accounts -/

/-- The status of a success. -/
def Succeeds (status : Nat) : Prop :=
  200 ≤ status ∧ status < 300

instance (status : Nat) : Decidable (Succeeds status) :=
  inferInstanceAs (Decidable (_ ∧ _))

/-- The status tells whether the write has succeeded. -/
def StatusTells (succeeded : Prop) (status : Nat) : Prop :=
  (succeeded ∧ Succeeds status) ∨ (¬ succeeded ∧ status = 503)

/-- How far a thread that writes has come tells whether it has succeeded. -/
def Progress.Tells (succeeded : Prop) : Progress → Prop
  | .attempting _ => ¬ succeeded
  | .called _ result => StatusTells succeeded result.status
  | .answered response => StatusTells succeeded response.status
  | .threw _ => False

/-- The threads and the successful attempts account for each other. -/
structure Accounted
    (labels : List GatewayLabel)
    (threads : List RequestThread) : Prop where
  once : ((successes labels).map Prod.fst).Nodup
  requested :
    ∀ success ∈ successes labels,
      ∃ thread : RequestThread,
        threads[success.1]? = some thread ∧
          thread.request.write = some success.2
  told :
    ∀ (index : Nat) (thread : RequestThread),
      threads[index]? = some thread → thread.request.write ≠ none →
        thread.progress.Tells (HasSucceeded labels index)

namespace Accounted

variable {labels : List GatewayLabel} {label : GatewayLabel}
  {threads : List RequestThread}

theorem no_success_beyond
    (accounted : Accounted labels threads) :
    ¬ HasSucceeded labels threads.length := by
  intro succeeded
  obtain ⟨success, member, isLength⟩ := List.mem_map.mp succeeded
  obtain ⟨thread, found, _⟩ := accounted.requested success member
  obtain ⟨inside, _⟩ := List.getElem?_eq_some_iff.mp found
  exact absurd inside (by rw [isLength]; exact lt_irrefl _)

private theorem hasSucceeded_of_none
    (noSuccess : label.success = none) (index : Nat) :
    HasSucceeded (labels ++ [label]) index ↔ HasSucceeded labels index := by
  rw [hasSucceeded_concat, noSuccess]
  simp

private theorem successes_of_none (noSuccess : label.success = none) :
    successes (labels ++ [label]) = successes labels := by
  rw [successes_concat, noSuccess, Option.toList_none, List.append_nil]

/-- A step that leaves the threads alone. -/
theorem unchanged
    (accounted : Accounted labels threads)
    (noSuccess : label.success = none) :
    Accounted (labels ++ [label]) threads := by
  refine ⟨?_, ?_, fun index thread found isWrite => ?_⟩
  · rw [successes_of_none noSuccess]
    exact accounted.once
  · rw [successes_of_none noSuccess]
    exact accounted.requested
  · rw [hasSucceeded_of_none noSuccess]
    exact accounted.told index thread found isWrite

/-- A thread is added. -/
theorem spawn
    (accounted : Accounted labels threads)
    (noSuccess : label.success = none) {added : RequestThread}
    (tells : added.progress.Tells False) :
    Accounted (labels ++ [label]) (threads ++ [added]) := by
  refine ⟨?_, ?_, fun index thread found isWrite => ?_⟩
  · rw [successes_of_none noSuccess]
    exact accounted.once
  · rw [successes_of_none noSuccess]
    intro success member
    obtain ⟨thread, found, isWrite⟩ := accounted.requested success member
    obtain ⟨inside, _⟩ := List.getElem?_eq_some_iff.mp found
    exact ⟨thread, by rw [List.getElem?_append_left inside]; exact found,
      isWrite⟩
  · rw [hasSucceeded_of_none noSuccess]
    rcases lt_trichotomy index threads.length with inside | last | outside
    · rw [List.getElem?_append_left inside] at found
      exact accounted.told index thread found isWrite
    · subst last
      rw [List.getElem?_concat_length] at found
      obtain rfl := Option.some.inj found
      rwa [eq_false accounted.no_success_beyond]
    · rw [List.getElem?_eq_none (by simpa using outside)] at found
      cases found

/-- A thread takes a step, which may be its successful attempt. -/
theorem advance
    (accounted : Accounted labels threads) {position : Nat}
    {request : KvRequest} {progress progress' : Progress}
    (current : threads[position]? = some ⟨request, progress⟩)
    (success :
      label.success = none ∨
        ∃ write,
          label.success = some (position, write) ∧
            request.write = some write ∧ ¬ HasSucceeded labels position)
    (tells :
      request.write ≠ none →
        progress'.Tells (HasSucceeded (labels ++ [label]) position)) :
    Accounted (labels ++ [label])
      (threads.set position ⟨request, progress'⟩) := by
  obtain ⟨inside, _⟩ := List.getElem?_eq_some_iff.mp current
  have own := List.getElem?_set_self (a := (⟨request, progress'⟩ : RequestThread)) inside
  refine ⟨?_, ?_, fun index thread found isWrite => ?_⟩
  · rcases success with none | ⟨write, some, _, first⟩
    · rw [successes_of_none none]
      exact accounted.once
    · rw [successes_concat, some, List.map_append]
      refine List.nodup_append.mpr ⟨accounted.once, by simp, ?_⟩
      intro index member other isOther same
      have isPosition : other = position := by simpa using isOther
      rw [isPosition] at same
      exact first (same ▸ member)
  · intro reached member
    rw [successes_concat] at member
    rcases List.mem_append.mp member with earlier | last
    · obtain ⟨thread, found, isWrite⟩ := accounted.requested reached earlier
      by_cases same : position = reached.1
      · rw [← same, current] at found
        rw [← same]
        exact ⟨_, own, by rw [← Option.some.inj found] at isWrite; exact isWrite⟩
      · exact ⟨thread, by rw [List.getElem?_set_ne same]; exact found,
          isWrite⟩
    · rcases success with none | ⟨write, some, isWrite, _⟩
      · rw [none] at last
        cases last
      · rw [some, Option.toList_some, List.mem_singleton] at last
        rw [last]
        exact ⟨_, own, isWrite⟩
  · by_cases same : position = index
    · subst same
      rw [own] at found
      obtain rfl := Option.some.inj found
      exact tells isWrite
    · rw [List.getElem?_set_ne same] at found
      have told := accounted.told index thread found isWrite
      have sameSuccess :
          HasSucceeded (labels ++ [label]) index ↔
            HasSucceeded labels index := by
        rw [hasSucceeded_concat]
        refine or_iff_left ?_
        rintro ⟨write, isSuccess⟩
        rcases success with none | ⟨_, some, _, _⟩
        · rw [none] at isSuccess
          cases isSuccess
        · rw [some] at isSuccess
          cases isSuccess
          exact same rfl
      rwa [sameSuccess]

end Accounted

section Steps

variable {shardCount replicaCount : Nat} [NeZero shardCount]

/-- A result of a write is a success or says that the shard is unavailable. -/
def OperationResult.OfWrite (result : OperationResult) : Prop :=
  (result.ok = true ∧ Succeeds result.status) ∨
    (result.ok = false ∧ result.status = 503)

private theorem ofWrite_of_answer
    {count : Nat} {shard : Shard count} {command key value : Bytes}
    {agreed agreed' : List LogEntry} {result : OperationResult}
    (answer :
      Shard.WriteAnswer command key value shard agreed result agreed') :
    result.OfWrite := by
  cases answer with
  | stored _ _ _ isOk status =>
      refine Or.inl ⟨isOk, ?_⟩
      rw [status]
      split
      · decide
      · decide
  | rejected _ failed status =>
      exact Or.inr ⟨failed, status⟩

/-- Writes return, in every run of the cluster. -/
theorem ClusterRun.ofWrite
    {labels : List ClusterLabel}
    {cluster : Cluster shardCount replicaCount}
    (positive : 0 < replicaCount)
    (run : ClusterRun labels (.running cluster))
    {operation : ClusterOperation} (isWrite : operation.write ≠ none) :
    ∃ result,
      (operation.call cluster).result = .ok (.result result) ∧
        result.OfWrite := by
  have returns {shard : Fin shardCount} {shardOperation : Operation}
      (routed : operation.target = some (shard, shardOperation)) :
      ∃ agreed agreed' response,
        (operation.call cluster).result = .ok response ∧
          Shard.Answers (cluster.shards shard) agreed shardOperation response
            agreed' := by
    obtain ⟨_, _, view⟩ := run.shardView positive shard
    obtain ⟨agreed, _, agrees⟩ := Shard.ShardRun.agrees positive view.run
    obtain ⟨response, _, agreed', _, _, _, runs, _, answers⟩ :=
      agrees.1.call_spec agrees.2.1 shardOperation
    have calls := operation.call_apply cluster
    rw [routed] at calls
    refine ⟨agreed, agreed', response, ?_, answers⟩
    rw [calls]
    change (shardOperation.call (cluster.shards shard)).result = _
    rw [runs]
  cases operation with
  | put key value =>
      obtain ⟨_, _, _, returned, answers⟩ := returns rfl
      cases answers with
      | put answer =>
          exact ⟨_, returned, ofWrite_of_answer answer⟩
  | erase key =>
      obtain ⟨_, _, _, returned, answers⟩ := returns rfl
      cases answers with
      | erase answer =>
          exact ⟨_, returned, ofWrite_of_answer answer⟩
  | get key =>
      exact absurd rfl isWrite
  | failReplica shardId replica =>
      exact absurd rfl isWrite
  | recoverReplica shardId replica =>
      exact absurd rfl isWrite
  | elect shardId =>
      exact absurd rfl isWrite

/-- An attempt to write returns. -/
theorem KvRequest.call_ofWrite
    {labels : List ClusterLabel}
    {cluster : Cluster shardCount replicaCount}
    (positive : 0 < replicaCount)
    (run : ClusterRun labels (.running cluster))
    {request : KvRequest} (isWrite : request.write ≠ none) :
    ∃ result,
      (request.call cluster).result = .ok result ∧ result.OfWrite := by
  obtain ⟨result, returned, ofWrite⟩ := run.ofWrite positive isWrite
  rw [request.clusterOperation_apply] at returned
  cases answer : (request.call cluster).result with
  | error failure =>
      rw [answer] at returned
      cases returned
  | ok value =>
      rw [answer] at returned
      cases returned
      exact ⟨result, rfl, ofWrite⟩

private theorem accounted_attempt
    {labels : List GatewayLabel} {clusterRun : List ClusterLabel}
    {state : GatewayState shardCount replicaCount} {index : Nat}
    {request : KvRequest} {attempt : UInt64}
    (positive : 0 < replicaCount)
    (run : ClusterRun clusterRun (.running state.gateway.cluster))
    (accounted : Accounted labels state.threads)
    (current :
      state.threads[index]? = some ⟨request, .attempting attempt⟩) :
    Accounted
      (labels ++
        [.attempt index request (request.call state.gateway.cluster).result])
      (state.threads.set index
        ⟨request, (state.gateway.attempt request attempt).1⟩) := by
  by_cases isWrite : request.write = none
  · refine accounted.advance current (Or.inl ?_) (absurd isWrite)
    unfold GatewayLabel.success
    cases (request.call state.gateway.cluster).result with
    | error failure =>
        rfl
    | ok result =>
        simp [isWrite]
  · obtain ⟨write, hasWrite⟩ := Option.ne_none_iff_exists'.mp isWrite
    have notYet : ¬ HasSucceeded labels index :=
      accounted.told index _ current isWrite
    obtain ⟨result, returned, ofWrite⟩ :=
      KvRequest.call_ofWrite positive run isWrite
    have progress :
        (state.gateway.attempt request attempt).1 =
          .called attempt result := by
      unfold Gateway.attempt
      simp only [returned]
    rw [returned, progress]
    rcases ofWrite with ⟨isOk, succeeds⟩ | ⟨failed, status⟩
    · have success :
          GatewayLabel.success (.attempt index request (.ok result)) =
            some (index, write) := by
        simp [GatewayLabel.success, isOk, hasWrite]
      refine accounted.advance current
        (Or.inr ⟨write, success, hasWrite, notYet⟩) fun _ => ?_
      refine Or.inl ⟨?_, succeeds⟩
      rw [hasSucceeded_concat]
      exact Or.inr ⟨write, success⟩
    · have noSuccess :
          GatewayLabel.success (.attempt index request (.ok result)) =
            none := by
        simp [GatewayLabel.success, failed]
      refine accounted.advance current (Or.inl noSuccess) fun _ => ?_
      refine Or.inr ⟨?_, status⟩
      rw [hasSucceeded_concat, noSuccess]
      simpa using notYet

private theorem accounted_record
    {labels : List GatewayLabel}
    {state : GatewayState shardCount replicaCount} {index : Nat}
    {request : KvRequest} {attempt : UInt64} {result : OperationResult}
    (now : Int) (accounted : Accounted labels state.threads)
    (current :
      state.threads[index]? = some ⟨request, .called attempt result⟩) :
    Accounted (labels ++ [.record index now])
      (state.threads.set index
        ⟨request,
          (state.gateway.record now request attempt result).1⟩) := by
  refine accounted.advance current (Or.inl rfl) fun isWrite => ?_
  have told : StatusTells (HasSucceeded labels index) result.status :=
    accounted.told index _ current isWrite
  have same :
      HasSucceeded (labels ++ [.record index now]) index ↔
        HasSucceeded labels index := by
    rw [hasSucceeded_concat]
    exact or_iff_left fun ⟨_, isSuccess⟩ => by cases isSuccess
  rw [same]
  rcases state.gateway.record_progress now request attempt result with
    answered | ⟨failed, next, again⟩
  · rw [answered]
    exact told
  · rw [again]
    rcases told with ⟨_, succeeds⟩ | ⟨notYet, _⟩
    · have small := succeeds.2
      omega
    · exact notYet

/-- Every step keeps the accounts. -/
theorem GatewayStep.accounted
    {labels : List GatewayLabel} {clusterRun : List ClusterLabel}
    {state next : GatewayState shardCount replicaCount}
    {label : GatewayLabel} (positive : 0 < replicaCount)
    (run : ClusterRun clusterRun (.running state.gateway.cluster))
    (accounted : Accounted labels state.threads)
    (step : GatewayStep state label next) :
    Accounted (labels ++ [label]) next.threads := by
  cases step with
  | request request now =>
      refine accounted.spawn rfl ?_
      rcases state.gateway.askBreaker_progress now request with
        admitted | ⟨response, refused, status⟩
      · change Progress.Tells False (state.gateway.askBreaker now request).1
        rw [admitted]
        exact not_false
      · change Progress.Tells False (state.gateway.askBreaker now request).1
        rw [refused]
        exact Or.inr ⟨not_false, status⟩
  | attempt index request attempt current =>
      exact accounted_attempt positive run accounted current
  | record index now request attempt result current =>
      exact accounted_record now accounted current
  | admin operation isAdmin =>
      exact accounted.unchanged rfl

theorem GatewayRun.accounted
    {maxRetries : UInt64} {labels : List GatewayLabel}
    {state : GatewayState shardCount replicaCount}
    (positive : 0 < replicaCount)
    (run : GatewayRun maxRetries labels state) :
    Accounted labels state.threads := by
  induction run with
  | initial started =>
      rw [started]
      refine ⟨List.nodup_nil, ?_, fun index thread found => ?_⟩
      · exact fun _ member => absurd member List.not_mem_nil
      · cases found
  | extend run step inductionHypothesis =>
      exact step.accounted positive
        (GatewayRun.clusterRun positive run) inductionHypothesis

/-! ## Logs -/

/-- The write events of the cluster are the successful attempts. -/
theorem GatewayStep.event_eq
    {state next : GatewayState shardCount replicaCount}
    {label : GatewayLabel} (step : GatewayStep state label next) :
    label.clusterLabel.bind ClusterLabel.event =
      label.success.map fun success => .acknowledged success.2 := by
  cases step with
  | request request now =>
      rfl
  | attempt index request attempt _ =>
      cases (request.call state.gateway.cluster).result with
      | error failure =>
          rfl
      | ok result =>
          change (if result.ok = true then
              request.write.map WriteEvent.acknowledged else none) =
            (if result.ok = true then
              request.write.map (Prod.mk index) else none).map _
          split
          · rw [Option.map_map]
            rfl
          · rfl
  | record index now request attempt result _ =>
      rfl
  | admin operation isAdmin =>
      change Shard.acknowledgedWrite _ operation.write = none
      rw [isAdmin.write_eq_none]
      unfold Shard.acknowledgedWrite
      split
      · exact ite_self none
      · rfl

theorem GatewayRun.history_eq
    {maxRetries : UInt64} {labels : List GatewayLabel}
    {state : GatewayState shardCount replicaCount}
    (run : GatewayRun maxRetries labels state) :
    ClusterLabel.history (clusterLabels labels) =
      (successes labels).map fun success => .acknowledged success.2 := by
  induction run with
  | initial started =>
      rfl
  | @extend labels _ _ label _ step inductionHypothesis =>
      have event := step.event_eq
      rw [clusterLabels_concat, successes_concat, List.map_append,
        ← inductionHypothesis]
      unfold ClusterLabel.history
      rw [List.filterMap_append]
      congr 1
      cases found : label.clusterLabel with
      | none =>
          rw [found] at event
          cases isSuccess : label.success with
          | none =>
              rfl
          | some success =>
              rw [isSuccess] at event
              cases event
      | some reached =>
          rw [found] at event
          change reached.event = _ at event
          cases isSuccess : label.success with
          | none =>
              rw [isSuccess] at event
              simp [event]
          | some success =>
              rw [isSuccess] at event
              simp [event]

/-- Every thread executes a request that has arrived. -/
theorem GatewayRun.arrived
    {maxRetries : UInt64} {labels : List GatewayLabel}
    {state : GatewayState shardCount replicaCount}
    (run : GatewayRun maxRetries labels state) :
    ∀ thread ∈ state.threads,
      ∃ now, GatewayLabel.request thread.request now ∈ labels := by
  induction run with
  | initial started =>
      rw [started]
      exact fun _ member => absurd member List.not_mem_nil
  | @extend labels state _ label _ step inductionHypothesis =>
      have earlier (thread : RequestThread)
          (member : thread ∈ state.threads) :
          ∃ now,
            GatewayLabel.request thread.request now ∈
              labels ++ [label] := by
        obtain ⟨now, inLabels⟩ := inductionHypothesis thread member
        exact ⟨now, List.mem_append_left _ inLabels⟩
      intro thread member
      cases step with
      | request request now =>
          rcases List.mem_append.mp member with before | added
          · exact earlier thread before
          · rw [List.mem_singleton.mp added]
            exact ⟨now, List.mem_concat_self⟩
      | attempt index request attempt current =>
          rcases List.mem_or_eq_of_mem_set member with before | own
          · exact earlier thread before
          · have executed := earlier _ (List.mem_of_getElem? current)
            rw [own]
            exact executed
      | record index now request attempt result current =>
          rcases List.mem_or_eq_of_mem_set member with before | own
          · exact earlier thread before
          · have executed := earlier _ (List.mem_of_getElem? current)
            rw [own]
            exact executed
      | admin operation isAdmin =>
          exact earlier thread member

end Steps

/-- The log a majority of the replicas and every leader have committed. -/
structure Shard.CommittedLog
    {count : Nat} (shard : Shard count) (log : List LogEntry) : Prop where
  majority :
    Foundation.majority count ≤
      tally fun position =>
        decide ((shard.replicas position).store.log = log)
  leader :
    ∀ position,
      shard.currentLeader = some position →
        (shard.replicas position).store.log = log ∧
          (shard.replicas position).commitIndex = log.length

theorem Shard.CleanState.committedLog
    {count : Nat} {shardId : Nat} {agreed : List LogEntry} {bound : Int}
    {shard : Shard count} {elections : List Int}
    (clean :
      Shard.CleanState shardId agreed bound (.running shard elections)) :
    shard.CommittedLog agreed := by
  refine ⟨clean.1.1.majority.trans (tally_mono ?_), ?_⟩
  · intro position complete
    rw [← clean.committed_eq_log position]
    exact complete
  · intro position found
    have leads := clean.1.1.leads_of_currentLeader found
    have log := clean.log_eq_of_leads leads leads.online
    refine ⟨log, ?_⟩
    have invariant := clean.logInvariant position
    rw [invariant.committed, invariant.lastIndex, log]

/-- The entry has the command, the key and the value of the write. -/
def Write.WrittenAs (write : Write) (entry : LogEntry) : Prop :=
  entry.command = write.command ∧ entry.key = write.key ∧
    entry.value = write.value

/-- A request has a key without NUL bytes. -/
def GatewayLabel.PlainKey : GatewayLabel → Prop
  | .request sent _ => NulFree sent.key
  | _ => True

section Main

variable {shardCount replicaCount : Nat} [NeZero shardCount]

/-- Each write has at most one successful attempt, its answer tells whether it
has one, and the successful attempts are the committed logs. -/
structure CommittedOnce
    (labels : List GatewayLabel)
    (state : GatewayState shardCount replicaCount) : Prop where
  once : ((successes labels).map Prod.fst).Nodup
  requested :
    ∀ success ∈ successes labels,
      ∃ thread : RequestThread,
        state.threads[success.1]? = some thread ∧
          thread.request.write = some success.2 ∧
          thread.progress.Tells True
  answered :
    ∀ (index : Nat) (thread : RequestThread) (response : HttpResponse),
      state.threads[index]? = some thread → thread.request.write ≠ none →
        thread.progress = .answered response →
          (Succeeds response.status ∧ HasSucceeded labels index) ∨
            (response.status = 503 ∧ ¬ HasSucceeded labels index)
  logs :
    ∀ shard,
      ∃ log,
        (state.gateway.cluster.shards shard).CommittedLog log ∧
          List.Forall₂ (fun success entry => Write.WrittenAs success.2 entry)
            ((successes labels).filter fun success =>
              Cluster.shardForKey success.2.key = shard)
            log

private theorem write_key
    {request : KvRequest} {write : Write}
    (isWrite : request.write = some write) : write.key = request.key := by
  unfold KvRequest.write KvRequest.clusterOperation at isWrite
  cases operation : request.operation with
  | get =>
      rw [operation] at isWrite
      cases isWrite
  | put =>
      rw [operation] at isWrite
      cases isWrite
      rfl
  | delete =>
      rw [operation] at isWrite
      cases isWrite
      rfl

/-- The committed log of each shard is the sequence of successful attempts. -/
theorem GatewayRun.logs
    {maxRetries : UInt64} {labels : List GatewayLabel}
    {state : GatewayState shardCount replicaCount}
    (positive : 0 < replicaCount)
    (run : GatewayRun maxRetries labels state)
    (plainKeys : ∀ success ∈ successes labels, NulFree success.2.key)
    (shard : Fin shardCount) :
    ∃ log,
      (state.gateway.cluster.shards shard).CommittedLog log ∧
        List.Forall₂ (fun success entry => Write.WrittenAs success.2 entry)
          ((successes labels).filter fun success =>
            Cluster.shardForKey success.2.key = shard)
          log := by
  obtain ⟨shardLabels, elections, view⟩ :=
    (GatewayRun.clusterRun positive run).shardView positive shard
  have cleanRun :
      Shard.CleanRun shard shardLabels
        (.running (state.gateway.cluster.shards shard) elections) :=
    ⟨view.run, view.clean (clusterLabels_clean labels)⟩
  obtain ⟨agreed, bound, clean, logged⟩ :=
    cleanRun.log_eq_history positive
  refine ⟨agreed, clean.committedLog, ?_⟩
  rw [view.history, GatewayRun.history_eq run, historyOf, List.filter_map,
    List.forall₂_map_left_iff] at logged
  have plain :
      ∀ success ∈
          (successes labels).filter fun success =>
            Cluster.shardForKey success.2.key = shard,
        NulFree success.2.key :=
    fun success member => plainKeys success (List.mem_of_mem_filter member)
  refine ((List.forall₂_and_left _ _).mpr ⟨plain, logged⟩).imp ?_
  rintro success entry ⟨nulFree, write, isWrite, command, key, value⟩
  cases isWrite
  rw [cString_of_nulFree nulFree] at key
  exact ⟨command, key, value⟩

/-- In every run of the gateway each write is committed once, by its successful
attempt, or not at all. -/
theorem Gateway.writes_commit_once
    {maxRetries : UInt64} {labels : List GatewayLabel}
    {state : GatewayState shardCount replicaCount}
    (positive : 0 < replicaCount)
    (run : GatewayRun maxRetries labels state)
    (plainKeys : ∀ label ∈ labels, label.PlainKey) :
    CommittedOnce labels state := by
  have accounted := GatewayRun.accounted positive run
  refine
    { once := accounted.once
      requested := ?_
      answered := ?_
      logs := GatewayRun.logs positive run ?_ }
  · intro success member
    obtain ⟨thread, found, isWrite⟩ := accounted.requested success member
    have hasWrite : thread.request.write ≠ none := by
      rw [isWrite]
      exact Option.some_ne_none _
    have succeeded : HasSucceeded labels success.1 :=
      List.mem_map_of_mem member
    have told := accounted.told success.1 thread found hasWrite
    rw [eq_true succeeded] at told
    exact ⟨thread, found, isWrite, told⟩
  · intro index thread response found isWrite isAnswer
    have told := accounted.told index thread found isWrite
    rw [isAnswer] at told
    rcases told with ⟨succeeded, succeeds⟩ | ⟨failed, status⟩
    · exact Or.inl ⟨succeeds, succeeded⟩
    · exact Or.inr ⟨status, failed⟩
  · intro success member
    obtain ⟨thread, found, isWrite⟩ := accounted.requested success member
    obtain ⟨now, arrived⟩ :=
      GatewayRun.arrived run thread (List.mem_of_getElem? found)
    rw [write_key isWrite]
    exact plainKeys _ arrived

end Main

/-- A request to put a value. -/
def putRequest : KvRequest where
  operation := .put
  key := bytes "k"
  value := bytes "v"

/-- The request has arrived at a gateway that retries once, and two of the three
replicas have failed. -/
def putWithoutMajority : GatewayState 1 3 :=
  let initial := GatewayState.initial 1 3 1
  ((initial.spawn putRequest (initial.gateway.askBreaker 0 putRequest)).administer
    (.failReplica 0 (bytes "s0-r1"))).administer
      (.failReplica 0 (bytes "s0-r2"))

/-- The first attempt has failed. -/
def putRefused : GatewayState 1 3 :=
  putWithoutMajority.advance 0 putRequest
    (putWithoutMajority.gateway.attempt putRequest 0)

/-- The breaker was told, and a replica has recovered. -/
def putRetrying : GatewayState 1 3 :=
  (putRefused.advance 0 putRequest
    (putRefused.gateway.record 1 putRequest 0
      { status := 503
        message :=
          bytes "write rejected because a majority could not acknowledge the log entry"
        leader := bytes "s0-r0" })).administer
    (.recoverReplica 0 (bytes "s0-r1"))

/-- The second attempt has been made. -/
def putAttempted : GatewayState 1 3 :=
  putRetrying.advance 0 putRequest
    (putRetrying.gateway.attempt putRequest 1)

/-- A put whose first attempt finds no majority and whose second attempt, after
a recovery, succeeds. -/
theorem Gateway.retried_put_commits_once :
    ∃ labels,
      GatewayRun 1 labels putAttempted ∧
        successes labels = [(0, ⟨putCommand, bytes "k", bytes "v"⟩)] ∧
        CommittedOnce labels putAttempted := by
  have positive : 0 < 3 := by decide
  have plainKey : NulFree putRequest.key := by decide
  have begun : GatewayRun 1 [] (GatewayState.initial 1 3 1) := .initial rfl
  have withoutMajority : GatewayRun 1 _ putWithoutMajority :=
    ((begun.extend (.request _ putRequest 0)).extend
      (.admin _ (.failReplica 0 (bytes "s0-r1")) trivial)).extend
        (.admin _ (.failReplica 0 (bytes "s0-r2")) trivial)
  have refused : GatewayRun 1 _ putRefused :=
    withoutMajority.extend (.attempt 0 putRequest 0 (by decide +kernel))
  have retrying : GatewayRun 1 _ putRetrying :=
    (refused.extend
      (.record 0 1 putRequest 0 _ (by decide +kernel))).extend
        (.admin _ (.recoverReplica 0 (bytes "s0-r1")) trivial)
  have run : GatewayRun 1 _ putAttempted :=
    retrying.extend (.attempt 0 putRequest 1 (by decide +kernel))
  refine ⟨_, run, ?_, writes_commit_once positive run ?_⟩
  · decide +kernel
  · iterate 6
      refine forall_mem_concat_iff.mpr ⟨?_, trivial⟩
    exact forall_mem_concat_iff.mpr ⟨List.forall_mem_nil _, plainKey⟩

end ShardedKvStore

import ShardedKvStore.Cluster.Runs

/-!
# Durability of the cluster

Every read that is served, after any number of crashes, is accounted for by the
acknowledged and the interrupted writes to its key.  A write is stored under the
key up to its first NUL byte, in the shard the whole key is routed to.  So the
writes to a key are those made to it by name only as long as no other key of its
shard goes on after a NUL byte where this one ends.
-/

namespace ShardedKvStore

open Foundation

section PossibleValues

variable {history : List WriteEvent}

theorem possibleValues_filter (concerns keep : Bytes → Bool) :
    possibleValues concerns
        (history.filter fun event => keep event.write.key) =
      possibleValues (fun key => keep key && concerns key) history := by
  unfold possibleValues
  rw [List.foldl_filter]
  congr 1
  funext values event
  by_cases kept : keep event.write.key = true
  · simp only [kept, if_true, Bool.true_and]
  · simp [kept]

theorem possibleValues_congr
    {concerns concerns' : Bytes → Bool}
    (same :
      ∀ event ∈ history,
        concerns event.write.key = concerns' event.write.key) :
    possibleValues concerns history = possibleValues concerns' history := by
  unfold possibleValues
  refine List.foldl_ext _ _ _ fun values event member => ?_
  rw [same event member]

end PossibleValues

/-- The value a read was served, absent or present. -/
def OperationResult.served (result : OperationResult) :
    Option (Option Bytes) :=
  if result.status = 200 then
    some (some result.value)
  else if result.status = 404 then
    some none
  else
    none

namespace Cluster

variable {shardCount replicaCount : Nat} [NeZero shardCount]

/-- A write to `written` is stored where a read of `key` looks. -/
def sameKey (shardCount : Nat) [NeZero shardCount] (key written : Bytes) :
    Bool :=
  (shardForKey written : Fin shardCount) = shardForKey key ∧
    cString written = key

theorem sameKey_of_nulFree
    (shardCount : Nat) [NeZero shardCount] {key written : Bytes} (nulFree : NulFree written) :
    sameKey shardCount key written = decide (written = key) := by
  unfold sameKey
  rw [cString_of_nulFree nulFree]
  by_cases same : written = key
  · simp [same]
  · simp [same]

/-- Every served read is accounted for by the acknowledged and the interrupted
writes that are stored where it looks. -/
theorem reads_accounted
    {labels : List ClusterLabel}
    {cluster : Cluster shardCount replicaCount}
    (positive : 0 < replicaCount)
    (run : ClusterRun labels (.running cluster))
    {key : Bytes} (nulFree : NulFree key) {result : OperationResult}
    (returned : (get key cluster).result = .ok result)
    {value : Option Bytes} (served : result.served = some value) :
    value ∈
      possibleValues (sameKey shardCount key)
        (ClusterLabel.history labels) := by
  obtain ⟨shardLabels, elections, view⟩ :=
    run.shardView positive (shardForKey key)
  have sees :
      possibleValues (Shard.storedAs (cString key))
          (Shard.writeHistory shardLabels) =
        possibleValues (sameKey shardCount key)
          (ClusterLabel.history labels) := by
    have filtered :=
      @possibleValues_filter (ClusterLabel.history labels)
        (Shard.storedAs (cString key))
        (fun written =>
          (shardForKey written : Fin shardCount) = shardForKey key)
    rw [view.history, historyOf, filtered]
    apply possibleValues_congr
    intro event _
    simp [sameKey, Shard.storedAs, cString_of_nulFree nulFree]
  rw [← sees]
  obtain ⟨found, missing⟩ :=
    Shard.get_possible positive view.run returned
  unfold OperationResult.served at served
  split at served
  case isTrue isFound =>
    rw [← Option.some.inj served]
    exact found isFound
  case isFalse =>
    split at served
    case isTrue isMissing =>
      rw [← Option.some.inj served]
      exact missing isMissing
    case isFalse =>
      cases served

/-- The acknowledged and interrupted writes of a run that are stored where a read
of `key` looks are writes to `key`. -/
def OnlyKey
    (shardCount : Nat) [NeZero shardCount] (key : Bytes)
    (labels : List ClusterLabel) : Prop :=
  ∀ event ∈ ClusterLabel.history labels,
    sameKey shardCount key event.write.key = true →
      event.write.key = key

/-- In a run that writes keys without NUL bytes every key is stored on its
own. -/
theorem onlyKey_of_nulFree
    {labels : List ClusterLabel}
    (allNulFree :
      ∀ event ∈ ClusterLabel.history labels, NulFree event.write.key)
    (key : Bytes) :
    OnlyKey shardCount key labels := by
  intro event member same
  rw [sameKey_of_nulFree shardCount (allNulFree event member)] at same
  exact of_decide_eq_true same

theorem OnlyKey.possibleValues_eq
    {labels : List ClusterLabel} {key : Bytes}
    (onlyKey : OnlyKey shardCount key labels)
    (nulFree : NulFree key) :
    possibleValues (sameKey shardCount key)
        (ClusterLabel.history labels) =
      possibleValues (fun written => written = key)
        (ClusterLabel.history labels) := by
  apply possibleValues_congr
  intro event member
  by_cases isKey : event.write.key = key
  · simp [isKey, sameKey, cString_of_nulFree nulFree]
  · have other : sameKey shardCount key event.write.key = false :=
      Bool.eq_false_iff.2 (mt (onlyKey event member) isKey)
    simp [isKey, other]

/-- In every run that stores no write to another key where a read of `key` looks,
a served read of `key` returns the effect of the last acknowledged write to it,
or of one that a crash interrupted later. -/
theorem reads_are_durable
    {labels : List ClusterLabel}
    {cluster : Cluster shardCount replicaCount}
    (positive : 0 < replicaCount)
    (run : ClusterRun labels (.running cluster))
    {key : Bytes} (nulFree : NulFree key)
    (onlyKey : OnlyKey shardCount key labels)
    {result : OperationResult}
    (returned : (get key cluster).result = .ok result)
    {value : Option Bytes} (served : result.served = some value) :
    value ∈
      possibleValues (fun written => written = key)
        (ClusterLabel.history labels) := by
  rw [← onlyKey.possibleValues_eq nulFree]
  exact reads_accounted positive run nulFree returned served

/-- A put that crashes on the leader right after it was applied is read after the
restart. -/
theorem interrupted_put_is_read :
    ∃ labels,
      ∃ cluster : Cluster 2 3,
        ClusterRun labels (.running cluster) ∧
          ClusterLabel.history labels =
            [.interrupted ⟨putCommand, bytes "k", bytes "v"⟩] ∧
          some (bytes "v") ∈
            possibleValues (fun written => written = bytes "k")
              (ClusterLabel.history labels) := by
  have positive : 0 < 3 := by decide
  have started : ClusterRun [.start] (.running (begun 2 3)) :=
    clusterRun_begun positive
  have crashed := started.extend
    (.callCrash _ (.put (bytes "k") (bytes "v")) 12)
  have run := ClusterRun.restart positive crashed
  have returned :
      (get (bytes "k")
        (construct (filesAfter (begun 2 3).files
          (((ClusterOperation.put (bytes "k") (bytes "v")).call
            (begun 2 3)).journal.take 12))).state).result =
        .ok
          { ok := true
            status := 200
            message := bytes "ok"
            value := bytes "v"
            leader := bytes "s0-r0" } := by
    decide +kernel
  have history :
      ClusterLabel.history
          [.start, .callCrash (.put (bytes "k") (bytes "v")) 12,
            .start] =
        [.interrupted ⟨putCommand, bytes "k", bytes "v"⟩] :=
    rfl
  have onlyKey :
      OnlyKey 2 (bytes "k")
        [.start, .callCrash (.put (bytes "k") (bytes "v")) 12,
          .start] := by
    apply onlyKey_of_nulFree
    rw [history, List.forall_mem_singleton]
    decide
  exact ⟨_, _, run, history,
    reads_are_durable positive run (by decide) onlyKey returned rfl⟩

/-- The cluster of the default configuration after a first put, whose key goes on
after a NUL byte. -/
def writtenAside : Cluster 4 3 :=
  ((ClusterOperation.put (bytes "k\x00x") (bytes "y")).call
    (begun 4 3)).state

/-- The answer of that put. -/
def asideAnswer : OperationResult where
  ok := true
  status := 201
  message := bytes "stored"
  value := []
  leader := bytes "s0-r0"

/-- The steps up to it. -/
def asideLabels : List ClusterLabel :=
  [.start,
    .call (.put (bytes "k\x00x") (bytes "y"))
      (.ok (.result asideAnswer))]

theorem clusterRun_writtenAside :
    ClusterRun asideLabels (.running writtenAside) := by
  have started : ClusterRun [.start] (.running (begun 4 3)) :=
    clusterRun_begun (by decide)
  have run := started.extend
    (.call _ (.put (bytes "k\x00x") (bytes "y")))
  have answer :
      ((ClusterOperation.put (bytes "k\x00x") (bytes "y")).call
          (begun 4 3)).result =
        .ok (.result asideAnswer) := by
    decide +kernel
  rw [answer] at run
  exact run

/-- A read of a key that was never written returns the value of another key, which
the database cuts to this one. -/
theorem other_key_is_read :
    ClusterRun asideLabels (.running writtenAside) ∧
      ClusterLabel.history asideLabels =
        [.acknowledged ⟨putCommand, bytes "k\x00x", bytes "y"⟩] ∧
      NulFree (bytes "k") ∧
      (get (bytes "k") writtenAside).result =
        .ok
          { ok := true
            status := 200
            message := bytes "ok"
            value := bytes "y"
            leader := bytes "s0-r0" } ∧
      some (bytes "y") ∉
        possibleValues (fun written => written = bytes "k")
          (ClusterLabel.history asideLabels) := by
  have history :
      ClusterLabel.history asideLabels =
        [.acknowledged ⟨putCommand, bytes "k\x00x", bytes "y"⟩] :=
    rfl
  refine ⟨clusterRun_writtenAside, history, by decide,
    by decide +kernel, ?_⟩
  rw [history]
  decide

end Cluster

end ShardedKvStore

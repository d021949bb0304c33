import ShardedKvStore.Cluster.Runs
import ShardedKvStore.Gateway.Responses
import ShardedKvStore.Gateway.Runs
import ShardedKvStore.Shard.Isolation

/-!
# Reading a stored value back

A stored value is returned byte for byte inside a JSON string.  The API takes any
octets as a value, but a JSON text is UTF-8: what a client can read back are the
values, under the keys, that are UTF-8 themselves.
-/

namespace ShardedKvStore

open Foundation

variable {shardCount replicaCount : Nat} [NeZero shardCount]

/-- A write to `written` is stored where `key` is: in the same shard, as the same
C string. -/
def Cluster.SameRow
    (shardCount : Nat) [NeZero shardCount] (key written : Bytes) : Prop :=
  (shardForKey written : Fin shardCount) = shardForKey key ∧
    cString written = cString key

section Stored

variable {before later : List ClusterLabel} {key value : Bytes}
  {stored : OperationResult}

/-- After an acknowledged put and until the next write of its row, the value of
the put is the only possible one. -/
theorem possibleValues_put
    (accepted : stored.ok = true)
    (untouched :
      ∀ event ∈ ClusterLabel.history later,
        ¬ Cluster.SameRow shardCount key event.write.key) :
    possibleValues (Shard.storedAs (cString key))
        (historyOf (Cluster.shardForKey key : Fin shardCount)
          (ClusterLabel.history
            (before ++
              .call (.put key value) (.ok (.result stored)) :: later))) =
      [some value] := by
  have history :
      ClusterLabel.history
          (before ++
            .call (.put key value) (.ok (.result stored)) :: later) =
        ClusterLabel.history before ++
          ([.acknowledged ⟨putCommand, key, value⟩] ++
            ClusterLabel.history later) := by
    simp [ClusterLabel.history, List.filterMap_append,
      ClusterLabel.event, Shard.acknowledgedWrite, accepted,
      ClusterOperation.write]
  have own :
      historyOf (Cluster.shardForKey key : Fin shardCount)
          [.acknowledged ⟨putCommand, key, value⟩] =
        [.acknowledged ⟨putCommand, key, value⟩] := by
    simp [historyOf, WriteEvent.write]
  have others :
      ∀ event ∈
          historyOf (Cluster.shardForKey key : Fin shardCount)
            (ClusterLabel.history later),
        Shard.storedAs (cString key) event.write.key = false := by
    intro event member
    obtain ⟨inLater, sameShard⟩ := List.mem_filter.mp member
    refine decide_eq_false fun sameString => ?_
    exact untouched event inLater
      ⟨of_decide_eq_true sameShard, sameString⟩
  rw [history, historyOf_append, historyOf_append, own,
    ← List.append_assoc, Shard.possibleValues_append_others others,
    possibleValues_acknowledged (decide_eq_true rfl)]
  rfl

/-- A served read returns the value of the last put, and says which replica
answered. -/
theorem ClusterRun.get_stored
    {cluster : Cluster shardCount replicaCount}
    (positive : 0 < replicaCount)
    (run :
      ClusterRun
        (before ++ .call (.put key value) (.ok (.result stored)) :: later)
        (.running cluster))
    (accepted : stored.ok = true)
    (untouched :
      ∀ event ∈ ClusterLabel.history later,
        ¬ Cluster.SameRow shardCount key event.write.key)
    {result : OperationResult}
    (returned : (Cluster.get key cluster).result = .ok result)
    (found : result.status = 200) :
    result.ok = true ∧ result.message = bytes "ok" ∧
      result.value = value ∧
      ∃ shardId position, result.leader = replicaId shardId position := by
  obtain ⟨shardLabels, elections, view⟩ :=
    run.shardView positive (Cluster.shardForKey key)
  obtain ⟨_, _, operational, agree, _⟩ :=
    Shard.ShardRun.agrees positive view.run
  obtain ⟨isOk, message, leader, isLeader⟩ :=
    operational.get_found agree returned found
  have possible :=
    (Shard.get_possible positive view.run returned).1 found
  rw [view.history, possibleValues_put accepted untouched] at possible
  have isValue := List.mem_singleton.mp possible
  exact ⟨isOk, message, Option.some.inj isValue, _, _, isLeader⟩

end Stored

theorem replicaId_isAscii (shardId position : Nat) :
    ∀ byte ∈ replicaId shardId position, IsAscii byte := by
  unfold replicaId
  simp only [List.forall_mem_append]
  exact ⟨⟨⟨isAscii_of_all (by decide), toDecimal_isAscii shardId⟩,
    isAscii_of_all (by decide)⟩, toDecimal_isAscii position⟩

/-- The body for a value that was found. -/
theorem KvRequest.found_wellFormed_iff
    {request : KvRequest} {result : OperationResult}
    {shardId position : Nat} (isGet : request.operation = .get)
    (isOk : result.ok = true) (message : result.message = bytes "ok")
    (leader : result.leader = replicaId shardId position) :
    WellFormedJson (request.response result).body ↔
      ValidUtf8 request.key ∧ ValidUtf8 result.value := by
  rw [response_wellFormed_iff]
  unfold responseFields
  rw [if_pos isOk, if_pos isGet, message, leader]
  simp only [List.cons_append, List.nil_append, List.forall_mem_cons,
    fieldValid_text, fieldValid_natural]
  constructor
  · rintro ⟨_, ⟨_, keyValid⟩, _, _, ⟨_, valueValid⟩, _⟩
    exact ⟨keyValid, valueValid⟩
  · rintro ⟨keyValid, valueValid⟩
    have leaderValid :=
      validUtf8_of_ascii (replicaId_isAscii shardId position)
    have literal {text : Bytes}
        (ascii : text.all (fun byte => decide (IsAscii byte)) = true) :
        ValidUtf8 text :=
      validUtf8_of_ascii (isAscii_of_all ascii)
    exact ⟨⟨literal (by decide), literal (by decide)⟩,
      ⟨literal (by decide), keyValid⟩, literal (by decide),
      ⟨literal (by decide), leaderValid⟩,
      ⟨literal (by decide), valueValid⟩, List.forall_mem_nil _⟩

namespace Gateway

theorem attempt_called
    {gateway : Gateway shardCount replicaCount} {request : KvRequest}
    {attempt : UInt64} {result : OperationResult}
    (called : (gateway.attempt request attempt).1 = .called attempt result) :
    (request.call gateway.cluster).result = .ok result := by
  unfold Gateway.attempt at called
  cases answer : (request.call gateway.cluster).result with
  | error failure =>
      simp only [answer] at called
      cases called
  | ok value =>
      simp only [answer] at called
      cases called
      rfl

theorem record_answered
    {gateway : Gateway shardCount replicaCount} {now : Int}
    {request : KvRequest} {attempt : UInt64} {result : OperationResult}
    {response : HttpResponse}
    (answered :
      (gateway.record now request attempt result).1 =
        .answered response) :
    response = request.response result := by
  rcases gateway.record_progress now request attempt result with
    isAnswer | ⟨_, next, isNext⟩
  · rw [isAnswer] at answered
    cases answered
    rfl
  · rw [isNext] at answered
    cases answered

/-- In every run of the cluster, crashes included: when a put was acknowledged and
no write of its row came after it, the body of a successful read of its key is
well-formed JSON exactly if the key and the value of the put are UTF-8.  The
gateway may have changed between the call and the telling of the breaker. -/
theorem read_back_wellFormed_iff
    {before later : List ClusterLabel}
    {gateway told : Gateway shardCount replicaCount}
    {key value argument : Bytes} {stored result : OperationResult}
    {attempt : UInt64} {now : Int} {response : HttpResponse}
    (positive : 0 < replicaCount)
    (run :
      ClusterRun
        (before ++
          .call (KvRequest.clusterOperation ⟨.put, key, value⟩)
            (.ok (.result stored)) :: later)
        (.running gateway.cluster))
    (accepted : stored.ok = true)
    (untouched :
      ∀ event ∈ ClusterLabel.history later,
        ¬ Cluster.SameRow shardCount key event.write.key)
    (called :
      (gateway.attempt ⟨.get, key, argument⟩ attempt).1 =
        .called attempt result)
    (answered :
      (told.record now ⟨.get, key, argument⟩ attempt result).1 =
        .answered response)
    (success : response.status = 200) :
    WellFormedJson response.body ↔ ValidUtf8 key ∧ ValidUtf8 value := by
  have returned : (Cluster.get key gateway.cluster).result = .ok result :=
    attempt_called called
  have isResponse :
      response = KvRequest.response ⟨.get, key, argument⟩ result :=
    record_answered answered
  rw [isResponse] at success ⊢
  obtain ⟨isOk, message, isValue, _, _, leader⟩ :=
    run.get_stored positive accepted untouched returned success
  rw [KvRequest.found_wellFormed_iff rfl isOk message leader, isValue]

/-- A gateway in front of a cluster that has stored a value. -/
def afterPut (value : Bytes) : Gateway shardCount replicaCount :=
  create
    ((ClusterOperation.put (bytes "k") value).call
      (Cluster.begun shardCount replicaCount)).state 2

/-- The result of the put. -/
def putResult : OperationResult where
  ok := true
  status := 201
  message := bytes "stored"
  leader := bytes "s0-r0"

/-- The result of a read after it. -/
def getResult (value : Bytes) : OperationResult where
  ok := true
  status := 200
  message := bytes "ok"
  value := value
  leader := bytes "s0-r0"

example :
    KvRequest.responseBody ⟨.get, bytes "k", []⟩ (getResult (bytes "v")) =
      bytes "\x7b\"status\":\"ok\",\"key\":\"k\",\"shard\":0," ++
        bytes "\"leader\":\"s0-r0\",\"value\":\"v\"\x7d" := by
  decide +kernel

theorem clusterRun_afterPut
    {value : Bytes} (positive : 0 < replicaCount)
    (returned :
      ((ClusterOperation.put (bytes "k") value).call
        (Cluster.begun shardCount replicaCount)).result =
          .ok (.result putResult)) :
    ClusterRun
      [.start,
        .call (KvRequest.clusterOperation ⟨.put, bytes "k", value⟩)
          (.ok (.result putResult))]
      (.running
        (afterPut value : Gateway shardCount replicaCount).cluster) := by
  have step :=
    ClusterStep.call (Cluster.begun shardCount replicaCount)
      (.put (bytes "k") value)
  rw [returned] at step
  unfold afterPut create
  dsimp only
  exact (clusterRun_begun positive).extend step

/-- One byte that no UTF-8 text has is stored, and the successful read of it is not
JSON. -/
theorem binary_value_not_wellFormed :
    ∃ response,
      ClusterRun
          [.start,
            .call (KvRequest.clusterOperation ⟨.put, bytes "k", [0xFF]⟩)
              (.ok (.result putResult))]
          (.running (afterPut [0xFF] : Gateway 2 3).cluster) ∧
        ((afterPut [0xFF] : Gateway 2 3).attempt
            ⟨.get, bytes "k", []⟩ 0).1 =
          .called 0 (getResult [0xFF]) ∧
        (((afterPut [0xFF] : Gateway 2 3).attempt
              ⟨.get, bytes "k", []⟩ 0).2.record 0
            ⟨.get, bytes "k", []⟩ 0 (getResult [0xFF])).1 =
          .answered response ∧
        response.status = 200 ∧
        response.contentType = bytes "application/json" ∧
        ¬ WellFormedJson response.body := by
  refine ⟨KvRequest.response ⟨.get, bytes "k", []⟩ (getResult [0xFF]),
    clusterRun_afterPut (by decide) (by decide +kernel),
    by decide +kernel, rfl, rfl, rfl, ?_⟩
  rintro ⟨valid, _⟩
  have inBody :
      0xFF ∈ (KvRequest.response ⟨.get, bytes "k", []⟩
        (getResult [0xFF])).body := by
    decide
  exact absurd (valid.byte_lt inBody) (by decide)

/-- A text is stored and read back. -/
theorem text_value_wellFormed :
    ∃ response,
      (((afterPut (bytes "v") : Gateway 2 3).attempt
            ⟨.get, bytes "k", []⟩ 0).2.record 0
          ⟨.get, bytes "k", []⟩ 0 (getResult (bytes "v"))).1 =
        .answered response ∧
      WellFormedJson response.body := by
  have run :
      ClusterRun _
        (.running (afterPut (bytes "v") : Gateway 2 3).cluster) :=
    clusterRun_afterPut (by decide) (by decide +kernel)
  have called :
      ((afterPut (bytes "v") : Gateway 2 3).attempt
          ⟨.get, bytes "k", []⟩ 0).1 =
        .called 0 (getResult (bytes "v")) := by
    decide +kernel
  have reads :=
    @read_back_wellFormed_iff 2 3 _ [.start] [] (afterPut (bytes "v"))
      ((afterPut (bytes "v")).attempt ⟨.get, bytes "k", []⟩ 0).2
      (bytes "k") (bytes "v") [] putResult (getResult (bytes "v")) 0 0 _
      (by decide) run rfl (List.forall_mem_nil _) called rfl rfl
  exact ⟨_, rfl, reads.mpr
    ⟨validUtf8_of_ascii (isAscii_of_all (by decide)),
      validUtf8_of_ascii (isAscii_of_all (by decide))⟩⟩

end Gateway

end ShardedKvStore

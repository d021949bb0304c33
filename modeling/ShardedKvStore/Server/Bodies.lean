import ShardedKvStore.Gateway.ReadBack
import ShardedKvStore.Server.Threads
import ShardedKvStore.StatusDocuments

/-!
# Bodies are JSON

Every body but the page of metrics is written as JSON.  It is well-formed JSON as
long as the keys and values that clients send are UTF-8: everything else in a body is
worded by the code, and a value that is read was written before.
-/

namespace ShardedKvStore

open Foundation

/-! ## Texts of the code -/

theorem literal_validUtf8
    {text : Bytes}
    (ascii : text.all (fun byte => decide (IsAscii byte)) = true) :
    ValidUtf8 text :=
  validUtf8_of_ascii (isAscii_of_all ascii)

theorem objectText_wellFormed
    {fields : List (Bytes × JsonScalar)} (some_ : fields ≠ [])
    (valid : ∀ field ∈ fields, FieldValid field) :
    WellFormedJson (objectText fields) := by
  obtain ⟨object, isObject, _⟩ := objectText_reads some_
  exact
    ⟨(objectText_validUtf8 fields).mpr valid, object,
      (isObject object).mpr rfl⟩

/-- A body of one member that the code words. -/
theorem literal_wellFormed
    {text : Bytes} (name content : String)
    (written : text = objectText [(bytes name, .text (bytes content))])
    (nameAscii :
      (bytes name).all (fun byte => decide (IsAscii byte)) = true)
    (contentAscii :
      (bytes content).all (fun byte => decide (IsAscii byte)) = true) :
    WellFormedJson text := by
  rw [written]
  apply objectText_wellFormed (List.cons_ne_nil _ _)
  rw [List.forall_mem_singleton, fieldValid_text]
  exact ⟨literal_validUtf8 nameAscii, literal_validUtf8 contentAscii⟩

theorem errorBody_wellFormed
    {message : String}
    (plain : jsonEscape (bytes message) = bytes message)
    (ascii :
      (bytes message).all (fun byte => decide (IsAscii byte)) = true) :
    WellFormedJson (errorBody message) := by
  apply literal_wellFormed "error" message _ (by decide) ascii
  have name : jsonEscape (bytes "error") = bytes "error" := by decide
  simp only [errorBody, objectText, fieldText, List.map_singleton,
    List.intercalate_singleton, name, plain]
  simp [bytes]

theorem circuitOpenResponse_wellFormed (shardId : Nat) :
    WellFormedJson (circuitOpenResponse shardId).body := by
  have written :
      (circuitOpenResponse shardId).body =
        objectText
          [(bytes "error", .text (bytes "circuit breaker is open")),
            (bytes "shard", .natural shardId)] := by
    simp [circuitOpenResponse, jsonResponse, objectText, fieldText,
      List.intercalate_cons_cons, bytes, jsonEscape, jsonEscapeByte]
  rw [written]
  apply objectText_wellFormed (List.cons_ne_nil _ _)
  simp only [List.forall_mem_cons, fieldValid_text, fieldValid_natural]
  exact
    ⟨⟨literal_validUtf8 (by decide), literal_validUtf8 (by decide)⟩,
      literal_validUtf8 (by decide), List.forall_mem_nil _⟩

/-! ## Status documents -/

theorem signedDecimal_validUtf8 (number : Int) :
    ValidUtf8 (signedDecimal number) := by
  unfold signedDecimal
  split
  · exact
      (validUtf8_cons (by decide)).mpr
        (validUtf8_of_ascii (toDecimal_isAscii _))
  · exact validUtf8_of_ascii (toDecimal_isAscii _)

theorem quoted_validUtf8 {content : Bytes} (valid : ValidUtf8 content) :
    ValidUtf8 (quoted content) := by
  unfold quoted
  rw [validUtf8_cons (by decide), validUtf8_append_cons (by decide),
    jsonEscape_validUtf8]
  exact ⟨valid, validUtf8_nil⟩

theorem memberText_validUtf8
    {name : String} {value : Bytes} (valid : ValidUtf8 value)
    (ascii : (bytes name).all (fun byte => decide (IsAscii byte)) = true) :
    ValidUtf8 (memberText name value) := by
  unfold memberText
  rw [validUtf8_cons (by decide), validUtf8_append_cons (by decide),
    validUtf8_cons (by decide), jsonEscape_validUtf8]
  exact ⟨literal_validUtf8 ascii, valid⟩

theorem objectOf_validUtf8 (members : List Bytes) :
    ValidUtf8 (objectOf members) ↔ ∀ part ∈ members, ValidUtf8 part := by
  unfold objectOf
  rw [validUtf8_cons (by decide), validUtf8_append_cons (by decide),
    and_iff_left validUtf8_nil, validUtf8_intercalate (by decide)]

theorem arrayOf_validUtf8 (elements : List Bytes) :
    ValidUtf8 (arrayOf elements) ↔ ∀ part ∈ elements, ValidUtf8 part := by
  unfold arrayOf
  rw [validUtf8_cons (by decide), validUtf8_append_cons (by decide),
    and_iff_left validUtf8_nil, validUtf8_intercalate (by decide)]

theorem RaftReplica.statusJson_validUtf8
    {replica : RaftReplica} (valid : ValidUtf8 replica.id) :
    ValidUtf8 replica.statusJson := by
  have online :
      ValidUtf8
        (if replica.online = true then bytes "true" else bytes "false") := by
    split
    · exact literal_validUtf8 (by decide)
    · exact literal_validUtf8 (by decide)
  have role : ValidUtf8 (roleToString replica.role) := by
    cases replica.role <;> exact literal_validUtf8 (by decide)
  rw [replica.statusJson_eq, objectOf_validUtf8]
  simp only [List.forall_mem_cons]
  exact
    ⟨memberText_validUtf8 (quoted_validUtf8 valid) (by decide),
      memberText_validUtf8 online (by decide),
      memberText_validUtf8 (quoted_validUtf8 role) (by decide),
      memberText_validUtf8 (signedDecimal_validUtf8 _) (by decide),
      memberText_validUtf8 (signedDecimal_validUtf8 _) (by decide),
      memberText_validUtf8 (signedDecimal_validUtf8 _) (by decide),
      List.forall_mem_nil _⟩

theorem replicaId_validUtf8 (shardId position : Nat) :
    ValidUtf8 (replicaId shardId position) :=
  validUtf8_of_ascii (replicaId_isAscii shardId position)

/-- The document of a shard between operations. -/
theorem Shard.Operational.statusJson_validUtf8
    {count : Nat} {agreed : List LogEntry} {bound : Int}
    {shard : Shard count} (operational : Operational agreed bound shard) :
    ValidUtf8 shard.statusJson := by
  have ids (position : Fin count) :
      ValidUtf8 (shard.replicas position).id := by
    rw [operational.coherent.ids position]
    exact replicaId_validUtf8 _ _
  have leader : ValidUtf8 shard.leaderId := by
    rcases operational.led with none | ⟨position, leads⟩
    · rw [none]
      exact validUtf8_nil
    · rw [leads.named]
      exact ids position
  have replicas :
      ValidUtf8
        (arrayOf
          (List.ofFn fun position =>
            (shard.replicas position).statusJson)) := by
    rw [arrayOf_validUtf8, List.forall_mem_ofFn_iff]
    exact fun position => RaftReplica.statusJson_validUtf8 (ids position)
  rw [shard.statusJson_eq, objectOf_validUtf8]
  simp only [List.forall_mem_cons]
  exact
    ⟨memberText_validUtf8 (signedDecimal_validUtf8 _) (by decide),
      memberText_validUtf8 (quoted_validUtf8 leader) (by decide),
      memberText_validUtf8 replicas (by decide), List.forall_mem_nil _⟩

/-- A part of a document. -/
structure IsDocument (text : Bytes) : Prop where
  valid : ValidUtf8 text
  derives : ∃ value, Derives (.value value) text

theorem clusterStatusJson_wellFormed
    (shardCount : Nat) {shards : List Bytes}
    (documents : ∀ text ∈ shards, IsDocument text) :
    WellFormedJson (clusterStatusJson shardCount shards) := by
  constructor
  · have valid : ValidUtf8 (arrayOf shards) :=
      (arrayOf_validUtf8 shards).mpr fun text member =>
        (documents text member).valid
    rw [clusterStatusJson_eq, objectOf_validUtf8]
    simp only [List.forall_mem_cons]
    exact
      ⟨memberText_validUtf8 (signedDecimal_validUtf8 _) (by decide),
        memberText_validUtf8 valid (by decide), List.forall_mem_nil _⟩
  · obtain ⟨values, written⟩ :=
      exists_forall₂ fun text member => (documents text member).derives
    exact ⟨_, (clusterStatusJson_derives shardCount written).unpadded⟩

/-! ## Results -/

/-- The texts of a result are the code's own. -/
structure OperationResult.Worded (result : OperationResult) : Prop where
  message : ValidUtf8 result.message
  leader : ValidUtf8 result.leader

namespace Shard

variable {count : Nat} {agreed : List LogEntry} {bound : Int}
  {shard : Shard count} {elections : List Int}

theorem Operational.replicateCommand_worded
    (operational : Operational agreed bound shard)
    (agree : DurableAgree agreed bound ⟨shard.files, elections⟩)
    {command key value : Bytes} {result : OperationResult}
    (isCommand : IsCommand command)
    (returned :
      (replicateCommand command key value shard).result = .ok result) :
    result.Worded := by
  by_cases available : shard.Available
  · obtain ⟨_, settled, leader, _, _, prepared⟩ :=
      operational.prepared agree available
    have isLeader : ValidUtf8 (settled.replicas leader).id := by
      rw [prepared.operational.coherent.ids]
      exact replicaId_validUtf8 _ _
    by_cases tooFew :
        1 + (settled.acknowledging leader).length <
          Foundation.majority count
    · rw [prepared.rejects isCommand key value tooFew] at returned
      cases returned
      exact ⟨literal_validUtf8 rfl, isLeader⟩
    · rw [prepared.commits isCommand key value tooFew] at returned
      cases returned
      refine ⟨?_, isLeader⟩
      change
        ValidUtf8
          (if command = deleteCommand then bytes "deleted"
          else bytes "stored")
      split
      · exact literal_validUtf8 (by decide)
      · exact literal_validUtf8 (by decide)
  · rw [operational.replicateCommand_unavailable available] at returned
    cases returned
    exact ⟨literal_validUtf8 rfl, validUtf8_nil⟩

theorem Operational.get_worded
    (operational : Operational agreed bound shard)
    (agree : DurableAgree agreed bound ⟨shard.files, elections⟩)
    {key : Bytes} {result : OperationResult}
    (returned : (get key shard).result = .ok result) : result.Worded := by
  by_cases available : shard.Available
  · obtain ⟨_, _, leader, _, _, prepared⟩ :=
      operational.prepared agree available
    have isLeader : ValidUtf8 (shard.replicas leader).id := by
      rw [operational.coherent.ids]
      exact replicaId_validUtf8 _ _
    rw [prepared.get_eq operational] at returned
    cases returned
    unfold readAnswer
    split
    · exact ⟨literal_validUtf8 rfl, isLeader⟩
    · exact ⟨literal_validUtf8 rfl, isLeader⟩
  · rw [operational.get_unavailable available] at returned
    cases returned
    exact ⟨literal_validUtf8 rfl, validUtf8_nil⟩

/-- A value that a key may have was written. -/
theorem mem_possibleValues
    {concerns : Bytes → Bool} {history : List WriteEvent} {value : Bytes}
    (possible : some value ∈ possibleValues concerns history) :
    ∃ event ∈ history, event.write.effect = some value := by
  induction history using List.reverseRecOn with
  | nil =>
      rw [possibleValues, List.foldl_nil, List.mem_singleton] at possible
      cases possible
  | append_singleton earlier event inductionHypothesis =>
      have before (inEarlier :
          some value ∈ possibleValues concerns earlier) :
          ∃ written ∈ earlier ++ [event],
            written.write.effect = some value := by
        obtain ⟨written, member, effect⟩ := inductionHypothesis inEarlier
        exact ⟨written, List.mem_append_left _ member, effect⟩
      have here (effect : some value = event.write.effect) :
          ∃ written ∈ earlier ++ [event],
            written.write.effect = some value :=
        ⟨event, List.mem_append_right _ List.mem_cons_self, effect.symm⟩
      by_cases isKey : concerns event.write.key = true
      · cases event with
        | acknowledged write =>
            change concerns write.key = true at isKey
            rw [possibleValues_acknowledged isKey,
              List.mem_singleton] at possible
            exact here possible
        | interrupted write =>
            change concerns write.key = true at isKey
            rw [possibleValues_interrupted isKey, List.mem_append,
              List.mem_singleton] at possible
            rcases possible with inEarlier | effect
            · exact before inEarlier
            · exact here effect
      · rw [possibleValues_other (Bool.eq_false_of_not_eq_true isKey)]
          at possible
        exact before possible

/-- A replica that was failed or recovered is one of the shard's. -/
theorem Operational.named_of_failReplica
    (operational : Operational agreed bound shard) {failed : Bytes}
    (returned : (failReplica failed shard).result = .ok true) :
    ValidUtf8 failed := by
  cases found : shard.findReplica failed with
  | none =>
      unfold failReplica at returned
      simp only [Journaled.bind_apply, Journaled.read_apply,
        Outcome.andThen_ok, found, Journaled.pure_apply] at returned
      cases returned
  | some position =>
      rw [← findReplica_id found, operational.coherent.ids]
      exact replicaId_validUtf8 _ _

theorem Operational.named_of_recoverReplica
    (operational : Operational agreed bound shard) {wanted : Bytes}
    (returned : (recoverReplica wanted shard).result = .ok true) :
    ValidUtf8 wanted := by
  cases found : shard.findReplica wanted with
  | none =>
      unfold recoverReplica at returned
      simp only [Journaled.bind_apply, Journaled.read_apply,
        Outcome.andThen_ok, found, Journaled.pure_apply] at returned
      cases returned
  | some position =>
      rw [← findReplica_id found, operational.coherent.ids]
      exact replicaId_validUtf8 _ _

end Shard

section Bodies

variable {shardCount replicaCount : Nat} [NeZero shardCount]

/-- The shards of a cluster are operational between calls. -/
private theorem ClusterRun.operational
    {labels : List ClusterLabel}
    {cluster : Cluster shardCount replicaCount}
    (positive : 0 < replicaCount)
    (run : ClusterRun labels (.running cluster)) (shard : Fin shardCount) :
    ∃ agreed bound elections,
      Shard.Operational agreed bound (cluster.shards shard) ∧
        Shard.DurableAgree agreed bound
          ⟨(cluster.shards shard).files, elections⟩ := by
  obtain ⟨_, elections, view⟩ := run.shardView positive shard
  obtain ⟨agreed, bound, operational, agree, _⟩ :=
    Shard.ShardRun.agrees positive view.run
  exact ⟨agreed, bound, elections, operational, agree⟩

/-- The result of a call is worded by the code. -/
theorem KvRequest.call_worded
    {labels : List ClusterLabel}
    {cluster : Cluster shardCount replicaCount}
    (positive : 0 < replicaCount)
    (run : ClusterRun labels (.running cluster)) {sent : KvRequest}
    {result : OperationResult}
    (returned : (sent.call cluster).result = .ok result) :
    result.Worded := by
  obtain ⟨_, _, _, operational, agree⟩ :=
    run.operational positive (Cluster.shardForKey sent.key)
  obtain ⟨operation, key, value⟩ := sent
  cases operation with
  | get =>
      exact operational.get_worded agree returned
  | put =>
      exact operational.replicateCommand_worded agree (Or.inl rfl) returned
  | delete =>
      exact operational.replicateCommand_worded agree (Or.inr rfl) returned

/-- A value that is read was written. -/
theorem KvRequest.call_written
    {labels : List ClusterLabel}
    {cluster : Cluster shardCount replicaCount}
    (positive : 0 < replicaCount)
    (run : ClusterRun labels (.running cluster)) {sent : KvRequest}
    {result : OperationResult}
    (returned : (sent.call cluster).result = .ok result)
    (isGet : sent.operation = .get) (isOk : result.ok = true) :
    ∃ event ∈ ClusterLabel.history labels,
      event.write.effect = some result.value := by
  obtain ⟨_, _, view⟩ :=
    run.shardView positive (Cluster.shardForKey sent.key)
  obtain ⟨other, same, returns⟩ := sent.call_returns positive run
  rw [returned] at same
  obtain rfl := Except.ok.inj same
  obtain ⟨operation, key, value⟩ := sent
  cases isGet
  have status : result.status = 200 := by
    cases returns with
    | stored isPut _ _ =>
        cases isPut
    | erased isDelete _ _ =>
        cases isDelete
    | found _ _ status =>
        exact status
    | missing _ failed _ =>
        rw [isOk] at failed
        cases failed
    | unavailable failed _ =>
        rw [isOk] at failed
        cases failed
  have possible :=
    (Shard.get_possible positive view.run returned).1 status
  rw [view.history] at possible
  obtain ⟨event, member, effect⟩ := Shard.mem_possibleValues possible
  exact ⟨event, List.mem_of_mem_filter member, effect⟩

/-- The body for a result is well-formed when the key and the value are UTF-8. -/
theorem OperationResult.Worded.wellFormed
    {sent : KvRequest} {result : OperationResult} (worded : result.Worded)
    (key : ValidUtf8 sent.key)
    (value :
      sent.operation = .get → result.ok = true → ValidUtf8 result.value) :
    WellFormedJson (sent.response result).body := by
  have field {name : String} {content : Bytes}
      (ascii : (bytes name).all (fun byte => decide (IsAscii byte)) = true)
      (valid : ValidUtf8 content) :
      FieldValid (bytes name, .text content) :=
    fieldValid_text.mpr ⟨literal_validUtf8 ascii, valid⟩
  have shard : FieldValid (bytes "shard", .natural result.shard) :=
    fieldValid_natural.mpr (literal_validUtf8 (by decide))
  rw [sent.response_wellFormed_iff]
  unfold KvRequest.responseFields
  split
  case isTrue isOk =>
    simp only [List.forall_mem_append, List.forall_mem_cons]
    refine
      ⟨⟨field (by decide) worded.message, field (by decide) key, shard,
          field (by decide) worded.leader, List.forall_mem_nil _⟩, ?_⟩
    split
    case isTrue isGet =>
      rw [List.forall_mem_singleton]
      exact field (by decide) (value isGet isOk)
    case isFalse =>
      exact List.forall_mem_nil _
  case isFalse =>
    simp only [List.forall_mem_append, List.forall_mem_cons]
    refine
      ⟨⟨field (by decide) worded.message, field (by decide) key, shard,
          List.forall_mem_nil _⟩, ?_⟩
    split
    · rw [List.forall_mem_singleton]
      exact field (by decide) worded.leader
    · exact List.forall_mem_nil _

omit [NeZero shardCount] in
private theorem onNumber_true
    {cluster : Cluster shardCount replicaCount} {shardId : Nat}
    {call : ShardCall replicaCount Bool}
    (returned : (Cluster.onNumber shardId call cluster).result = .ok true) :
    ∃ shard, (call (cluster.shards shard)).result = .ok true := by
  unfold Cluster.onNumber at returned
  split at returned
  case isTrue inRange =>
    exact ⟨⟨shardId, inRange⟩, returned⟩
  case isFalse =>
    cases returned

/-- The replica of an administrative call that did something is one of a shard. -/
private theorem AdminAction.acted_wellFormed
    {action : String} {replica : Bytes} (valid : ValidUtf8 replica)
    (ascii : (bytes action).all (fun byte => decide (IsAscii byte)) = true) :
    WellFormedJson (actedResponse action replica).body := by
  have written :
      (actedResponse action replica).body =
        objectText
          [(bytes "status", .text (bytes "ok")),
            (bytes "action", .text (bytes action)),
            (bytes "replica", .text replica)] := by
    simp [actedResponse, jsonResponse, objectText, fieldText,
      List.intercalate_cons_cons, bytes]
    simp [jsonEscape, jsonEscapeByte]
  rw [written]
  apply objectText_wellFormed (List.cons_ne_nil _ _)
  simp only [List.forall_mem_cons, fieldValid_text]
  exact
    ⟨⟨literal_validUtf8 (by decide), literal_validUtf8 (by decide)⟩,
      ⟨literal_validUtf8 (by decide), literal_validUtf8 ascii⟩,
      ⟨literal_validUtf8 (by decide), valid⟩, List.forall_mem_nil _⟩

/-- The body for an administrative call is well-formed. -/
theorem AdminAction.response_wellFormed
    {labels : List ClusterLabel}
    {cluster : Cluster shardCount replicaCount}
    (positive : 0 < replicaCount)
    (run : ClusterRun labels (.running cluster)) (action : AdminAction) :
    WellFormedJson (action.response (action.call cluster).result).body := by
  obtain ⟨flag, returned⟩ := action.call_returns positive run
  rw [returned]
  have absent :
      WellFormedJson (errorBody "replica or shard not found") :=
    errorBody_wellFormed (by decide) (by decide)
  have refused : WellFormedJson (errorBody "leader election failed") :=
    errorBody_wellFormed (by decide) (by decide)
  have elected :
      WellFormedJson (bytes "\x7b\"status\":\"leader elected\"\x7d") :=
    literal_wellFormed "status" "leader elected" (by decide) (by decide)
      (by decide)
  cases action with
  | fail shardId replica =>
      cases flag with
      | false =>
          exact absent
      | true =>
          obtain ⟨shard, acted⟩ := onNumber_true returned
          obtain ⟨_, _, _, operational, _⟩ := run.operational positive shard
          exact
            acted_wellFormed (operational.named_of_failReplica acted)
              (by decide)
  | recover shardId replica =>
      cases flag with
      | false =>
          exact absent
      | true =>
          obtain ⟨shard, acted⟩ := onNumber_true returned
          obtain ⟨_, _, _, operational, _⟩ := run.operational positive shard
          exact
            acted_wellFormed (operational.named_of_recoverReplica acted)
              (by decide)
  | elect shardId =>
      cases flag with
      | false =>
          exact refused
      | true =>
          exact elected

/-! ## Runs -/

/-- The key and the value of the operation the request asks for are UTF-8. -/
def HttpRequest.Textual (request : HttpRequest) : Prop :=
  ∀ sent,
    route request = .execute sent →
    ValidUtf8 sent.key ∧ ValidUtf8 sent.value

variable {settings : Settings} {labels : List ServerLabel}
  {state : ServerState shardCount replicaCount}

/-- The cluster is called in an attempt and by an administrative request. -/
private theorem Server.performed_cases
    {server : Server shardCount replicaCount} {stage : Stage}
    {counting : List Counter} {label : ClusterLabel}
    (performs : server.performed stage counting = some label) :
    (∃ sent attempt,
      stage = .executing sent (.attempting attempt) ∧
        label =
          .call sent.clusterOperation
            (sent.clusterOperation.call server.gateway.cluster).result) ∨
      ∃ action : AdminAction,
        label =
          .call action.operation
            (action.operation.call server.gateway.cluster).result := by
  cases counting with
  | cons _ _ =>
      cases performs
  | nil =>
      cases stage with
      | administering action =>
          exact Or.inr ⟨action, (Option.some.inj performs).symm⟩
      | executing sent progress =>
          cases progress with
          | attempting attempt =>
              exact
                Or.inl ⟨sent, attempt, rfl, (Option.some.inj performs).symm⟩
          | _ =>
              cases performs
      | _ =>
          cases performs

/-- What a turn writes was sent with the request. -/
private theorem Server.performed_effect
    {server : Server shardCount replicaCount} {stage : Stage}
    {counting : List Counter} {label : ClusterLabel} {event : WriteEvent}
    {value : Bytes}
    (performs : server.performed stage counting = some label)
    (isEvent : label.event = some event)
    (effect : event.write.effect = some value) :
    ∃ sent attempt,
      stage = .executing sent (.attempting attempt) ∧ value = sent.value := by
  rcases Server.performed_cases performs with
    ⟨sent, attempt, isStage, rfl⟩ | ⟨action, rfl⟩
  · refine ⟨sent, attempt, isStage, ?_⟩
    have isWrite := write_of_acknowledged _ _ isEvent
    obtain ⟨operation, key, sentValue⟩ := sent
    cases operation with
    | get =>
        cases isWrite
    | put =>
        rw [← Option.some.inj isWrite] at effect
        exact (Option.some.inj effect).symm
    | delete =>
        rw [← Option.some.inj isWrite] at effect
        cases effect
  · have isWrite := write_of_acknowledged _ _ isEvent
    cases action <;> cases isWrite

/-- What the calls of a server write was sent by clients. -/
theorem ServerRun.written_validUtf8
    (positive : 0 < replicaCount) (run : ServerRun settings labels state)
    (textual : ∀ thread ∈ state.threads, thread.request.Textual) :
    ∀ event ∈ ClusterLabel.history (performedLabels labels),
      ∀ value, event.write.effect = some value → ValidUtf8 value := by
  induction run with
  | initial started =>
      exact List.forall_mem_nil _
  | @extend labels state next label before step inductionHypothesis =>
      have earlier :=
        inductionHypothesis (step.forall_requests textual)
      rcases step.cases with
        ⟨request, now, rfl, rfl⟩ |
          ⟨index, input, turning, _, _, _, found, _, rfl, rfl⟩
      · rw [performedLabels_concat, ServerLabel.performed,
          Option.toList_none, List.append_nil]
        exact earlier
      · rw [performedLabels_concat, ServerLabel.performed]
        cases performs :
            state.server.performed turning.stage turning.counting with
        | none =>
            rw [Option.toList_none, List.append_nil]
            exact earlier
        | some performed =>
            rw [Option.toList_some, ClusterLabel.history_concat,
              List.forall_mem_append]
            refine ⟨earlier, fun event isEvent value effect => ?_⟩
            obtain ⟨sent, attempt, isStage, rfl⟩ :=
              Server.performed_effect performs (Option.mem_toList.mp isEvent)
                effect
            have follows := ServerRun.follows positive before found
            rw [isStage] at follows
            have own :=
              step.forall_requests textual turning
                (List.mem_of_getElem? found)
            exact (own sent follows.2.1).2

/-- The texts a thread has in its hands are well-formed. -/
def Stage.Speaks (request : HttpRequest) : Stage → Prop
  | .executing sent (.called _ result) =>
      WellFormedJson (sent.response result).body
  | .executing _ (.answered response) => WellFormedJson response.body
  | .reporting shards => ∀ text ∈ shards, IsDocument text
  | .finishing response =>
      request.path ≠ bytes "/metrics" → WellFormedJson response.body
  | .recording _ response =>
      request.path ≠ bytes "/metrics" → WellFormedJson response.body
  | .answered response =>
      request.path ≠ bytes "/metrics" → WellFormedJson response.body
  | _ => True

theorem Turns.speaks
    {input : TurnInput} {request : HttpRequest} {started : Int}
    {stage stage' : Stage} {counting counting' : List Counter}
    {server : Server shardCount replicaCount} (positive : 0 < replicaCount)
    (run : ServerRun settings labels state)
    (textual : ∀ thread ∈ state.threads, thread.request.Textual)
    (own : request.Textual)
    (follows :
      stage.Follows shardCount replicaCount settings.apiKey request)
    (speaks : stage.Speaks request)
    (turned :
      Turns state.server input request started stage counting stage'
        counting' server) :
    stage'.Speaks request := by
  have clusterRun := run.clusterRun positive
  cases turned with
  | count _ _ _ _ =>
      exact speaks
  | healthy _ =>
      exact fun _ =>
        literal_wellFormed "status" "ok" (by decide) (by decide) (by decide)
  | unauthorized _ _ =>
      exact fun _ => errorBody_wellFormed (by decide) (by decide)
  | limited _ =>
      exact fun _ => errorBody_wellFormed (by decide) (by decide)
  | respond response routed =>
      have each :
          ∀ error ∈ routeErrors,
            jsonEscape (bytes error.2) = bytes error.2 ∧
              (bytes error.2).all (fun byte => decide (IsAscii byte)) =
                true := by
        decide
      obtain ⟨error, member, rfl⟩ := route_respond routed
      obtain ⟨plain, ascii⟩ := each error member
      exact fun _ => errorBody_wellFormed plain ascii
  | ask sent =>
      unfold Gateway.askBreaker
      simp only
      split
      · trivial
      · exact circuitOpenResponse_wellFormed _
  | attempt sent attempt =>
      obtain ⟨_, routed, _⟩ := follows
      obtain ⟨result, returned, _⟩ := sent.call_returns positive clusterRun
      obtain ⟨key, _⟩ := own sent routed
      unfold Gateway.attempt
      simp only [returned]
      apply (sent.call_worded positive clusterRun returned).wellFormed key
      intro isGet isOk
      obtain ⟨event, member, effect⟩ :=
        sent.call_written positive clusterRun returned isGet isOk
      exact run.written_validUtf8 positive textual event member _ effect
  | record sent attempt result =>
      rcases state.server.gateway.record_progress input.now sent attempt
          result with
        answered | ⟨_, next, again⟩
      · rw [answered]
        exact speaks
      · rw [again]
        trivial
  | executed sent response =>
      exact fun _ => speaks
  | threw sent error =>
      obtain ⟨_, _, never⟩ := follows
      exact never.elim
  | administered action =>
      exact fun _ => action.response_wellFormed positive clusterRun
  | report shards inRange =>
      obtain ⟨_, _, _, operational, _⟩ :=
        clusterRun.operational positive ⟨shards.length, inRange⟩
      intro text member
      rcases List.mem_append.mp member with before | isNew
      · exact speaks text before
      · rw [List.mem_singleton.mp isNew]
        exact
          ⟨operational.statusJson_validUtf8, _, Shard.statusJson_derives _⟩
  | reported shards _ =>
      exact fun _ => clusterStatusJson_wellFormed shardCount speaks
  | scraped loaded _ =>
      exact fun otherPath => absurd follows otherPath
  | finish response =>
      exact speaks
  | recorded elapsed response =>
      exact speaks
  | _ =>
      first
        | trivial
        | exact List.forall_mem_nil _

theorem ServerRun.speaks
    (positive : 0 < replicaCount) (run : ServerRun settings labels state)
    (textual : ∀ thread ∈ state.threads, thread.request.Textual)
    {index : Nat} {thread : ServerThread}
    (found : state.threads[index]? = some thread) :
    thread.stage.Speaks thread.request := by
  induction run generalizing index thread with
  | initial started =>
      subst started
      cases found
  | @extend labels state next label before step inductionHypothesis =>
      have earlier := step.forall_requests textual
      rcases step.cases with
        ⟨request, now, _, rfl⟩ |
          ⟨_, _, turning, _, _, _, isTurning, turned, _, rfl⟩
      · rcases getElem?_concat_iff.mp found with old | ⟨rfl, rfl⟩
        · exact inductionHypothesis earlier old
        · trivial
      · rcases (getElem?_set_iff isTurning).mp found with
          ⟨rfl, rfl⟩ | ⟨_, old⟩
        · have own := earlier turning (List.mem_of_getElem? isTurning)
          have follows := ServerRun.follows positive before isTurning
          have speaks := inductionHypothesis earlier isTurning
          have next :=
            turned.speaks positive before earlier own follows speaks
          exact next
        · exact inductionHypothesis earlier old

/-- While the keys and values that clients send are UTF-8, every body but the page of
metrics is well-formed JSON. -/
theorem Server.bodies_wellFormed
    (positive : 0 < replicaCount) (run : ServerRun settings labels state)
    (textual : ∀ thread ∈ state.threads, thread.request.Textual)
    {index : Nat} {thread : ServerThread} {response : HttpResponse}
    (found : state.threads[index]? = some thread)
    (answered : thread.stage = .answered response)
    (otherPath : thread.request.path ≠ bytes "/metrics") :
    WellFormedJson response.body := by
  have speaks := run.speaks positive textual found
  rw [answered] at speaks
  exact speaks otherPath

/-- The operation the request asks for has ASCII texts. -/
def HttpRequest.sendsAscii (request : HttpRequest) : Bool :=
  match route request with
  | .execute sent =>
      (sent.key ++ sent.value).all fun byte => decide (IsAscii byte)
  | _ => true

theorem HttpRequest.textual_of_sendsAscii
    {request : HttpRequest} (ascii : request.sendsAscii = true) :
    request.Textual := by
  intro sent routed
  unfold sendsAscii at ascii
  rw [routed] at ascii
  obtain ⟨key, value⟩ := List.forall_mem_append.mp (isAscii_of_all ascii)
  exact ⟨validUtf8_of_ascii key, validUtf8_of_ascii value⟩

example :
    HttpRequest.sendsAscii (.bearing "s" "PUT" "/v1/kv/k" [255]) = false := by
  decide +kernel

/-- A value with quotation marks and a line end is written and read. -/
theorem Server.quoted_value_wellFormed :
    ∃ (labels : List ServerLabel) (state : ServerState 1 1)
      (thread : ServerThread) (response : HttpResponse),
      ServerRun ⟨bytes "s", 20, 40, 2⟩ labels state ∧
        state.threads[1]? = some thread ∧
        thread.stage = .answered response ∧ response.status = 200 ∧
        WellFormedJson response.body := by
  obtain ⟨labels, state, run, holds⟩ :=
    ServerRun.of_schedule ⟨bytes "s", 20, 40, 2⟩
      ([.request
          (.bearing "s" "PUT" "/v1/kv/k" (bytes "\"\n,\"value\":\"")) 0,
          .request (.bearing "s" "GET" "/v1/kv/k" []) 0] ++
        List.replicate 8 (.turn 0 {}) ++ List.replicate 8 (.turn 1 {}))
      (fun _ (state : ServerState 1 1) =>
        decide
          (state.threads[1]?.bind ServerThread.status = some 200 ∧
            state.threads[1]?.map (fun thread => thread.request.path) =
              some (bytes "/v1/kv/k") ∧
            state.threads.all (fun thread => thread.request.sendsAscii) =
              true))
      (by decide +kernel)
  obtain ⟨isStatus, isPath, ascii⟩ := of_decide_eq_true holds
  obtain ⟨thread, response, found, answered, isOk⟩ :=
    ServerThread.answered_of_status isStatus
  rw [found] at isPath
  have path : thread.request.path = bytes "/v1/kv/k" :=
    Option.some.inj isPath
  have textual : ∀ thread ∈ state.threads, thread.request.Textual :=
    fun thread member =>
      HttpRequest.textual_of_sendsAscii
        (List.all_eq_true.mp ascii thread member)
  exact
    ⟨labels, state, thread, response, run, found, answered, isOk,
      bodies_wellFormed (by decide) run textual found answered
        (by rw [path]; decide)⟩

end Bodies

end ShardedKvStore

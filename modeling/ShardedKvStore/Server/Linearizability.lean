import ShardedKvStore.Foundation.Linearizability
import ShardedKvStore.Server.Threads

/-!
# The store as its clients see it

Requests are under way at the same time, fail and are attempted again, replicas go
offline and come back.  To the clients the store is still one map: a request takes
effect in the one attempt that does not fail, and a request that is refused has no
effect.
-/

namespace ShardedKvStore

open Foundation

/-! ## The sequential store -/

/-- What a client reads of a response. -/
structure ClientAnswer where
  status : Nat
  body : Bytes
  deriving DecidableEq, Repr

def HttpResponse.answer (response : HttpResponse) : ClientAnswer where
  status := response.status
  body := response.body

/-- The map goes through a request. -/
inductive StoreStep (apiKey : Bytes) (map : Bytes → Option Bytes)
    (request : HttpRequest) : ClientAnswer → (Bytes → Option Bytes) → Prop
  | stored (sent : KvRequest) (result : OperationResult) :
      request.Trusted apiKey → route request = .execute sent →
      sent.operation = .put → result.ok = true → result.status = 201 →
      StoreStep apiKey map request (sent.response result).answer
        (Function.update map sent.key (some sent.value))
  | erased (sent : KvRequest) (result : OperationResult) :
      request.Trusted apiKey → route request = .execute sent →
      sent.operation = .delete → result.ok = true → result.status = 200 →
      StoreStep apiKey map request (sent.response result).answer
        (Function.update map sent.key none)
  | found (sent : KvRequest) (result : OperationResult) :
      request.Trusted apiKey → route request = .execute sent →
      sent.operation = .get → result.ok = true → result.status = 200 →
      map sent.key = some result.value →
      StoreStep apiKey map request (sent.response result).answer map
  | missing (sent : KvRequest) (result : OperationResult) :
      request.Trusted apiKey → route request = .execute sent →
      sent.operation = .get → result.ok = false → result.status = 404 →
      map sent.key = none →
      StoreStep apiKey map request (sent.response result).answer map
  | ineffective (answer : ClientAnswer) :
      (∀ sent, request.Trusted apiKey → route request = .execute sent →
        answer.status = 429 ∨ answer.status = 503) →
      StoreStep apiKey map request answer map

/-- The keys of the request have no NUL bytes. -/
def HttpRequest.PlainKey (request : HttpRequest) : Prop :=
  ∀ sent, route request = .execute sent → NulFree sent.key

instance (request : HttpRequest) : Decidable request.PlainKey :=
  match routed : route request with
  | .execute sent =>
      decidable_of_iff (NulFree sent.key)
        ⟨fun plain other same => by
          rw [routed] at same
          cases same
          exact plain,
        fun plain => plain sent routed⟩
  | .respond _ => isTrue fun _ same => by rw [routed] at same; cases same
  | .administer _ => isTrue fun _ same => by rw [routed] at same; cases same
  | .status => isTrue fun _ same => by rw [routed] at same; cases same

/-! ## Histories -/

/-- What the clients see of a step. -/
def ServerLabel.clientEvent :
    ServerLabel → Option (ClientEvent HttpRequest ClientAnswer)
  | .request index sent _ => some (.called index sent)
  | .turn taken =>
      match taken.next with
      | .answered response => some (.answered taken.index response.answer)
      | _ => none

/-- What the clients see of a run. -/
def clientHistory (labels : List ServerLabel) :
    List (ClientEvent HttpRequest ClientAnswer) :=
  labels.filterMap ServerLabel.clientEvent

theorem clientHistory_concat
    (labels : List ServerLabel) (label : ServerLabel) :
    clientHistory (labels ++ [label]) =
      clientHistory labels ++ label.clientEvent.toList :=
  filterMap_concat ServerLabel.clientEvent labels label

/-- The answer of a request that has taken effect. -/
def Stage.effect : Stage → Option ClientAnswer
  | .executing sent (.called _ result) =>
      if result.status < 500 then some (sent.response result).answer else none
  | .executing _ (.answered response) =>
      if response.status < 500 then some response.answer else none
  | .recording _ response => some response.answer
  | .answered response => some response.answer
  | _ => none

/-- Whether the request of a thread has its place in the order. -/
def Placed
    (order : List (AnsweredCall HttpRequest ClientAnswer)) (index : Nat)
    (thread : ServerThread) : Prop :=
  match thread.stage.effect with
  | some answer => ⟨index, thread.request, answer⟩ ∈ order
  | none => index ∉ order.map AnsweredCall.number

/-- The requests that have taken effect, in the order in which they did. -/
structure InOrder
    (apiKey : Bytes) (map : Bytes → Option Bytes)
    (history : List (ClientEvent HttpRequest ClientAnswer))
    (threads : List ServerThread)
    (order : List (AnsweredCall HttpRequest ClientAnswer)) : Prop where
  linearization :
    Linearization (StoreStep apiKey) (fun _ => none) history order map
  called :
    ∀ {index : Nat} {request : HttpRequest},
      .called index request ∈ history ↔
        ∃ thread, threads[index]? = some thread ∧ thread.request = request
  placed :
    ∀ {index : Nat} {thread : ServerThread},
      threads[index]? = some thread → Placed order index thread

namespace InOrder

variable {apiKey : Bytes} {map map' : Bytes → Option Bytes}
  {history : List (ClientEvent HttpRequest ClientAnswer)}
  {threads : List ServerThread}
  {order : List (AnsweredCall HttpRequest ClientAnswer)} {index : Nat}
  {thread : ServerThread} {stage : Stage} {counting : List Counter}
  {answer : ClientAnswer}

/-- The operations in the order are threads. -/
theorem lt_length
    (inOrder : InOrder apiKey map history threads order)
    {step : AnsweredCall HttpRequest ClientAnswer} (member : step ∈ order) :
    step.number < threads.length := by
  have isCalled := inOrder.linearization.called step member
  obtain ⟨_, found, _⟩ := inOrder.called.mp isCalled
  exact (List.getElem?_eq_some_iff.mp found).1

/-- A request arrives. -/
theorem receive
    (inOrder : InOrder apiKey map history threads order)
    (request : HttpRequest) (now : Int) :
    InOrder apiKey map
      (history ++ [.called threads.length request])
      (threads ++ [⟨request, now, .received, []⟩]) order := by
  have fresh : threads.length ∉ order.map AnsweredCall.number := by
    intro member
    obtain ⟨step, inside, isLength⟩ := List.mem_map.mp member
    exact absurd (inOrder.lt_length inside) (by rw [isLength]; exact lt_irrefl _)
  refine ⟨inOrder.linearization.extend_called fresh, ?_, ?_⟩
  · intro index other
    simp only [List.mem_append, List.mem_singleton, inOrder.called,
      getElem?_concat_iff]
    constructor
    · rintro (⟨thread, found, same⟩ | isNew)
      · exact ⟨thread, Or.inl found, same⟩
      · cases isNew
        exact ⟨_, Or.inr ⟨rfl, rfl⟩, rfl⟩
    · rintro ⟨thread, found | ⟨rfl, rfl⟩, rfl⟩
      · exact Or.inl ⟨thread, found, rfl⟩
      · exact Or.inr rfl
  · intro index thread found
    rcases getElem?_concat_iff.mp found with old | ⟨rfl, rfl⟩
    · exact inOrder.placed old
    · exact fresh

/-- The requests of the threads stay. -/
theorem called_set
    (inOrder : InOrder apiKey map history threads order)
    (found : threads[index]? = some thread)
    {history' : List (ClientEvent HttpRequest ClientAnswer)}
    (sameCalls :
      ∀ {number : Nat} {request : HttpRequest},
        ClientEvent.called number request ∈ history' ↔
          .called number request ∈ history)
    {number : Nat} {request : HttpRequest} :
    .called number request ∈ history' ↔
      ∃ other,
        (threads.set index
              { thread with stage := stage, counting := counting })[number]? =
            some other ∧
          other.request = request := by
  simp only [sameCalls, inOrder.called, getElem?_set_iff found]
  constructor
  · rintro ⟨other, isOther, rfl⟩
    by_cases same : number = index
    · rw [same, found] at isOther
      obtain rfl := Option.some.inj isOther
      exact ⟨_, Or.inl ⟨same, rfl⟩, rfl⟩
    · exact ⟨other, Or.inr ⟨same, isOther⟩, rfl⟩
  · rintro ⟨other, ⟨rfl, rfl⟩ | ⟨_, isOther⟩, rfl⟩
    · exact ⟨thread, found, rfl⟩
    · exact ⟨other, isOther, rfl⟩

/-- A turn in which a request takes no effect and is not answered. -/
theorem quiet
    (inOrder : InOrder apiKey map history threads order)
    (found : threads[index]? = some thread)
    (sameEffect : stage.effect = thread.stage.effect) :
    InOrder apiKey map history
      (threads.set index
        { thread with stage := stage, counting := counting })
      order where
  linearization := inOrder.linearization
  called := inOrder.called_set found Iff.rfl
  placed := fun isOther => by
    rcases (getElem?_set_iff found).mp isOther with
      ⟨rfl, rfl⟩ | ⟨_, found'⟩
    · have placed := inOrder.placed found
      unfold Placed at placed ⊢
      rw [sameEffect]
      exact placed
    · exact inOrder.placed found'

/-- A turn in which a request takes effect. -/
theorem takesEffect
    (inOrder : InOrder apiKey map history threads order)
    (found : threads[index]? = some thread)
    (notYet : thread.stage.effect = none)
    (effect : stage.effect = some answer)
    (step : StoreStep apiKey map thread.request answer map') :
    InOrder apiKey map' history
      (threads.set index
        { thread with stage := stage, counting := counting })
      (order ++ [⟨index, thread.request, answer⟩]) where
  linearization := by
    refine
      inOrder.linearization.extend_effect
        (inOrder.called.mpr ⟨thread, found, rfl⟩) ?_ step
    have placed := inOrder.placed found
    unfold Placed at placed
    rw [notYet] at placed
    exact placed
  called := inOrder.called_set found Iff.rfl
  placed := fun {other thread'} isOther => by
    rcases (getElem?_set_iff found).mp isOther with
      ⟨rfl, rfl⟩ | ⟨different, found'⟩
    · unfold Placed
      rw [effect]
      exact List.mem_concat_self
    · have placed := inOrder.placed found'
      unfold Placed at placed ⊢
      cases isEffect : thread'.stage.effect with
      | some answer =>
          rw [isEffect] at placed
          exact List.mem_append_left _ placed
      | none =>
          rw [isEffect] at placed
          simpa [different] using placed

/-- A turn in which a request that has taken effect is answered. -/
theorem answered
    (inOrder : InOrder apiKey map history threads order)
    (found : threads[index]? = some thread)
    (tookEffect : thread.stage.effect = some answer)
    (sameEffect : stage.effect = some answer) :
    InOrder apiKey map (history ++ [.answered index answer])
      (threads.set index
        { thread with stage := stage, counting := counting })
      order where
  linearization := by
    have placed := inOrder.placed found
    unfold Placed at placed
    rw [tookEffect] at placed
    exact inOrder.linearization.extend_answered placed
  called := inOrder.called_set found (by simp)
  placed := (inOrder.quiet found (sameEffect.trans tookEffect.symm)).placed

end InOrder

/-! ## Runs -/

section Runs

variable {shardCount replicaCount : Nat} [NeZero shardCount]

/-- A call of a request is a step of the map, or it has failed. -/
theorem KvRequest.storeStep
    {labels : List ClusterLabel}
    {cluster : Cluster shardCount replicaCount} {apiKey : Bytes}
    {request : HttpRequest} {sent : KvRequest} {result : OperationResult}
    (positive : 0 < replicaCount)
    (run : ClusterRun labels (.running cluster))
    (admissible : ∀ label ∈ labels, label.Admissible)
    (plainKey : NulFree sent.key) (trusted : request.Trusted apiKey)
    (routed : route request = .execute sent)
    (returned : (sent.call cluster).result = .ok result) :
    (result.status < 500 ∧
        StoreStep apiKey (mapAfter labels) request
          (sent.response result).answer
          (mapAfter
            (labels ++
              [.call sent.clusterOperation (.ok (.result result))]))) ∨
      500 ≤ result.status ∧
        mapAfter
            (labels ++
              [.call sent.clusterOperation (.ok (.result result))]) =
          mapAfter labels := by
  have plain : sent.clusterOperation.PlainKey := by
    unfold KvRequest.clusterOperation
    cases sent.operation <;> exact plainKey
  have answer :
      (sent.clusterOperation.call cluster).result =
        .ok (.result result) := by
    rw [sent.clusterOperation_apply, returned]
    rfl
  have step := run.mapStep_call positive admissible plain
  rw [answer] at step
  generalize
    mapAfter
      (labels ++ [.call sent.clusterOperation (.ok (.result result))]) =
    next at step ⊢
  obtain ⟨operation, key, value⟩ := sent
  cases operation with
  | get =>
      cases step with
      | found present isOk status =>
          exact
            Or.inl ⟨by omega, .found _ result trusted routed rfl isOk status present⟩
      | missing absent failed status =>
          exact
            Or.inl
              ⟨by omega, .missing _ result trusted routed rfl failed status absent⟩
      | notRead _ _ status =>
          exact Or.inr ⟨by omega, rfl⟩
  | put =>
      cases step with
      | stored _ isOk status =>
          exact
            Or.inl ⟨by omega, .stored _ result trusted routed rfl isOk status⟩
      | notStored _ _ status =>
          exact Or.inr ⟨by omega, rfl⟩
  | delete =>
      cases step with
      | erased _ isOk status =>
          exact
            Or.inl ⟨by omega, .erased _ result trusted routed rfl isOk status⟩
      | notErased _ _ status =>
          exact Or.inr ⟨by omega, rfl⟩

/-- The requests of a run have an order in which they took effect. -/
def Serial
    (settings : Settings) (labels : List ServerLabel)
    (threads : List ServerThread) : Prop :=
  (∀ label ∈ performedLabels labels, label.Admissible) ∧
    ∃ order,
      InOrder settings.apiKey (mapAfter (performedLabels labels))
        (clientHistory labels) threads order

namespace Serial

variable {settings : Settings} {labels : List ServerLabel}
  {threads : List ServerThread} {taken : Turn} {counting : List Counter}

/-- A turn that does nothing to the cluster. -/
private theorem silent
    (serial : Serial settings labels threads)
    (unperformed : taken.performed = none)
    (order :
      ∀ order,
        InOrder settings.apiKey (mapAfter (performedLabels labels))
          (clientHistory labels) threads order →
        ∃ order',
          InOrder settings.apiKey (mapAfter (performedLabels labels))
            (clientHistory (labels ++ [.turn taken]))
            (threads.set taken.index
              { taken.thread with
                stage := taken.next
                counting := counting })
            order') :
    Serial settings (labels ++ [.turn taken])
      (threads.set taken.index
        { taken.thread with stage := taken.next, counting := counting }) := by
  obtain ⟨admissible, before, inOrder⟩ := serial
  unfold Serial
  rw [performedLabels_concat, ServerLabel.performed, unperformed,
    Option.toList_none, List.append_nil]
  exact ⟨admissible, order before inOrder⟩

/-- A turn that no client sees. -/
private theorem quiet
    (serial : Serial settings labels threads)
    (found : threads[taken.index]? = some taken.thread)
    (unperformed : taken.performed = none)
    (unseen : (ServerLabel.turn taken).clientEvent = none)
    (sameEffect : taken.next.effect = taken.thread.stage.effect) :
    Serial settings (labels ++ [.turn taken])
      (threads.set taken.index
        { taken.thread with stage := taken.next, counting := counting }) := by
  refine serial.silent unperformed fun order inOrder => ⟨order, ?_⟩
  rw [clientHistory_concat, unseen, Option.toList_none, List.append_nil]
  exact inOrder.quiet found sameEffect

/-- A turn after which the answer of a thread is settled. -/
private theorem recorded
    (serial : Serial settings labels threads)
    (found : threads[taken.index]? = some taken.thread)
    (unperformed : taken.performed = none) {elapsed : Int}
    {response : HttpResponse}
    (isRecorded : taken.next = .recording elapsed response)
    (effect :
      taken.thread.stage.effect = some response.answer ∨
        taken.thread.stage.effect = none ∧
          ∀ sent, taken.thread.request.Trusted settings.apiKey →
            route taken.thread.request = .execute sent →
            response.status = 429 ∨ response.status = 503) :
    Serial settings (labels ++ [.turn taken])
      (threads.set taken.index
        { taken.thread with stage := taken.next, counting := counting }) := by
  have unseen : (ServerLabel.turn taken).clientEvent = none := by
    simp only [ServerLabel.clientEvent, isRecorded]
  have isEffect : taken.next.effect = some response.answer := by
    rw [isRecorded]
    rfl
  refine serial.silent unperformed fun order inOrder => ?_
  rw [clientHistory_concat, unseen, Option.toList_none, List.append_nil]
  rcases effect with tookEffect | ⟨notYet, ineffective⟩
  · exact ⟨_, inOrder.quiet found (isEffect.trans tookEffect.symm)⟩
  · exact
      ⟨_,
        inOrder.takesEffect found notYet isEffect
          (.ineffective _ ineffective)⟩

/-- A turn that answers a client. -/
private theorem answered
    (serial : Serial settings labels threads)
    (found : threads[taken.index]? = some taken.thread)
    (unperformed : taken.performed = none) {response : HttpResponse}
    (isAnswered : taken.next = .answered response)
    (tookEffect : taken.thread.stage.effect = some response.answer) :
    Serial settings (labels ++ [.turn taken])
      (threads.set taken.index
        { taken.thread with stage := taken.next, counting := counting }) := by
  have seen :
      (ServerLabel.turn taken).clientEvent =
        some (.answered taken.index response.answer) := by
    simp only [ServerLabel.clientEvent, isAnswered]
  have isEffect : taken.next.effect = some response.answer := by
    rw [isAnswered]
    rfl
  refine serial.silent unperformed fun order inOrder => ?_
  rw [clientHistory_concat, seen, Option.toList_some]
  exact ⟨_, inOrder.answered found tookEffect isEffect⟩

end Serial

private theorem KvRequest.Answers.status_eq
    {sent : KvRequest} {response : HttpResponse}
    (answers : sent.Answers shardCount response)
    (failed : ¬ response.status < 500) :
    response.status = 503 := by
  have member := answers.status_mem
  simp only [List.mem_cons, List.not_mem_nil, or_false] at member
  omega

/-- The call of an attempt fails, or it is where its request takes effect. -/
private theorem Serial.attempt
    {settings : Settings} {labels : List ServerLabel}
    {state : ServerState shardCount replicaCount} {index : Nat}
    {input : TurnInput} {request : HttpRequest} {started : Int}
    {sent : KvRequest} {attempt : UInt64} {counting : List Counter}
    (positive : 0 < replicaCount) (run : ServerRun settings labels state)
    (serial : Serial settings labels state.threads)
    (found :
      state.threads[index]? =
        some ⟨request, started, .executing sent (.attempting attempt), []⟩)
    (trusted : request.Trusted settings.apiKey)
    (routed : route request = .execute sent)
    (plainKey : NulFree sent.key) :
    Serial settings
      (labels ++
        [.turn
          { index := index
            input := input
            thread :=
              ⟨request, started, .executing sent (.attempting attempt), []⟩
            next :=
              .executing sent (state.server.gateway.attempt sent attempt).1
            performed :=
              state.server.performed
                (.executing sent (.attempting attempt)) [] }])
      (state.threads.set index
        ⟨request, started,
          .executing sent (state.server.gateway.attempt sent attempt).1,
          counting⟩) := by
  have clusterRun := run.clusterRun positive
  obtain ⟨result, returned, _⟩ := sent.call_returns positive clusterRun
  obtain ⟨admissible, order, inOrder⟩ := serial
  have next :
      (state.server.gateway.attempt sent attempt).1 =
        .called attempt result := by
    unfold Gateway.attempt
    simp only [returned]
  have performed :
      state.server.performed (.executing sent (.attempting attempt)) [] =
        some (.call sent.clusterOperation (.ok (.result result))) := by
    simp only [Server.performed, sent.clusterOperation_apply, returned]
    rfl
  have plain : sent.clusterOperation.PlainKey := by
    unfold KvRequest.clusterOperation
    cases sent.operation <;> exact plainKey
  unfold Serial
  rw [next, performed, performedLabels_concat, clientHistory_concat]
  simp only [ServerLabel.performed, ServerLabel.clientEvent,
    Option.toList_some, Option.toList_none, List.append_nil]
  refine ⟨forall_mem_concat_iff.mpr ⟨admissible, plain⟩, ?_⟩
  rcases KvRequest.storeStep positive clusterRun admissible plainKey trusted
      routed returned with
    ⟨succeeded, step⟩ | ⟨failed, sameMap⟩
  · exact ⟨_, inOrder.takesEffect found rfl (if_pos succeeded) step⟩
  · rw [sameMap]
    refine ⟨order, inOrder.quiet found ?_⟩
    exact if_neg (not_lt.mpr failed)

/-- An administrative call has no effect on the map. -/
private theorem Serial.administered
    {settings : Settings} {labels : List ServerLabel}
    {state : ServerState shardCount replicaCount} {index : Nat}
    {input : TurnInput} {request : HttpRequest} {started : Int}
    {action : AdminAction} {response : HttpResponse}
    {counting : List Counter}
    (serial : Serial settings labels state.threads)
    (found :
      state.threads[index]? =
        some ⟨request, started, .administering action, []⟩) :
    Serial settings
      (labels ++
        [.turn
          { index := index
            input := input
            thread := ⟨request, started, .administering action, []⟩
            next := .finishing response
            performed :=
              state.server.performed (.administering action) [] }])
      (state.threads.set index
        ⟨request, started, .finishing response, counting⟩) := by
  obtain ⟨admissible, order, inOrder⟩ := serial
  have noEvent (answer : Except KvError Response) :
      (ClusterLabel.call action.operation answer).event = none := by
    cases action <;> cases answer with
    | error _ => rfl
    | ok response => cases response <;> first | rfl | exact ite_self none
  have plain : action.operation.PlainKey := by
    cases action <;> trivial
  unfold Serial
  rw [performedLabels_concat, clientHistory_concat]
  simp only [ServerLabel.performed, Server.performed,
    ServerLabel.clientEvent, Option.toList_some, Option.toList_none,
    List.append_nil, mapAfter_concat, noEvent, List.map_nil]
  exact
    ⟨forall_mem_concat_iff.mpr ⟨admissible, plain⟩, order,
      inOrder.quiet found rfl⟩

/-- A turn keeps the order, or puts its request at the end. -/
private theorem Serial.turn
    {settings : Settings} {labels : List ServerLabel}
    {state : ServerState shardCount replicaCount} {index : Nat}
    {input : TurnInput} {thread : ServerThread} {stage : Stage}
    {counting : List Counter} {server : Server shardCount replicaCount}
    (positive : 0 < replicaCount) (run : ServerRun settings labels state)
    (serial : Serial settings labels state.threads)
    (found : state.threads[index]? = some thread)
    (plainKey : thread.request.PlainKey)
    (turned :
      Turns state.server input thread.request thread.started thread.stage
        thread.counting stage counting server) :
    Serial settings
      (labels ++
        [.turn
          { index := index
            input := input
            thread := thread
            next := stage
            performed :=
              state.server.performed thread.stage thread.counting }])
      (state.threads.set index
        { thread with stage := stage, counting := counting }) := by
  have follows :=
    ServerRun.follows positive run found
  obtain ⟨request, started, before, pending⟩ := thread
  cases turned with
  | count _ counter rest active =>
      refine serial.quiet found rfl ?_ rfl
      cases before with
      | answered response =>
          exact active.elim
      | _ =>
          rfl
  | attempt sent attempt =>
      obtain ⟨trusted, routed, _⟩ := follows
      exact
        serial.attempt positive run found trusted routed
          (plainKey sent routed)
  | ask sent =>
      refine serial.quiet found rfl rfl ?_
      rcases state.server.gateway.askBreaker_progress input.now sent with
        asked | ⟨response, refused, status⟩
      · simp only [asked, Stage.effect]
      · simp [refused, Stage.effect, status]
  | record sent attempt result =>
      refine serial.quiet found rfl rfl ?_
      rcases state.server.gateway.record_progress input.now sent attempt
          result with
        answered | ⟨failed, _, again⟩
      · simp only [answered, Stage.effect]
        rfl
      · simp [again, Stage.effect, failed]
  | executed sent response =>
      obtain ⟨_, _, answers⟩ := follows
      refine serial.recorded found rfl rfl ?_
      by_cases succeeded : response.status < 500
      · exact Or.inl (if_pos succeeded)
      · refine Or.inr ⟨if_neg succeeded, fun _ _ _ => Or.inr ?_⟩
        exact answers.status_eq succeeded
  | threw sent error =>
      obtain ⟨_, _, never⟩ := follows
      exact never.elim
  | administered action =>
      exact serial.administered found
  | finish response =>
      have replies :
          Replies shardCount replicaCount settings.apiKey request response :=
        follows
      refine serial.recorded found rfl rfl (Or.inr ⟨rfl, ?_⟩)
      intro sent trusted routed
      rw [replies.eq_rateLimited trusted routed]
      exact Or.inl rfl
  | recorded elapsed response =>
      exact serial.answered found rfl rfl rfl
  | _ =>
      exact serial.quiet found rfl rfl rfl

/-- Every run has an order in which its requests took effect. -/
theorem ServerRun.serial
    {settings : Settings} {labels : List ServerLabel}
    {state : ServerState shardCount replicaCount}
    (positive : 0 < replicaCount) (run : ServerRun settings labels state)
    (plainKeys : ∀ thread ∈ state.threads, thread.request.PlainKey) :
    Serial settings labels state.threads := by
  induction run with
  | initial started =>
      subst started
      exact
        ⟨List.forall_mem_singleton.mpr trivial, [], .empty,
          by simp [clientHistory, ServerState.initial], nofun⟩
  | extend earlier step inductionHypothesis =>
      have earlierKeys := step.forall_requests plainKeys
      have serial := inductionHypothesis earlierKeys
      rcases step.cases with
        ⟨request, now, rfl, rfl⟩ |
          ⟨index, input, thread, _, _, _, found, turned, rfl, rfl⟩
      · obtain ⟨admissible, order, inOrder⟩ := serial
        unfold Serial
        rw [performedLabels_concat, clientHistory_concat]
        exact
          ⟨by simpa [ServerLabel.performed] using admissible, order,
            by
              simpa [ServerLabel.performed, ServerLabel.clientEvent,
                ServerState.receive] using inOrder.receive request now⟩
      · exact
          Serial.turn positive earlier serial found
            (earlierKeys thread (List.mem_of_getElem? found)) turned

end Runs

end ShardedKvStore

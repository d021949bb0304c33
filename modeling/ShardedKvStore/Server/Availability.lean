import ShardedKvStore.Server.Counting

/-!
# A server whose shards have majorities

While every shard has a majority online, every call of the cluster succeeds.  So
the breakers never see a failure, no request is retried, and no operation on the
store is refused.
-/

namespace ShardedKvStore

open Foundation

section Availability

variable {shardCount replicaCount : Nat} [NeZero shardCount]

/-! ## Calls -/

/-- Every shard has a majority online. -/
def Cluster.HasMajorities
    (cluster : Cluster shardCount replicaCount) : Prop :=
  ∀ shard, (cluster.shards shard).HasQuorum

instance (cluster : Cluster shardCount replicaCount) :
    Decidable cluster.HasMajorities :=
  inferInstanceAs (Decidable (∀ _, majority _ ≤ tally _))

/-- With a majority online a call does not fail. -/
theorem ServerRun.call_succeeds
    {settings : Settings} {labels : List ServerLabel}
    {state : ServerState shardCount replicaCount}
    (positive : 0 < replicaCount) (run : ServerRun settings labels state)
    (majorities : state.server.gateway.cluster.HasMajorities)
    (sent : KvRequest) :
    ∃ result,
      (sent.call state.server.gateway.cluster).result = .ok result ∧
        result.status < 500 := by
  obtain ⟨_, _, _, clean⟩ :=
    run.cleanState positive (Cluster.shardForKey sent.key)
  have accepts := clean.accepts_iff.mpr (majorities _)
  obtain ⟨_, _, result, returned, answers⟩ :=
    sent.call_answers positive (run.clusterRun positive)
  refine ⟨result, returned, ?_⟩
  have notRefused {command key value : Bytes} {agreed agreed' : List LogEntry}
      (answer :
        Shard.WriteAnswer command key value
          (state.server.gateway.cluster.shards
            (Cluster.shardForKey sent.key))
          agreed result agreed') :
      result.status < 500 := by
    cases answer with
    | stored _ _ _ _ status =>
        rw [status]
        split <;> decide
    | rejected refuses _ _ =>
        exact absurd accepts refuses
  obtain ⟨operation, key, value⟩ := sent
  cases operation with
  | get =>
      cases answers with
      | get answer =>
          cases answer with
          | unavailable refuses _ _ =>
              exact absurd (Or.inr accepts.1) refuses
          | missing _ _ _ _ status =>
              rw [status]
              decide
          | found _ _ _ _ status _ =>
              rw [status]
              decide
  | put =>
      cases answers with
      | put answer =>
          exact notRefused answer
  | delete =>
      cases answers with
      | erase answer =>
          exact notRefused answer

/-- With a majority online an election succeeds on every shard there is. -/
theorem ServerRun.elect_succeeds
    {settings : Settings} {labels : List ServerLabel}
    {state : ServerState shardCount replicaCount}
    (positive : 0 < replicaCount) (run : ServerRun settings labels state)
    (majorities : state.server.gateway.cluster.HasMajorities)
    {shardId : Nat} (inRange : shardId < shardCount) :
    (Cluster.elect shardId state.server.gateway.cluster).result =
      .ok true := by
  obtain ⟨_, _, elections, clean⟩ :=
    run.cleanState positive ⟨shardId, inRange⟩
  obtain ⟨_, _, _, _, _, prepared⟩ :=
    clean.1.1.prepared clean.1.2.1 (Or.inr (majorities ⟨shardId, inRange⟩))
  unfold Cluster.elect Cluster.onNumber
  rw [dif_pos inRange]
  unfold Cluster.onShard Shard.electLeader
  rw [prepared.runs]

/-! ## Turns -/

/-- No breaker has counted a failure, and nothing was retried or refused. -/
structure Gateway.Calm (gateway : Gateway shardCount replicaCount) :
    Prop where
  closed : ∀ shard, (gateway.breakers shard).state = .closed
  noFailures : ∀ shard, (gateway.breakers shard).consecutiveFailures = 0
  metrics : gateway.metrics = {}

omit [NeZero shardCount] in
theorem Gateway.Calm.set
    {gateway : Gateway shardCount replicaCount} (calm : gateway.Calm)
    (shard : Fin shardCount) {breaker : CircuitBreaker}
    (closed : breaker.state = .closed)
    (noFailures : breaker.consecutiveFailures = 0) :
    { gateway with
      breakers :=
        Function.update gateway.breakers shard breaker }.Calm where
  closed := by
    intro other
    by_cases same : other = shard
    · subst same
      simpa using closed
    · simpa [same] using calm.closed other
  noFailures := by
    intro other
    by_cases same : other = shard
    · subst same
      simpa using noFailures
    · simpa [same] using calm.noFailures other
  metrics := calm.metrics

/-- The gateway is calm, and no failure was counted. -/
structure Server.Calm (server : Server shardCount replicaCount) : Prop where
  gateway : server.gateway.Calm
  counters : ∀ counter ∈ Counter.ofGateway, server.counters counter = 0

/-- No failure is to be counted. -/
def Quiet (counting : List Counter) : Prop :=
  ∀ counter ∈ counting, counter ∉ Counter.ofGateway

private theorem quiet_nil : Quiet [] := by
  rintro _ ⟨⟩

omit [NeZero shardCount] in
/-- Nothing is added for a step that leaves the gateway calm. -/
private theorem Gateway.Calm.quiet
    {gateway gateway' : Gateway shardCount replicaCount}
    (calm : gateway.Calm) (staysCalm : gateway'.Calm) :
    Quiet (gateway.metrics.additions gateway'.metrics) := by
  rw [calm.metrics, staysCalm.metrics, Metrics.additions_self]
  exact quiet_nil

/-- Only elections are added for a call of the cluster. -/
private theorem quiet_additions
    {settings : Settings} {labels : List ServerLabel}
    {state : ServerState shardCount replicaCount}
    (positive : 0 < replicaCount) (run : ServerRun settings labels state)
    (operation : ClusterOperation) :
    Quiet (operation.additions state.server.gateway.cluster) := by
  rcases run.additions_eq positive operation with none | one
  · rw [none]
    exact quiet_nil
  · rw [one]
    unfold Quiet
    decide

/-- The breakers of a calm gateway let requests through. -/
private theorem Gateway.Calm.askBreaker
    {gateway : Gateway shardCount replicaCount} (calm : gateway.Calm)
    (now : Int) (sent : KvRequest) :
    (gateway.askBreaker now sent).1 = .attempting 0 ∧
      (gateway.askBreaker now sent).2.Calm := by
  have allows :
      (gateway.breakers (Cluster.shardForKey sent.key)).allowRequest now =
        (true, gateway.breakers (Cluster.shardForKey sent.key)) := by
    unfold CircuitBreaker.allowRequest
    rw [calm.closed]
  unfold Gateway.askBreaker
  simp only [allows, if_true]
  exact ⟨trivial, calm.set _ (calm.closed _) (calm.noFailures _)⟩

/-- A success ends the loop and leaves the gateway calm. -/
private theorem Gateway.Calm.record
    {gateway : Gateway shardCount replicaCount} (calm : gateway.Calm)
    (now : Int) (sent : KvRequest) (attempt : UInt64)
    {result : OperationResult} (succeeded : result.status < 500) :
    (gateway.record now sent attempt result).1 =
        .answered (sent.response result) ∧
      (gateway.record now sent attempt result).2.Calm := by
  unfold Gateway.record
  simp only [if_pos succeeded, Gateway.finish]
  rw [if_neg (not_le.mpr succeeded)]
  exact ⟨trivial, calm.set _ rfl rfl⟩

/-- The request asks for an election on a shard that does not exist. -/
def HttpRequest.ElectsNoShard
    (shardCount : Nat) (request : HttpRequest) : Prop :=
  ∃ shardId,
    shardCount ≤ shardId ∧ route request = .administer (.elect shardId)

/-- The response is not a failure of the server. -/
def HttpResponse.Serves
    (shardCount : Nat) (request : HttpRequest) (response : HttpResponse) :
    Prop :=
  response.status < 500 ∨ request.ElectsNoShard shardCount

/-- The thread has met no failure of the server. -/
def Stage.Served (shardCount : Nat) (request : HttpRequest) : Stage → Prop
  | .executing _ (.called _ result) => result.status < 500
  | .executing _ (.answered response) => response.status < 500
  | .executing _ (.threw _) => False
  | .administering action => route request = .administer action
  | .finishing response => response.Serves shardCount request
  | .recording _ response => response.Serves shardCount request
  | .answered response => response.Serves shardCount request
  | _ => True

omit [NeZero shardCount] in
/-- Only an election is answered with a failure of the server. -/
private theorem AdminAction.serves
    {request : HttpRequest} {action : AdminAction}
    (routed : route request = .administer action)
    {answer : Except KvError Bool}
    (elects :
      ∀ shardId, action = .elect shardId → shardId < shardCount →
        answer = .ok true) :
    (action.response answer).Serves shardCount request := by
  cases action with
  | fail shardId replica =>
      left
      rcases answer with _ | (_ | _) <;>
        simp [AdminAction.response, AdminAction.actedResponse, jsonResponse]
  | recover shardId replica =>
      left
      rcases answer with _ | (_ | _) <;>
        simp [AdminAction.response, AdminAction.actedResponse, jsonResponse]
  | elect shardId =>
      by_cases inRange : shardId < shardCount
      · left
        rw [elects shardId rfl inRange]
        simp [AdminAction.response, jsonResponse]
      · exact Or.inr ⟨shardId, not_lt.mp inRange, routed⟩

/-- A turn meets no failure while the shards have majorities. -/
private theorem Turns.served
    {settings : Settings} {labels : List ServerLabel}
    {state : ServerState shardCount replicaCount} {input : TurnInput}
    {request : HttpRequest} {started : Int} {stage stage' : Stage}
    {counting counting' : List Counter}
    {server : Server shardCount replicaCount}
    (positive : 0 < replicaCount) (run : ServerRun settings labels state)
    (majorities : state.server.gateway.cluster.HasMajorities)
    (calm : state.server.gateway.Calm)
    (served : stage.Served shardCount request) (quiet : Quiet counting)
    (turned :
      Turns state.server input request started stage counting stage'
        counting' server) :
    server.gateway.Calm ∧ stage'.Served shardCount request ∧
      Quiet counting' := by
  cases turned with
  | count _ counter rest _ =>
      exact
        ⟨calm, served,
          fun later member => quiet later (List.mem_cons_of_mem _ member)⟩
  | healthy _ =>
      exact ⟨calm, Or.inl (by decide), quiet_nil⟩
  | unauthorized _ _ =>
      exact ⟨calm, Or.inl (by decide), quiet_nil⟩
  | limited _ =>
      refine ⟨calm, Or.inl (by decide), ?_⟩
      unfold Quiet
      decide
  | respond response routed =>
      have status := route_status_mem routed
      simp only [List.mem_cons, List.not_mem_nil, or_false] at status
      exact ⟨calm, Or.inl (by omega), quiet_nil⟩
  | administer action routed =>
      exact ⟨calm, routed, quiet_nil⟩
  | ask sent =>
      obtain ⟨allowed, staysCalm⟩ := calm.askBreaker input.now sent
      rw [allowed]
      exact ⟨staysCalm, trivial, calm.quiet staysCalm⟩
  | attempt sent attempt =>
      obtain ⟨result, returned, succeeded⟩ :=
        run.call_succeeds positive majorities sent
      have quietCall := quiet_additions positive run sent.clusterOperation
      unfold Gateway.attempt
      simp only [returned]
      exact
        ⟨⟨calm.closed, calm.noFailures, calm.metrics⟩, succeeded, quietCall⟩
  | record sent attempt result =>
      obtain ⟨answered, staysCalm⟩ :=
        calm.record input.now sent attempt served
      rw [answered]
      exact ⟨staysCalm, served, calm.quiet staysCalm⟩
  | executed sent response =>
      exact ⟨calm, Or.inl served, quiet_nil⟩
  | threw sent error =>
      exact served.elim
  | administered action =>
      refine
        ⟨⟨calm.closed, calm.noFailures, calm.metrics⟩,
          AdminAction.serves served ?_,
          quiet_additions positive run action.operation⟩
      rintro shardId rfl inRange
      exact run.elect_succeeds positive majorities inRange
  | reported shards _ =>
      exact ⟨calm, Or.inl (by simp [jsonResponse]), quiet_nil⟩
  | scraped loaded _ =>
      exact ⟨calm, Or.inl (by simp [metricsResponse]), quiet_nil⟩
  | finish response =>
      exact ⟨calm, served, quiet_nil⟩
  | recorded elapsed response =>
      exact ⟨calm, served, quiet_nil⟩
  | _ =>
      exact ⟨calm, trivial, quiet_nil⟩

/-- The runs in which every shard always has a majority online. -/
abbrev MajorityRun (settings : Settings) :
    List ServerLabel → ServerState shardCount replicaCount → Prop :=
  RunWithin
    (fun state => state.server.gateway.cluster.HasMajorities)
    (fun state =>
      state = ServerState.initial shardCount replicaCount settings)
    ServerStep

/-- The shards have majorities after every step of the schedule. -/
def ServerState.keepsMajorities :
    List Scheduled → ServerState shardCount replicaCount → Bool
  | [], _ => true
  | scheduled :: rest, state =>
      match state.take scheduled with
      | none => false
      | some (_, next) =>
          decide next.server.gateway.cluster.HasMajorities &&
            next.keepsMajorities rest

theorem MajorityRun.follow
    {settings : Settings} {schedule : List Scheduled}
    {labels labels' : List ServerLabel}
    {state next : ServerState shardCount replicaCount}
    (run : MajorityRun settings labels state)
    (keeps : state.keepsMajorities schedule = true)
    (follows : state.follow schedule = some (labels', next)) :
    MajorityRun settings (labels ++ labels') next := by
  induction schedule generalizing labels labels' state with
  | nil =>
      cases follows
      rw [List.append_nil]
      exact run
  | cons scheduled rest inductionHypothesis =>
      obtain ⟨⟨label, between⟩, taken, continued⟩ :=
        Option.bind_eq_some_iff.mp follows
      obtain ⟨⟨labels', last⟩, followed, same⟩ :=
        Option.bind_eq_some_iff.mp continued
      cases same
      unfold ServerState.keepsMajorities at keeps
      rw [taken, Bool.and_eq_true, decide_eq_true_eq] at keeps
      have extended :=
        inductionHypothesis
          (run.extend ⟨ServerState.take_step taken, keeps.1⟩) keeps.2
          followed
      rw [List.append_assoc] at extended
      exact extended

end Availability

end ShardedKvStore

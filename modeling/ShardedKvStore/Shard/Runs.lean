import ShardedKvStore.Shard.Lifecycle

/-!
# Runs of a shard

A run starts from empty databases and alternates between a stopped and a running
process.  The process may stop between operations, or crash after any statement
of an operation or of the constructor; the next start works on the files that
are left.

`Transition` describes a step by the agreed logs before and after it.  Every step
from a state that agrees on a log is a transition to a state that agrees on one
(`ShardStep.transition`), so invariants of runs are proved on transitions.
-/

namespace ShardedKvStore

open Foundation
open SqliteStore

/-- The public operations of a shard. -/
inductive Operation where
  | put (key value : Bytes)
  | erase (key : Bytes)
  | get (key : Bytes)
  | failReplica (replica : Bytes)
  | recoverReplica (replica : Bytes)
  | electLeader
  deriving DecidableEq, Repr

/-- What an operation returns. -/
inductive Response where
  | result (result : OperationResult)
  | flag (flag : Bool)
  deriving DecidableEq, Repr

namespace Operation

variable {count : Nat}

/-- Call an operation. -/
def call : Operation → ShardCall count Response
  | .put key value => do
      return .result (← Shard.put key value)
  | .erase key => do
      return .result (← Shard.erase key)
  | .get key => do
      return .result (← Shard.get key)
  | .failReplica replica => do
      return .flag (← Shard.failReplica replica)
  | .recoverReplica replica => do
      return .flag (← Shard.recoverReplica replica)
  | .electLeader => do
      return .flag (← Shard.electLeader)

/-- `put` and `erase`. -/
def IsWrite : Operation → Prop
  | .put _ _ => True
  | .erase _ => True
  | _ => False

/-- The rows an operation may append. -/
def Row : Operation → LogEntry → Prop
  | .put key value => Shard.Records putCommand key value
  | .erase key => Shard.Records deleteCommand key []
  | _ => Shard.NoRow

end Operation

namespace Shard

variable {count : Nat}

/-! ## States and steps -/

/-- A shard whose process is stopped or running.  `elections` are the terms of
the elections won so far, latest first. -/
inductive ShardState (count : Nat) where
  | stopped (durable : Durable count)
  | running (shard : Shard count) (elections : List Int)

/-- The steps of a run. -/
inductive ShardLabel where
  /-- the constructor runs on the files -/
  | start
  /-- the process crashes after `cut` events of the constructor -/
  | startCrash (cut : Nat)
  /-- an operation returns or throws -/
  | call (operation : Operation) (answer : Except KvError Response)
  /-- the process crashes after `cut` events of an operation -/
  | callCrash (operation : Operation) (cut : Nat)
  /-- the process stops between operations -/
  | stop

/-- A step without a crash. -/
def ShardLabel.Clean : ShardLabel → Prop
  | .startCrash _ => False
  | .callCrash _ _ => False
  | _ => True

/-- The state after the constructor has run. -/
def afterStart (shardId : Nat) (durable : Durable count) :
    ShardState count :=
  let outcome := construct shardId durable.files
  let left := durable.after outcome.journal
  match outcome.result with
  | .ok _ => .running outcome.state left.elections
  | .error _ => .stopped left

/-- The steps of a shard. -/
inductive ShardStep (shardId : Nat) :
    ShardState count → ShardLabel → ShardState count → Prop
  | start (durable : Durable count) :
      ShardStep shardId (.stopped durable) .start
        (afterStart shardId durable)
  | startCrash (durable : Durable count) (cut : Nat) :
      ShardStep shardId (.stopped durable) (.startCrash cut)
        (.stopped (durable.after
          ((construct shardId durable.files).journal.take cut)))
  | call (shard : Shard count) (elections : List Int)
      (operation : Operation) :
      ShardStep shardId (.running shard elections)
        (.call operation (operation.call shard).result)
        (.running (operation.call shard).state
          (Durable.after ⟨shard.files, elections⟩
            (operation.call shard).journal).elections)
  | callCrash (shard : Shard count) (elections : List Int)
      (operation : Operation) (cut : Nat) :
      ShardStep shardId (.running shard elections)
        (.callCrash operation cut)
        (.stopped (Durable.after ⟨shard.files, elections⟩
          ((operation.call shard).journal.take cut)))
  | stop (shard : Shard count) (elections : List Int) :
      ShardStep shardId (.running shard elections) .stop
        (.stopped ⟨shard.files, elections⟩)

/-- Every operation changes the databases by the events of its journal. -/
theorem journals_call (operation : Operation) :
    Journals (operation.call : ShardCall count Response) := by
  cases operation with
  | put key value =>
      exact mirrors_bind (journals_replicateCommand _ _ _) fun _ =>
        mirrors_pure _
  | erase key =>
      exact mirrors_bind (journals_replicateCommand _ _ _) fun _ =>
        mirrors_pure _
  | get key =>
      exact mirrors_bind (journals_get key) fun _ => mirrors_pure _
  | failReplica failed =>
      exact mirrors_bind (journals_failReplica failed) fun _ =>
        mirrors_pure _
  | recoverReplica wanted =>
      exact mirrors_bind (journals_recoverReplica wanted) fun _ =>
        mirrors_pure _
  | electLeader =>
      exact mirrors_bind journals_ensureLeader fun _ => mirrors_pure _

/-- A crash behind the last event of an operation leaves what a stop after the
operation leaves. -/
theorem ShardStep.callCrash_behind
    {shardId cut : Nat} {shard : Shard count} {elections : List Int}
    {operation : Operation} {next : ShardState count}
    (step :
      ShardStep shardId (.running shard elections)
        (.callCrash operation cut) next)
    (behind : (operation.call shard).journal.length ≤ cut) :
    ∃ answer returned,
      ShardStep shardId (.running shard elections)
          (.call operation answer) returned ∧
        ShardStep shardId returned .stop next := by
  cases step with
  | callCrash =>
      refine ⟨_, _, .call shard elections operation, ?_⟩
      have files :
          (operation.call shard).state.files =
            (Durable.after ⟨shard.files, elections⟩
              (operation.call shard).journal).files := by
        rw [Durable.after_files]
        exact journals_call operation shard
      rw [List.take_of_length_le behind]
      have stopped :=
        @ShardStep.stop count shardId (operation.call shard).state
          (Durable.after ⟨shard.files, elections⟩
            (operation.call shard).journal).elections
      rw [files] at stopped
      exact stopped

/-- The same for a crash of a constructor that returns. -/
theorem ShardStep.startCrash_behind
    {shardId cut : Nat} {durable : Durable count}
    {next : ShardState count}
    (step :
      ShardStep shardId (.stopped durable) (.startCrash cut) next)
    (returns : (construct shardId durable.files).result = .ok ())
    (behind : (construct shardId durable.files).journal.length ≤ cut) :
    ∃ started,
      ShardStep shardId (.stopped durable) .start started ∧
        ShardStep shardId started .stop next := by
  cases step with
  | startCrash =>
      refine ⟨_, .start durable, ?_⟩
      have files :
          (construct shardId durable.files).state.files =
            (durable.after
              (construct shardId durable.files).journal).files := by
        rw [Durable.after_files]
        exact journals_constructor (opened shardId durable.files)
      rw [List.take_of_length_le behind]
      unfold afterStart
      simp only [returns]
      have stopped :=
        @ShardStep.stop count shardId
          (construct shardId durable.files).state
          (durable.after
            (construct shardId durable.files).journal).elections
      rw [files] at stopped
      exact stopped

/-- The files before the first start. -/
def emptyFiles : Durable count :=
  ⟨fun _ => SqliteStore.empty, []⟩

/-- The state before the first start. -/
def emptyState : ShardState count :=
  .stopped emptyFiles

/-- The runs of a shard from empty databases. -/
abbrev ShardRun (shardId : Nat) :
    List ShardLabel → ShardState count → Prop :=
  Run (fun state => state = emptyState) (ShardStep shardId)

namespace ShardState

/-- The databases of a state. -/
def files : ShardState count → Files count
  | .stopped durable => durable.files
  | .running shard _ => shard.files

/-- The contents of the databases of a state. -/
def contents (state : ShardState count) (position : Fin count) : Contents :=
  (state.files position).contents

/-- The terms of the elections won so far, latest first. -/
def elections : ShardState count → List Int
  | .stopped durable => durable.elections
  | .running _ elections => elections

end ShardState

/-! ## States that agree -/

/-- A state whose databases agree on a committed log. -/
def Agrees
    (shardId : Nat) (agreed : List LogEntry) (bound : Int) :
    ShardState count → Prop
  | .stopped durable => DurableAgree agreed bound durable
  | .running shard elections =>
      Operational agreed bound shard ∧
        DurableAgree agreed bound ⟨shard.files, elections⟩ ∧
        shard.shardId = shardId

theorem agrees_emptyState (positive : 0 < count) (shardId : Nat) :
    Agrees shardId [] 0 (emptyState : ShardState count) where
  files := filesAgree_empty positive
  ordered := List.Pairwise.nil
  notAbove := fun _ member => absurd member List.not_mem_nil

namespace Agrees

variable {shardId : Nat} {agreed : List LogEntry} {bound : Int}
  {state : ShardState count}

theorem durable (agrees : Agrees shardId agreed bound state) :
    DurableAgree agreed bound ⟨state.files, state.elections⟩ := by
  cases state with
  | stopped durable =>
      exact agrees
  | running shard elections =>
      exact agrees.2.1

theorem committed_prefix
    (agrees : Agrees shardId agreed bound state) (position : Fin count) :
    (state.contents position).committed <+: agreed :=
  (agrees.durable.files.each position).committed

end Agrees

/-- The answer to an operation and the agreed log it leaves. -/
inductive Answers (shard : Shard count) (agreed : List LogEntry) :
    Operation → Response → List LogEntry → Prop
  | put {key value : Bytes} {result : OperationResult}
      {agreed' : List LogEntry} :
      WriteAnswer putCommand key value shard agreed result agreed' →
      Answers shard agreed (.put key value) (.result result) agreed'
  | erase {key : Bytes} {result : OperationResult}
      {agreed' : List LogEntry} :
      WriteAnswer deleteCommand key [] shard agreed result agreed' →
      Answers shard agreed (.erase key) (.result result) agreed'
  | get {key : Bytes} {result : OperationResult} :
      GetAnswer key shard result →
      Answers shard agreed (.get key) (.result result) agreed
  | failReplica {replica : Bytes} {flag : Bool} :
      Answers shard agreed (.failReplica replica) (.flag flag) agreed
  | recoverReplica {replica : Bytes} {flag : Bool} :
      Answers shard agreed (.recoverReplica replica) (.flag flag) agreed
  | electLeader {flag : Bool} :
      Answers shard agreed .electLeader (.flag flag) agreed

/-- The specification of every operation. -/
theorem Operational.call_spec
    {agreed : List LogEntry} {bound : Int} {shard : Shard count}
    {elections : List Int}
    (operational : Operational agreed bound shard)
    (agree : DurableAgree agreed bound ⟨shard.files, elections⟩)
    (operation : Operation) :
    ∃ response journal agreed' bound' after elections',
      operation.call shard = ⟨.ok response, after, journal⟩ ∧
        Completed operation.Row agreed shard elections journal agreed'
          bound' after elections' ∧
        Answers shard agreed operation response agreed' := by
  cases operation with
  | put key value =>
      obtain ⟨result, journal, agreed', bound', after, elections', runs,
        completed, _, answer⟩ :=
        operational.write_spec agree (Or.inl rfl) key value
      refine ⟨.result result, journal, agreed', bound', after, elections',
        ?_, completed, .put answer⟩
      unfold Operation.call put
      simp only [Journaled.bind_apply, runs, Outcome.andThen_ok,
        Journaled.pure_apply, Outcome.prepend_mk, List.append_nil]
  | erase key =>
      obtain ⟨result, journal, agreed', bound', after, elections', runs,
        completed, _, answer⟩ :=
        operational.write_spec agree (Or.inr rfl) key []
      refine ⟨.result result, journal, agreed', bound', after, elections',
        ?_, completed, .erase answer⟩
      unfold Operation.call erase
      simp only [Journaled.bind_apply, runs, Outcome.andThen_ok,
        Journaled.pure_apply, Outcome.prepend_mk, List.append_nil]
  | get key =>
      obtain ⟨result, journal, bound', after, elections', runs,
        completed, _, answer⟩ := operational.get_spec agree key
      refine ⟨.result result, journal, agreed, bound', after, elections',
        ?_, completed, .get answer⟩
      unfold Operation.call
      simp only [Journaled.bind_apply, runs, Outcome.andThen_ok,
        Journaled.pure_apply, Outcome.prepend_mk, List.append_nil]
  | failReplica replica =>
      obtain ⟨answer, after, runs, completed⟩ :=
        operational.failReplica_spec agree replica
      refine ⟨.flag answer, [], agreed, bound, after, elections, ?_,
        completed, .failReplica⟩
      unfold Operation.call
      simp only [Journaled.bind_apply, runs, Outcome.andThen_ok,
        Journaled.pure_apply, Outcome.prepend_mk, List.append_nil]
  | recoverReplica replica =>
      obtain ⟨answer, journal, bound', after, elections', runs,
        completed⟩ := operational.recoverReplica_spec agree replica
      refine ⟨.flag answer, journal, agreed, bound', after, elections', ?_,
        completed, .recoverReplica⟩
      unfold Operation.call
      simp only [Journaled.bind_apply, runs, Outcome.andThen_ok,
        Journaled.pure_apply, Outcome.prepend_mk, List.append_nil]
  | electLeader =>
      obtain ⟨answer, journal, bound', after, elections', runs,
        completed, _⟩ := operational.electLeader_spec agree
      refine ⟨.flag answer, journal, agreed, bound', after, elections', ?_,
        completed, .electLeader⟩
      unfold Operation.call
      simp only [Journaled.bind_apply, runs, Outcome.andThen_ok,
        Journaled.pure_apply, Outcome.prepend_mk, List.append_nil]

/-! ## Transitions -/

/-- A step of a shard, described by the agreed logs before and after it. -/
inductive Transition (agreed : List LogEntry) :
    ShardState count → ShardLabel → List LogEntry → ShardState count → Prop
  | start {durable : Durable count} {journal : List (ShardEvent count)}
      {bound : Int} {after : Shard count} {elections : List Int} :
      Started agreed durable journal bound after elections →
      Transition agreed (.stopped durable) .start agreed
        (.running after elections)
  | startCrash {durable after : Durable count} {cut : Nat}
      {agreed' : List LogEntry} :
      agreed <+: agreed' →
      (∀ position,
        (after.files position).committed = agreed' →
          Contents.Touched NoRow False agreed
            (durable.files position).contents
            (after.files position).contents) →
      Transition agreed (.stopped durable) (.startCrash cut) agreed'
        (.stopped after)
  | call {shard after : Shard count} {elections elections' : List Int}
      {journal : List (ShardEvent count)} {operation : Operation}
      {response : Response} {agreed' : List LogEntry} {bound' : Int} :
      Completed operation.Row agreed shard elections journal agreed' bound'
        after elections' →
      Answers shard agreed operation response agreed' →
      Transition agreed (.running shard elections)
        (.call operation (.ok response)) agreed'
        (.running after elections')
  | callCrash {shard : Shard count} {elections : List Int}
      {after : Durable count} {operation : Operation} {cut : Nat}
      {agreed' : List LogEntry} :
      agreed <+: agreed' →
      (∀ position,
        (after.files position).committed = agreed' →
          Contents.Touched operation.Row
            (shard.tornCommit
              ((operation.call shard).journal.take cut) = true)
            agreed (shard.contents position)
            (after.files position).contents) →
      Transition agreed (.running shard elections)
        (.callCrash operation cut) agreed' (.stopped after)
  | stop {shard : Shard count} {elections : List Int} :
      Transition agreed (.running shard elections) .stop agreed
        (.stopped ⟨shard.files, elections⟩)

/-- Every step from a state that agrees is a transition to one that agrees. -/
theorem ShardStep.transition
    {shardId : Nat} {agreed : List LogEntry} {bound : Int}
    {state next : ShardState count} {label : ShardLabel}
    (positive : 0 < count)
    (step : ShardStep shardId state label next)
    (agrees : Agrees shardId agreed bound state) :
    ∃ agreed' bound',
      Transition agreed state label agreed' next ∧
        Agrees shardId agreed' bound' next := by
  cases step with
  | start durable =>
      obtain ⟨files, elections⟩ := durable
      obtain ⟨journal, bound', after, runs, isShard, started⟩ :=
        DurableAgree.construct_spec agrees positive shardId
      have next :
          afterStart shardId ⟨files, elections⟩ =
            .running after (bound' :: elections) := by
        unfold afterStart
        simp only [runs, started.durable]
      rw [next]
      refine ⟨agreed, bound', .start started, started.operational,
        started.agree, isShard⟩
  | startCrash durable cut =>
      obtain ⟨files, elections⟩ := durable
      obtain ⟨journal, bound', after, runs, isShard, started⟩ :=
        DurableAgree.construct_spec agrees positive shardId
      obtain ⟨agreed', bound'', agree, grows, holders⟩ :=
        started.crash cut
      simp only [runs]
      exact ⟨agreed', bound'', .startCrash grows holders, agree⟩
  | call shard elections operation =>
      obtain ⟨operational, agree, isShard⟩ := agrees
      obtain ⟨response, journal, agreed', bound', after, elections', runs,
        completed, answers⟩ := operational.call_spec agree operation
      simp only [runs, completed.durable]
      exact ⟨agreed', bound', .call completed answers,
        completed.operational, completed.agree,
        completed.shardId.trans isShard⟩
  | callCrash shard elections operation cut =>
      obtain ⟨operational, agree, isShard⟩ := agrees
      obtain ⟨response, journal, agreed', bound', after, elections', runs,
        completed, answers⟩ := operational.call_spec agree operation
      obtain ⟨agreed'', bound'', agree'', grows, holders⟩ :=
        completed.crash cut
      refine ⟨agreed'', bound'', .callCrash grows ?_, ?_⟩
      · simp only [runs]
        exact holders
      · simp only [runs]
        exact agree''
  | stop shard elections =>
      obtain ⟨operational, agree, isShard⟩ := agrees
      exact ⟨agreed, bound, .stop, agree⟩

/-! ## Runs -/

/-- The shard the constructor leaves on the given files. -/
def restarted (shardId : Nat) (durable : Durable count) : Shard count :=
  (construct shardId durable.files).state

/-- The elections won once the constructor has run. -/
def restartedElections (shardId : Nat) (durable : Durable count) :
    List Int :=
  (durable.after (construct shardId durable.files).journal).elections

theorem ShardStep.restart
    {shardId : Nat} {durable : Durable count}
    (returns : (construct shardId durable.files).result = .ok ()) :
    ShardStep shardId (.stopped durable) .start
      (.running (restarted shardId durable)
        (restartedElections shardId durable)) := by
  have next :
      afterStart shardId durable =
        .running (restarted shardId durable)
          (restartedElections shardId durable) := by
    unfold afterStart restarted restartedElections
    simp only [returns]
  rw [← next]
  exact .start durable

/-- The induction rule for runs whose steps are steps of a shard: what is to be
kept may speak about the agreed log. -/
theorem run_agrees
    {shardId : Nat} {start : ShardState count → Prop}
    {step : ShardState count → ShardLabel → ShardState count → Prop}
    (Holds : List ShardLabel → List LogEntry → ShardState count → Prop)
    (positive : 0 < count)
    (steps :
      ∀ {state label next},
        step state label next → ShardStep shardId state label next)
    (atStart :
      ∀ {state}, start state →
        ∃ agreed bound,
          Agrees shardId agreed bound state ∧ Holds [] agreed state)
    (kept :
      ∀ {labels agreed bound state label agreed' bound' next},
        Agrees shardId agreed bound state → Holds labels agreed state →
          step state label next →
          Transition agreed state label agreed' next →
          Agrees shardId agreed' bound' next →
            Holds (labels ++ [label]) agreed' next)
    {labels : List ShardLabel} {state : ShardState count}
    (run : Run start step labels state) :
    ∃ agreed bound,
      Agrees shardId agreed bound state ∧ Holds labels agreed state := by
  induction run with
  | initial started =>
      exact atStart started
  | extend _ stepped inductionHypothesis =>
      obtain ⟨agreed, bound, agrees, holds⟩ := inductionHypothesis
      obtain ⟨agreed', bound', transition, agrees'⟩ :=
        (steps stepped).transition positive agrees
      exact ⟨agreed', bound', agrees',
        kept agrees holds stepped transition agrees'⟩

/-- The rule for runs from empty databases. -/
theorem shardRun_agrees
    {shardId : Nat}
    (Holds : List ShardLabel → List LogEntry → ShardState count → Prop)
    (positive : 0 < count) (atStart : Holds [] [] emptyState)
    (kept :
      ∀ {labels agreed bound state label agreed' bound' next},
        Agrees shardId agreed bound state → Holds labels agreed state →
          ShardStep shardId state label next →
          Transition agreed state label agreed' next →
          Agrees shardId agreed' bound' next →
            Holds (labels ++ [label]) agreed' next)
    {labels : List ShardLabel} {state : ShardState count}
    (run : ShardRun shardId labels state) :
    ∃ agreed bound,
      Agrees shardId agreed bound state ∧ Holds labels agreed state := by
  refine run_agrees Holds positive id ?_ kept run
  rintro state rfl
  exact ⟨[], 0, agrees_emptyState positive shardId, atStart⟩

theorem ShardRun.agrees
    {shardId : Nat} {labels : List ShardLabel} {state : ShardState count}
    (positive : 0 < count) (run : ShardRun shardId labels state) :
    ∃ agreed bound, Agrees shardId agreed bound state := by
  obtain ⟨agreed, bound, agrees, _⟩ :=
    shardRun_agrees (fun _ _ _ => True) positive trivial
      (fun _ _ _ _ _ => trivial) run
  exact ⟨agreed, bound, agrees⟩

/-! ## Restarts -/

/-- The constructor returns on whatever files a run leaves. -/
theorem ShardRun.restart
    {shardId : Nat} {labels : List ShardLabel} {durable : Durable count}
    (positive : 0 < count)
    (run : ShardRun shardId labels (.stopped durable)) :
    ShardRun shardId (labels ++ [.start])
      (.running (restarted shardId durable)
        (restartedElections shardId durable)) := by
  obtain ⟨agreed, bound, agrees⟩ := ShardRun.agrees positive run
  obtain ⟨journal, bound', after, runs, _⟩ :=
    DurableAgree.construct_spec agrees positive shardId
  refine run.extend (.restart ?_)
  rw [runs]

/-- A shard after its first start. -/
def begun (shardId count : Nat) : Shard count :=
  restarted shardId emptyFiles

/-- The elections won by the first start. -/
def begunElections (shardId count : Nat) : List Int :=
  restartedElections shardId (emptyFiles : Durable count)

theorem shardRun_begun (positive : 0 < count) (shardId : Nat) :
    ShardRun shardId [.start]
      (.running (begun shardId count) (begunElections shardId count)) := by
  have nothing : ShardRun shardId [] (emptyState : ShardState count) :=
    .initial rfl
  exact ShardRun.restart positive nothing

/-- The files after a crash of the first put of a shard of three replicas. -/
def crashedPut (cut : Nat) : Durable 3 :=
  Durable.after ⟨(begun 0 3).files, begunElections 0 3⟩
    (((Operation.put (bytes "k") (bytes "v")).call
      (begun 0 3)).journal.take cut)

theorem shardRun_crashedPut (cut : Nat) :
    ShardRun 0
      [.start, .callCrash (.put (bytes "k") (bytes "v")) cut, .start]
      (.running (restarted 0 (crashedPut cut))
        (restartedElections 0 (crashedPut cut))) := by
  have positive : 0 < 3 := by decide
  exact ShardRun.restart positive
    ((shardRun_begun positive 0).extend
      (.callCrash _ _ (.put (bytes "k") (bytes "v")) cut))

end Shard

end ShardedKvStore

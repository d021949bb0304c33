import ShardedKvStore.Shard.CleanRuns

/-!
# What the shards count

`ensure_leader_locked` counts the elections that are won, and
`replicate_command_locked` the followers that do not acknowledge an entry.  An
operation wins at most one election, and between the operations of a run without
crashes every online follower acknowledges what it is sent.
-/

namespace ShardedKvStore

open Foundation

namespace Shard

variable {count : Nat}

/-! ## Elections -/

/-- The call wins at most so many elections. -/
abbrev ElectsAtMost {Value : Type}
    (most : Nat) (call : ShardCall count Value) : Prop :=
  PerformsAtMost ShardEvent.isElection most call

theorem electsAtMost_onReplica
    {Value : Type} (most : Nat) (position : Fin count)
    (call : ReplicaCall Value) :
    ElectsAtMost most (onReplica position call) := by
  intro shard
  have none :
      ((onReplica position call shard).journal).countP
        ShardEvent.isElection = 0 := by
    rw [List.countP_eq_zero]
    intro event member
    obtain ⟨statement, _, rfl⟩ := List.mem_map.mp member
    exact Bool.false_ne_true
  rw [none]
  exact Nat.zero_le most

theorem electsAtMost_collectVotes
    (most : Nat) (term : Int) (candidateId : Bytes)
    (lastIndex lastTerm : Int) (voters : List (Fin count)) :
    ElectsAtMost most
      (collectVotes term candidateId lastIndex lastTerm voters) := by
  induction voters with
  | nil =>
      exact performsAtMost_pure 0
  | cons voter rest inductionHypothesis =>
      apply performsAtMost_after (electsAtMost_onReplica 0 _ _)
      intro granted
      exact
        performsAtMost_before inductionHypothesis fun _ =>
          performsAtMost_pure _

theorem electsAtMost_syncFollower (most : Nat) (follower leader : Fin count) :
    ElectsAtMost most (syncFollower follower leader) := by
  apply performsAtMost_after performsAtMost_read
  intro shard
  exact
    performsAtMost_ite (electsAtMost_onReplica _ _ _) (performsAtMost_pure _)

theorem electsAtMost_ensureLeader :
    ElectsAtMost 1 (ensureLeader : ShardCall count Bool) := by
  apply performsAtMost_after performsAtMost_read
  intro shard
  apply performsAtMost_ite (performsAtMost_pure _)
  apply performsAtMost_ite
  · exact
      performsAtMost_after (performsAtMost_modify _) fun _ =>
        performsAtMost_pure _
  split
  · exact performsAtMost_pure _
  apply performsAtMost_after (electsAtMost_onReplica 0 _ _)
  intro _
  apply performsAtMost_after (electsAtMost_collectVotes 0 _ _ _ _ _)
  intro votes
  apply performsAtMost_ite
  · apply performsAtMost_after (electsAtMost_onReplica 0 _ _)
    intro _
    exact
      performsAtMost_after (performsAtMost_modify _) fun _ =>
        performsAtMost_pure _
  apply performsAtMost_after
    (performsAtMost_forEach (fun _ => electsAtMost_onReplica 0 _ _) _)
  intro _
  apply performsAtMost_after (electsAtMost_onReplica 0 _ _)
  intro _
  -- the one election
  apply performsAtMost_before (performsAtMost_perform _ _)
  intro _
  exact
    performsAtMost_after
      (performsAtMost_forEach (fun _ => electsAtMost_syncFollower 0 _ _) _)
      fun _ => performsAtMost_pure _

theorem electsAtMost_replicateTo
    (most : Nat) (leader : Fin count) (entry : LogEntry)
    (prevIndex prevTerm : Int) (followers : List (Fin count)) :
    ElectsAtMost most
      (replicateTo leader entry prevIndex prevTerm followers) := by
  induction followers with
  | nil =>
      exact performsAtMost_pure _
  | cons follower rest inductionHypothesis =>
      apply performsAtMost_after performsAtMost_read
      intro shard
      apply performsAtMost_ite inductionHypothesis
      have send
          (term : Int) (leaderId : Bytes) (leaderCommit : Int) :
          ElectsAtMost most (do
            let accepted ← onReplica follower
              (RaftReplica.appendEntries term leaderId prevIndex prevTerm
                [entry] leaderCommit)
            let acknowledged ←
              replicateTo leader entry prevIndex prevTerm rest
            return if accepted then follower :: acknowledged
              else acknowledged) := by
        apply performsAtMost_after (electsAtMost_onReplica 0 _ _)
        intro accepted
        exact
          performsAtMost_before inductionHypothesis fun _ =>
            performsAtMost_pure _
      exact
        performsAtMost_ite
          (performsAtMost_after (electsAtMost_syncFollower 0 _ _) fun _ =>
            send _ _ _)
          (send _ _ _)

/-- An operation finds or elects its leader first, and elects no other. -/
private theorem electsAtMost_led
    {Value : Type} {next : Bool → ShardCall count Value}
    (rest : ∀ electable, ElectsAtMost 0 (next electable)) :
    ElectsAtMost 1 (ensureLeader >>= next) :=
  performsAtMost_before electsAtMost_ensureLeader rest

theorem electsAtMost_replicateCommand (command key value : Bytes) :
    ElectsAtMost 1
      (replicateCommand command key value :
        ShardCall count OperationResult) := by
  apply performsAtMost_after performsAtMost_read
  intro started
  apply electsAtMost_led
  intro electable
  apply performsAtMost_ite (performsAtMost_pure _)
  apply performsAtMost_after performsAtMost_read
  intro shard
  split
  · exact performsAtMost_pure _
  apply performsAtMost_after (electsAtMost_onReplica 0 _ _)
  intro entry
  apply performsAtMost_after performsAtMost_read
  intro shard
  apply performsAtMost_after (electsAtMost_replicateTo 0 _ _ _ _ _)
  intro acknowledged
  apply performsAtMost_ite
  · apply performsAtMost_after (electsAtMost_onReplica 0 _ _)
    intro _
    exact
      performsAtMost_after
        (performsAtMost_forEach (fun _ => electsAtMost_onReplica 0 _ _) _)
        fun _ => performsAtMost_pure _
  apply performsAtMost_after (electsAtMost_onReplica 0 _ _)
  intro _
  apply performsAtMost_after (performsAtMost_forEach _ _)
  · exact fun _ => performsAtMost_pure _
  · intro follower
    apply performsAtMost_after performsAtMost_read
    intro shard
    exact
      performsAtMost_after (electsAtMost_onReplica 0 _ _) fun _ =>
        performsAtMost_pure _

theorem electsAtMost_get (key : Bytes) :
    ElectsAtMost 1 (get key : ShardCall count OperationResult) := by
  apply performsAtMost_after performsAtMost_read
  intro started
  apply electsAtMost_led
  intro electable
  apply performsAtMost_ite (performsAtMost_pure _)
  apply performsAtMost_after performsAtMost_read
  intro shard
  split
  · exact performsAtMost_pure _
  · split
    · exact performsAtMost_pure _
    · exact performsAtMost_pure _

theorem electsAtMost_failReplica (failed : Bytes) :
    ElectsAtMost 1 (failReplica failed : ShardCall count Bool) := by
  apply performsAtMost_after performsAtMost_read
  intro shard
  split
  · exact performsAtMost_pure _
  apply performsAtMost_after (electsAtMost_onReplica 0 _ _)
  intro _
  exact
    performsAtMost_ite
      (performsAtMost_after (performsAtMost_modify _) fun _ =>
        performsAtMost_pure _)
      (performsAtMost_pure _)

theorem electsAtMost_recoverReplica (wanted : Bytes) :
    ElectsAtMost 1 (recoverReplica wanted : ShardCall count Bool) := by
  apply performsAtMost_after performsAtMost_read
  intro shard
  split
  · exact performsAtMost_pure _
  apply performsAtMost_after (electsAtMost_onReplica 0 _ _)
  intro _
  apply electsAtMost_led
  intro electable
  apply performsAtMost_ite _ (performsAtMost_pure _)
  apply performsAtMost_after performsAtMost_read
  intro shard
  split
  · exact performsAtMost_pure _
  · exact
      performsAtMost_ite
        (performsAtMost_after (electsAtMost_syncFollower 0 _ _) fun _ =>
          performsAtMost_pure _)
        (performsAtMost_pure _)

/-- An operation wins at most one election. -/
theorem electsAtMost_call (operation : Operation) :
    ElectsAtMost 1 (operation.call : ShardCall count Response) := by
  cases operation with
  | put key value =>
      exact
        performsAtMost_before (electsAtMost_replicateCommand _ _ _) fun _ =>
          performsAtMost_pure _
  | erase key =>
      exact
        performsAtMost_before (electsAtMost_replicateCommand _ _ _) fun _ =>
          performsAtMost_pure _
  | get key =>
      exact
        performsAtMost_before (electsAtMost_get key) fun _ =>
          performsAtMost_pure _
  | failReplica failed =>
      exact
        performsAtMost_before (electsAtMost_failReplica failed) fun _ =>
          performsAtMost_pure _
  | recoverReplica wanted =>
      exact
        performsAtMost_before (electsAtMost_recoverReplica wanted) fun _ =>
          performsAtMost_pure _
  | electLeader =>
      exact
        performsAtMost_before electsAtMost_ensureLeader fun _ =>
          performsAtMost_pure _

/-! ## Failed replications -/

/-- Between the operations of a run without crashes no replication fails: the leader
has no entry beyond its commit index, and then every follower it asks acknowledges. -/
theorem CleanState.replicationFailures_eq
    {shardId : Nat} {agreed : List LogEntry} {bound : Int}
    {shard : Shard count} {elections : List Int}
    (clean : CleanState shardId agreed bound (.running shard elections))
    {command : Bytes} (isCommand : IsCommand command) (key value : Bytes) :
    (replicationFailures command key value shard).result = .ok 0 := by
  obtain ⟨⟨operational, agree, _⟩, whole⟩ := clean
  by_cases available : shard.Available
  · obtain ⟨_, settled, leader, journal, elections', prepared⟩ :=
      operational.prepared agree available
    have coherent := prepared.operational.coherent
    have noTail : (settled.replicas leader).store.uncommitted = [] :=
      (congrArg Contents.tail prepared.sameLeader).trans
        (whole leader).tail
    have failures :=
      failuresOf_led coherent prepared.leads command key value
        (prepared.leads.extends_proposal coherent isCommand key value)
    unfold acknowledging at failures
    rw [if_pos noTail, Nat.sub_self] at failures
    unfold replicationFailures
    simp only [Journaled.bind_apply, Journaled.read_apply, prepared.runs,
      Outcome.andThen_ok, Journaled.ite_apply, Bool.true_eq_false, if_false,
      prepared.operational.currentLeader_eq prepared.leads,
      Outcome.prepend_result]
    exact failures
  · have fails := operational.ensureLeader_fails available
    unfold replicationFailures
    simp only [Journaled.bind_apply, fails, Outcome.andThen_ok,
      Journaled.ite_apply, if_true, Journaled.pure_apply,
      Outcome.prepend_result]

end Shard

end ShardedKvStore

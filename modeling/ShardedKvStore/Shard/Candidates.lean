import ShardedKvStore.Shard.Runs

/-!
# The chosen candidate always wins

`max_element` orders candidates by commit index first, and voters look at the
last term and index of the log only.  The two agree because of what the files
agree on: a log that is not an initial part of the agreed log ends in an older
term than every agreed entry it has not committed.

`Votes` are the shards on which `ensure_leader_locked` is called.
-/

namespace ShardedKvStore.Shard

open Foundation
open SqliteStore

variable {count : Nat}

/-- The shards on which a state calls `ensure_leader_locked`. -/
inductive Votes (shardId : Nat) : ShardState count → Shard count → Prop
  /-- `put`, `erase`, `get` and `elect_leader` start with it -/
  | operation (shard : Shard count) (elections : List Int) :
      Votes shardId (.running shard elections) shard
  /-- `recover_replica` calls it once the replica is online -/
  | recovery (shard : Shard count) (elections : List Int)
      (wanted : Bytes) (recovered : Fin count) :
      shard.findReplica wanted = some recovered →
      Votes shardId (.running shard elections)
        (onReplica recovered (RaftReplica.setOnline true) shard).state
  /-- the constructor calls it once every replica is loaded -/
  | construction (durable : Durable count) :
      Votes shardId (.stopped durable)
        (Journaled.forEach
          (fun position => onReplica position RaftReplica.loadState)
          (List.finRange count) (opened shardId durable.files)).state

/-- The shard when the vote loop starts. -/
def asking (shard : Shard count) (candidate : Fin count) : Shard count :=
  (onReplica candidate (RaftReplica.setRole .candidate) shard).state

/-- An online replica gives the candidate its vote. -/
def Grants (shard : Shard count) (candidate voter : Fin count) : Prop :=
  (RaftReplica.requestVote shard.nextTerm (shard.replicas candidate).id
    (shard.replicas candidate).store.lastLogIndex
    (shard.replicas candidate).store.lastLogTerm
    ((shard.asking candidate).replicas voter)).result = .ok true

section Electable

variable {agreed : List LogEntry} {bound : Int} {shard : Shard count}

theorem Wins.grants
    {candidate voter : Fin count} (wins : Wins agreed shard candidate)
    (online : (shard.replicas voter).online = true) :
    shard.Grants candidate voter := by
  have votes :=
    votes_overwrite wins voter (mem_onlineReplicas.mpr online) _ rfl
      fun _ _ => rfl
  exact congrArg Outcome.result votes

/-- An election that reaches the vote loop is won with all votes. -/
theorem Electable.unanimous (electable : Electable agreed bound shard) :
    ∃ candidate,
      shard.candidate = some candidate ∧
        (∀ voter ∈ shard.onlineReplicas, shard.Grants candidate voter) ∧
        (collectVotes shard.nextTerm (shard.replicas candidate).id
          (shard.replicas candidate).store.lastLogIndex
          (shard.replicas candidate).store.lastLogTerm
          shard.onlineReplicas (shard.asking candidate)).result =
            .ok shard.onlineReplicas.length ∧
        (ensureLeader shard).result = .ok true := by
  obtain ⟨candidate, wins⟩ := electable.exists_wins
  refine ⟨candidate, wins.chosen,
    fun voter member => wins.grants (mem_onlineReplicas.mp member), ?_, ?_⟩
  · have votes :=
      collectVotes_overwrites (nodup_onlineReplicas shard)
        (votes_overwrite wins)
    exact congrArg Outcome.result votes
  · rw [ensureLeader_elects electable wins]

end Electable

/-- Every shard on which an election is held can hold it. -/
theorem Votes.electable
    {shardId : Nat} {agreed : List LogEntry} {bound : Int}
    {state : ShardState count} {shard : Shard count}
    (positive : 0 < count)
    (agrees : Agrees shardId agreed bound state)
    (votes : Votes shardId state shard)
    (noLeader : shard.currentLeader = none)
    (quorum : majority count ≤ shard.onlineReplicas.length) :
    Electable agreed bound shard := by
  rw [length_onlineReplicas] at quorum
  cases votes with
  | operation shard elections =>
      exact agrees.1.electable noLeader quorum
  | recovery before elections wanted recovered found =>
      have operational := agrees.1
      rw [onReplica_setOnline] at noLeader quorum ⊢
      dsimp only at noLeader quorum ⊢
      have noName : before.leaderId = [] := by
        rcases operational.led with noName | ⟨leader, leads⟩
        · exact noName
        · -- A leader would still be found with the replica online.
          have stillOnline :
              ((before.withReplica recovered
                (switched (before.replicas recovered) true)).replicas
                  leader).online = true := by
            by_cases same : leader = recovered
            · rw [same, withReplica_self]
              rfl
            · rw [withReplica_of_ne before _ same]
              exact leads.online
          rw [currentLeader_eq_some
            (operational.coherent.withSwitched recovered true)
            (leads.named.trans
              (withSwitched_id before recovered true leader).symm)
            stillOnline] at noLeader
          cases noLeader
      exact (operational.withReturned
        (currentLeader_eq_none_of_nil operational.coherent noName)
        recovered).electable noLeader quorum
  | construction durable =>
      have loads := agrees.files.forEach_loadState shardId
      rw [loads]
      exact agrees.files.electable_loadedShard positive shardId

/-- In every run, crashes included: an election that reaches the vote loop has a
candidate that every online replica votes for, and it succeeds. -/
theorem candidate_always_wins
    {shardId : Nat} {labels : List ShardLabel} {state : ShardState count}
    (run : ShardRun shardId labels state) {shard : Shard count}
    (votes : Votes shardId state shard)
    (noLeader : shard.currentLeader = none)
    (quorum : majority count ≤ shard.onlineReplicas.length) :
    ∃ candidate,
      shard.candidate = some candidate ∧
        (∀ voter ∈ shard.onlineReplicas, shard.Grants candidate voter) ∧
        (collectVotes shard.nextTerm (shard.replicas candidate).id
          (shard.replicas candidate).store.lastLogIndex
          (shard.replicas candidate).store.lastLogTerm
          shard.onlineReplicas (shard.asking candidate)).result =
            .ok shard.onlineReplicas.length ∧
        (ensureLeader shard).result = .ok true := by
  have positive : 0 < count := by
    by_contra none
    have noReplicas : count = 0 := by omega
    subst noReplicas
    exact absurd quorum (by
      unfold majority onlineReplicas
      simp)
  obtain ⟨agreed, bound, agrees⟩ := ShardRun.agrees positive run
  exact (votes.electable positive agrees noLeader quorum).unanimous

/-- The candidate of a start after a crash that left an uncommitted entry on the
first replica only. -/
theorem candidate_wins_after_crash :
    ∃ candidate,
      (Journaled.forEach
          (fun position => onReplica position RaftReplica.loadState)
          (List.finRange 3)
          (opened 0 (crashedPut 1).files)).state.candidate =
        some candidate ∧
      (ensureLeader
        (Journaled.forEach
          (fun position => onReplica position RaftReplica.loadState)
          (List.finRange 3)
          (opened 0 (crashedPut 1).files)).state).result = .ok true := by
  have run :
      ShardRun 0
        [.start, .callCrash (.put (bytes "k") (bytes "v")) 1]
        (.stopped (crashedPut 1)) :=
    (shardRun_begun (by decide) 0).extend
      (.callCrash _ _ (.put (bytes "k") (bytes "v")) 1)
  obtain ⟨candidate, chosen, _, _, elects⟩ :=
    candidate_always_wins run (.construction (crashedPut 1))
      (by decide +kernel) (by decide +kernel)
  exact ⟨candidate, chosen, elects⟩

end ShardedKvStore.Shard

import ShardedKvStore.Shard.Calls
import ShardedKvStore.Shard.Evolution

/-!
# The invariant of a running shard

`Operational agreed bound shard` holds between operations.  A majority of the
databases, offline ones included, has committed the agreed log.  Either no
leader is set, or `leader_id_` names an online replica that leads: it has
committed the agreed log, its term is the highest, and every other online
replica is in its term and has exactly the agreed log.  No log has an entry of a term its replica
has not reached.

`DurableAgree` is what remains of the invariant in the files when the process
stops, at whatever statement.
-/

namespace ShardedKvStore.Shard

open Foundation
open SqliteStore

variable {count : Nat}

/-- The contents of the databases of a shard. -/
def contents (shard : Shard count) (position : Fin count) : Contents :=
  (shard.replicas position).store.contents

theorem Coherent.lastLogTerm_le_bound
    {agreed : List LogEntry} {bound : Int} {shard : Shard count}
    (coherent : Coherent agreed bound shard) (position : Fin count) :
    (shard.replicas position).store.lastLogTerm ≤ bound := by
  rw [lastLogTerm_eq]
  cases found : (shard.replicas position).store.log.getLast? with
  | none =>
      exact coherent.agree.boundNonneg
  | some entry =>
      exact (coherent.file position).termBound entry
        (List.mem_of_getLast? found)

/-- A replica leads the shard in the term `bound`. -/
structure Leads
    (agreed : List LogEntry) (bound : Int) (shard : Shard count)
    (leader : Fin count) : Prop where
  named : shard.leaderId = (shard.replicas leader).id
  online : (shard.replicas leader).online = true
  role : (shard.replicas leader).role = .leader
  complete : (shard.replicas leader).store.committed = agreed
  term : (shard.replicas leader).currentTerm = bound
  followers :
    ∀ position, position ≠ leader →
      (shard.replicas position).online = true →
        (shard.replicas position).store.log = agreed ∧
          (shard.replicas position).store.committed = agreed
  fresh :
    ∀ position, position ≠ leader →
      (shard.replicas position).store.log <+: agreed ∨
        (shard.replicas position).store.lastLogTerm < bound
  highest :
    ∀ position, (shard.replicas position).currentTerm ≤ bound
  level :
    ∀ position, (shard.replicas position).online = true →
      (shard.replicas position).currentTerm = bound

theorem Leads.committed_of_online
    {agreed : List LogEntry} {bound : Int} {shard : Shard count}
    {leader position : Fin count}
    (leads : Leads agreed bound shard leader)
    (online : (shard.replicas position).online = true) :
    (shard.replicas position).store.committed = agreed := by
  by_cases isLeader : position = leader
  · rw [isLeader]
    exact leads.complete
  · exact (leads.followers position isLeader online).2

/-- The invariant of a running shard between operations. -/
structure Operational
    (agreed : List LogEntry) (bound : Int) (shard : Shard count) :
    Prop where
  coherent : Coherent agreed bound shard
  majority :
    Foundation.majority count ≤
      tally fun position =>
        decide ((shard.replicas position).store.committed = agreed)
  ownTerms :
    ∀ position, ∀ entry ∈ (shard.replicas position).store.log,
      entry.term ≤ (shard.replicas position).currentTerm
  roles :
    ∀ position,
      (shard.replicas position).role = .leader →
        shard.leaderId = (shard.replicas position).id
  led : shard.leaderId = [] ∨ ∃ leader, Leads agreed bound shard leader

namespace Operational

variable {agreed : List LogEntry} {bound : Int} {shard : Shard count}

theorem currentLeader_eq
    (operational : Operational agreed bound shard) {leader : Fin count}
    (leads : Leads agreed bound shard leader) :
    shard.currentLeader = some leader :=
  currentLeader_eq_some operational.coherent leads.named leads.online

/-- A leader is found exactly when one is set, and then it leads. -/
theorem leads_of_currentLeader
    (operational : Operational agreed bound shard) {leader : Fin count}
    (found : shard.currentLeader = some leader) :
    Leads agreed bound shard leader := by
  rcases operational.led with noName | ⟨other, leads⟩
  · rw [currentLeader_eq_none_of_nil operational.coherent noName] at found
    cases found
  · rw [operational.currentLeader_eq leads] at found
    rw [← Option.some.inj found]
    exact leads

theorem leaderId_of_noLeader
    (operational : Operational agreed bound shard)
    (noLeader : shard.currentLeader = none) :
    shard.leaderId = [] := by
  rcases operational.led with noName | ⟨leader, leads⟩
  · exact noName
  · rw [operational.currentLeader_eq leads] at noLeader
    cases noLeader

/-- With a majority online some online database has the agreed log. -/
theorem exists_online_holder
    (operational : Operational agreed bound shard)
    (quorum :
      Foundation.majority count ≤
        tally fun position => (shard.replicas position).online) :
    ∃ position,
      (shard.replicas position).online = true ∧
        (shard.replicas position).store.committed = agreed := by
  obtain ⟨position, online, complete⟩ :=
    majorities_intersect quorum operational.majority
  exact ⟨position, online, by simpa using complete⟩

/-- Between operations nothing is left to redo. -/
theorem redone_eq
    (operational : Operational agreed bound shard) (position : Fin count) :
    (shard.replicas position).store.redone =
      (shard.replicas position).store.kv := by
  have inStep := operational.coherent.inStep position
  refine redone_of_caughtUp (operational.coherent.wellFormed position) ?_
  rw [← inStep.applied, ← inStep.commit]
  exact inStep.caughtUp

end Operational

/-! ## What is left in the files -/

/-- The files agree on a committed log, and the terms of the elections won so
far, latest first, are strictly decreasing and not above `bound`. -/
structure DurableAgree
    (agreed : List LogEntry) (bound : Int) (durable : Durable count) :
    Prop where
  files : FilesAgree agreed bound durable.files
  ordered : durable.elections.Pairwise (fun later earlier => earlier < later)
  notAbove : ∀ term ∈ durable.elections, term ≤ bound

theorem DurableAgree.of_sameElections
    {agreed agreed' : List LogEntry} {bound : Int}
    {before after : Durable count}
    (agree : DurableAgree agreed bound before)
    (files : FilesAgree agreed' bound after.files)
    (same : after.elections = before.elections) :
    DurableAgree agreed' bound after where
  files := files
  ordered := same ▸ agree.ordered
  notAbove := same ▸ agree.notAbove

theorem DurableAgree.of_elected
    {agreed : List LogEntry} {bound larger : Int}
    {before after : Durable count}
    (agree : DurableAgree agreed bound before)
    (files : FilesAgree agreed larger after.files)
    (grows : bound < larger)
    (elected : after.elections = larger :: before.elections) :
    DurableAgree agreed larger after where
  files := files
  ordered := by
    rw [elected]
    refine List.Pairwise.cons ?_ agree.ordered
    intro term member
    exact (agree.notAbove term member).trans_lt grows
  notAbove := by
    rw [elected]
    intro term member
    rcases List.mem_cons.mp member with same | earlier
    · exact same.le
    · exact (agree.notAbove term earlier).trans grows.le

/-- What a crash may leave of an operation that started from `before`. -/
def CrashPoint
    (Row : LogEntry → Prop) (Torn : Prop) (agreed : List LogEntry)
    (before after : Durable count) : Prop :=
  ∃ agreed' bound',
    DurableAgree agreed' bound' after ∧ agreed <+: agreed' ∧
      ∀ position,
        (after.files position).committed = agreed' →
          Contents.Touched Row Torn agreed
            (before.files position).contents
            (after.files position).contents

end ShardedKvStore.Shard

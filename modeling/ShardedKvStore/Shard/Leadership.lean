import ShardedKvStore.Shard.Runs

/-!
# Leaders and terms

Between operations, in runs with crashes as well, at most one replica has the
role of a leader; `leader_id_` is set exactly when it names an online replica
with that role, and then no replica has a higher term.  The terms of successful
elections increase over the whole run.  A write never finds a leader that is
not allowed to append.
-/

namespace ShardedKvStore.Shard

open Foundation
open SqliteStore

variable {count : Nat} {agreed : List LogEntry} {bound : Int}
  {shard : Shard count}

namespace Operational

/-- Two replicas with the role of a leader are the same. -/
theorem role_unique
    (operational : Operational agreed bound shard)
    {left right : Fin count}
    (leftLeads : (shard.replicas left).role = .leader)
    (rightLeads : (shard.replicas right).role = .leader) :
    left = right := by
  apply operational.coherent.id_injective
  rw [← operational.roles left leftLeads,
    ← operational.roles right rightLeads]

theorem leads_of_named
    (operational : Operational agreed bound shard) {position : Fin count}
    (named : (shard.replicas position).id = shard.leaderId) :
    Leads agreed bound shard position := by
  have isNamed : shard.leaderId ≠ [] := by
    rw [← named]
    exact operational.coherent.id_ne_nil position
  obtain ⟨leader, leads⟩ := operational.led.resolve_left isNamed
  have same : position = leader :=
    operational.coherent.id_injective (named.trans leads.named)
  rw [same]
  exact leads

theorem leaderId_ne_nil_iff
    (operational : Operational agreed bound shard) :
    shard.leaderId ≠ [] ↔
      ∃ position,
        (shard.replicas position).id = shard.leaderId ∧
          (shard.replicas position).online = true ∧
          (shard.replicas position).role = .leader := by
  constructor
  · intro named
    obtain ⟨leader, leads⟩ := operational.led.resolve_left named
    exact ⟨leader, leads.named.symm, leads.online, leads.role⟩
  · rintro ⟨position, named, _, _⟩
    rw [← named]
    exact operational.coherent.id_ne_nil position

end Operational

/-- Leader uniqueness and the order of terms, in every run. -/
theorem one_leader_and_increasing_terms
    {shardId : Nat} {labels : List ShardLabel} {state : ShardState count}
    (positive : 0 < count) (run : ShardRun shardId labels state) :
    state.elections.Pairwise (fun later earlier => earlier < later) ∧
      ∀ shard elections,
        state = .running shard elections →
          (∀ left right,
            (shard.replicas left).role = .leader →
            (shard.replicas right).role = .leader → left = right) ∧
          (shard.leaderId ≠ [] ↔
            ∃ position,
              (shard.replicas position).id = shard.leaderId ∧
                (shard.replicas position).online = true ∧
                (shard.replicas position).role = .leader) ∧
          (∀ leader,
            (shard.replicas leader).id = shard.leaderId →
              ∀ position,
                (shard.replicas position).currentTerm ≤
                  (shard.replicas leader).currentTerm) ∧
          (∀ key value,
            (∃ result, (put key value shard).result = .ok result) ∧
              ∃ result, (erase key shard).result = .ok result) := by
  obtain ⟨agreed, bound, agrees⟩ := ShardRun.agrees positive run
  refine ⟨agrees.durable.ordered, ?_⟩
  rintro shard elections rfl
  obtain ⟨operational, agree, _⟩ := agrees
  refine ⟨fun _ _ => operational.role_unique,
    operational.leaderId_ne_nil_iff, ?_, ?_⟩
  · intro leader named position
    have leads := operational.leads_of_named named
    rw [leads.term]
    exact leads.highest position
  · intro key value
    constructor
    · obtain ⟨result, _, _, _, _, _, runs, _⟩ :=
        operational.write_spec agree (Or.inl rfl) key value
      refine ⟨result, ?_⟩
      unfold put
      rw [runs]
    · obtain ⟨result, _, _, _, _, _, runs, _⟩ :=
        operational.write_spec agree (Or.inr rfl) key []
      refine ⟨result, ?_⟩
      unfold erase
      rw [runs]

/-- A crash right after the first election of a shard of three replicas, and a
restart: the second election has a higher term. -/
theorem terms_increase_after_crash :
    ∃ state : ShardState 3,
      ShardRun 0 [.startCrash 14, .start] state ∧
        state.elections = [2, 1] ∧
        state.elections.Pairwise
          (fun later earlier => earlier < later) := by
  have positive : 0 < 3 := by decide
  have nothing : ShardRun 0 [] (emptyState : ShardState 3) := .initial rfl
  have crashed := nothing.extend (.startCrash _ 14)
  have restarted := crashed.extend (.start _)
  refine ⟨_, restarted, ?_,
    (one_leader_and_increasing_terms positive restarted).1⟩
  decide +kernel

end ShardedKvStore.Shard

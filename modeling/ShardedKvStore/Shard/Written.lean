import ShardedKvStore.Shard.Commit

/-!
# The shard after a write

A rejected write leaves the agreed log as it was and cuts off the leader's tail;
a committed one adds the tail and the new row to the agreed log.  Both keep the
invariant of the shard.
-/

namespace ShardedKvStore.Shard

open Foundation
open SqliteStore

variable {count : Nat}

section Result

variable {agreed : List LogEntry} {bound : Int} {shard : Shard count}
  {leader : Fin count} {entry : LogEntry}
  {close : RaftReplica → RaftReplica}

/-- A replica after a write: the leader, a follower that acknowledged, one that
refused, or one that took no part. -/
theorem written_cases
    (coherent : Coherent agreed bound shard)
    (holds : Fin count → RaftReplica → Prop)
    (atLeader : holds leader (close (shard.appended leader entry)))
    (acknowledged :
      ∀ position ∈ shard.acknowledging leader,
        holds position (close (shard.sent leader entry position)))
    (refused :
      ∀ position, position ≠ leader →
        (shard.replicas position).online = true →
        (shard.replicas leader).store.uncommitted ≠ [] →
          holds position (shard.sent leader entry position))
    (absent :
      ∀ position, position ≠ leader →
        (shard.replicas position).online ≠ true →
          holds position (shard.replicas position))
    (position : Fin count) :
    holds position
      ((shard.written leader entry close).replicas position) := by
  unfold written
  by_cases isLeader : position = leader
  · subst isLeader
    simp only [if_true]
    exact atLeader
  · simp only [if_neg isLeader]
    split
    case isTrue acknowledges =>
      exact acknowledged position acknowledges
    case isFalse notAcknowledging =>
      split
      case isTrue isOther =>
        have online := (coherent.mem_otherOnline.mp isOther).1
        refine refused position isLeader online fun noTail => ?_
        unfold acknowledging at notAcknowledging
        rw [if_pos noTail] at notAcknowledging
        exact notAcknowledging isOther
      case isFalse notOther =>
        exact absent position isLeader fun online =>
          notOther (coherent.mem_otherOnline.mpr ⟨online, isLeader⟩)

/-- What both ways to close a write leave alone. -/
structure Closes (close : RaftReplica → RaftReplica) : Prop where
  id : ∀ replica, (close replica).id = replica.id
  online : ∀ replica, (close replica).online = replica.online
  role : ∀ replica, (close replica).role = replica.role
  term : ∀ replica, (close replica).currentTerm = replica.currentTerm

theorem closes_committedAll : Closes committedAll :=
  ⟨fun _ => rfl, fun _ => rfl, fun _ => rfl, fun _ => rfl⟩

theorem closes_cutOff : Closes cutOff :=
  ⟨fun _ => rfl, fun _ => rfl, fun _ => rfl, fun _ => rfl⟩

namespace Closes

theorem written_id
    (closes : Closes close) (coherent : Coherent agreed bound shard)
    (position : Fin count) :
    ((shard.written leader entry close).replicas position).id =
      (shard.replicas position).id := by
  refine written_cases coherent
    (fun position replica =>
      replica.id = (shard.replicas position).id) ?_ ?_ ?_ ?_ position
  · exact closes.id _
  · exact fun _ _ => closes.id _
  · exact fun _ _ _ _ => rfl
  · exact fun _ _ _ => rfl

theorem written_online
    (closes : Closes close) (coherent : Coherent agreed bound shard)
    (position : Fin count) :
    ((shard.written leader entry close).replicas position).online =
      (shard.replicas position).online := by
  refine written_cases coherent
    (fun position replica =>
      replica.online = (shard.replicas position).online) ?_ ?_ ?_ ?_
      position
  · exact closes.online _
  · exact fun _ _ => closes.online _
  · exact fun _ _ _ _ => rfl
  · exact fun _ _ _ => rfl

theorem written_leader
    (close : RaftReplica → RaftReplica) :
    (shard.written leader entry close).replicas leader =
      close (shard.appended leader entry) := by
  simp [written]

theorem written_role
    (closes : Closes close) (coherent : Coherent agreed bound shard)
    (position : Fin count)
    (isLeader :
      ((shard.written leader entry close).replicas position).role =
        .leader) :
    (shard.replicas position).role = .leader := by
  refine written_cases coherent
    (fun position replica =>
      replica.role = .leader →
        (shard.replicas position).role = .leader) ?_ ?_ ?_ ?_
      position isLeader
  · intro leads
    rwa [closes.role] at leads
  · intro follower _ leads
    rw [closes.role] at leads
    cases leads
  · intro follower _ _ _ leads
    cases leads
  · exact fun _ _ _ leads => leads

theorem written_term_le
    (closes : Closes close) (coherent : Coherent agreed bound shard)
    (leads : Leads agreed bound shard leader) (position : Fin count) :
    ((shard.written leader entry close).replicas position).currentTerm ≤
      bound := by
  refine written_cases coherent
    (fun _ replica => replica.currentTerm ≤ bound)
    ?_ ?_ ?_ ?_ position
  · rw [closes.term]
    exact leads.term.le
  · intro follower _
    rw [closes.term]
    exact leads.term.le
  · exact fun _ _ _ _ => leads.term.le
  · exact fun position _ _ => leads.highest position

/-- A replica is in the leader's term after a write, unless it is offline and
was not reached. -/
theorem written_term
    (closes : Closes close) (coherent : Coherent agreed bound shard)
    (leads : Leads agreed bound shard leader) (position : Fin count) :
    ((shard.written leader entry close).replicas position).currentTerm =
        bound ∨
      (shard.written leader entry close).replicas position =
        shard.replicas position := by
  refine written_cases coherent
    (fun position replica =>
      replica.currentTerm = bound ∨ replica = shard.replicas position)
    ?_ ?_ ?_ ?_ position
  · left
    rw [closes.term]
    exact leads.term
  · intro follower _
    left
    rw [closes.term]
    exact leads.term
  · exact fun _ _ _ _ => Or.inl leads.term
  · exact fun _ _ _ => Or.inr rfl

theorem written_level
    (closes : Closes close) (coherent : Coherent agreed bound shard)
    (leads : Leads agreed bound shard leader) (position : Fin count)
    (online :
      ((shard.written leader entry close).replicas position).online =
        true) :
    ((shard.written leader entry close).replicas position).currentTerm =
      bound := by
  rcases closes.written_term coherent leads position with level | same
  · exact level
  · rw [same] at online ⊢
    exact leads.level position online

end Closes

/-! ### Members and databases stay in step -/

private theorem inStep_appended
    (coherent : Coherent agreed bound shard)
    (leader : Fin count) (entry : LogEntry) :
    (shard.appended leader entry).InStep where
  term := (coherent.inStep leader).term
  commit := (coherent.inStep leader).commit
  applied := (coherent.inStep leader).applied
  caughtUp := (coherent.inStep leader).caughtUp

private theorem inStep_sent
    (coherent : Coherent agreed bound shard)
    (leader : Fin count) (entry : LogEntry) (position : Fin count) :
    (shard.sent leader entry position).InStep := by
  have shape :
      (shard.sent leader entry position).store =
        ((shard.replicas position).store.executeAll
          (if (shard.replicas leader).store.uncommitted = [] then
            [.appendLog entry] else [])).executeAll
          (persistRows (shard.replicas leader).currentTerm
            (shard.replicas leader).id
            (shard.replicas position).commitIndex
            (shard.replicas position).lastApplied) := by
    unfold sent sentStatements
    rw [executeAll_append]
  rw [executeAll_persistRows] at shape
  refine ⟨?_, ?_, ?_, (coherent.inStep position).caughtUp⟩
  all_goals
    rw [shape]
    rfl

private theorem inStep_cutOff
    {replica : RaftReplica} (inStep : replica.InStep) :
    (cutOff replica).InStep where
  term := inStep.term
  commit := inStep.commit
  applied := inStep.applied
  caughtUp := inStep.caughtUp

private theorem inStep_committedAll (replica : RaftReplica) :
    (committedAll replica).InStep := by
  have shape :
      (committedAll replica).store =
        (replica.store.executeAll
          ((replica.store.log.drop replica.commitIndex.toNat).map
            LogEntry.statement)).executeAll
          (persistRows replica.currentTerm replica.votedFor
            replica.store.log.length replica.store.log.length) := by
    unfold committedAll commitStatements
    rw [executeAll_append]
  rw [executeAll_persistRows] at shape
  refine ⟨?_, ?_, ?_, rfl⟩
  all_goals
    rw [shape]
    rfl

/-! ### A rejected write -/

/-- The databases after a rejected write: the uncommitted entries are gone, or
nothing has changed but the recorded leader. -/
theorem Leads.rejected_files
    (leads : Leads agreed bound shard leader)
    (coherent : Coherent agreed bound shard)
    (nextIndex :
      entry.index = (shard.replicas leader).store.log.length + 1)
    (extends_ :
      WellFormedLog
        ((shard.replicas leader).store.log ++ [entry.stored]))
    (position : Fin count) :
    (shard.replicas position).store.committed = agreed ∧
        Discarded (shard.replicas position).store
          ((shard.written leader entry cutOff).replicas position).store ∨
      position ≠ leader ∧
        Kept (shard.replicas position).store
          ((shard.written leader entry cutOff).replicas position).store := by
  refine written_cases coherent
    (fun position replica =>
      (shard.replicas position).store.committed = agreed ∧
          Discarded (shard.replicas position).store replica.store ∨
        position ≠ leader ∧
          Kept (shard.replicas position).store replica.store)
    ?_ ?_ ?_ ?_ position
  · exact Or.inl ⟨leads.complete,
      discarded_cutOff (coherent.pending_appended nextIndex)
        (coherent.wellFormed leader) extends_
        (coherent.inStep leader).commit⟩
  · intro follower acknowledges
    obtain ⟨_, _, log, complete, leaderLog⟩ :=
      leads.acknowledging_before coherent acknowledges
    rw [leaderLog, ← log] at extends_
    exact Or.inl ⟨complete,
      discarded_cutOff
        (leads.pending_sent coherent nextIndex acknowledges)
        (coherent.wellFormed follower) extends_
        (coherent.inStep follower).commit⟩
  · intro follower different _ hasTail
    exact Or.inr ⟨different,
      (leads.crashSafe_refused coherent hasTail follower).finish⟩
  · intro other different _
    exact Or.inr ⟨different, Kept.refl (coherent.wellFormed other)⟩

theorem Leads.coherent_rejected
    (leads : Leads agreed bound shard leader)
    (coherent : Coherent agreed bound shard)
    (nextIndex :
      entry.index = (shard.replicas leader).store.log.length + 1)
    (extends_ :
      WellFormedLog
        ((shard.replicas leader).store.log ++ [entry.stored]))
    (newest : entry.term = bound) :
    Coherent agreed bound (shard.written leader entry cutOff) where
  ids := by
    intro position
    rw [closes_cutOff.written_id coherent]
    exact coherent.ids position
  inStep := by
    refine written_cases coherent (fun _ replica => replica.InStep)
      ?_ ?_ ?_ ?_
    · exact inStep_cutOff (inStep_appended coherent leader entry)
    · exact fun follower _ =>
        inStep_cutOff (inStep_sent coherent leader entry follower)
    · exact fun follower _ _ _ => inStep_sent coherent leader entry follower
    · exact fun position _ _ => coherent.inStep position
  agree := by
    have each (position : Fin count) :
        Undecided agreed (shard.replicas leader).store.log entry.stored
          False (shard.replicas position).store
          ((shard.written leader entry cutOff).replicas
            position).store := by
      rcases leads.rejected_files coherent nextIndex extends_ position with
        ⟨complete, discarded⟩ | ⟨_, kept⟩
      · exact Or.inr ⟨complete, Or.inr discarded⟩
      · exact Or.inl kept
    exact coherent.agree.undecided extends_ newest.le each

theorem Leads.leads_rejected
    (leads : Leads agreed bound shard leader)
    (coherent : Coherent agreed bound shard)
    (nextIndex :
      entry.index = (shard.replicas leader).store.log.length + 1)
    (extends_ :
      WellFormedLog
        ((shard.replicas leader).store.log ++ [entry.stored])) :
    Leads agreed bound (shard.written leader entry cutOff) leader := by
  have files (position : Fin count) :=
    leads.rejected_files coherent nextIndex extends_ position
  refine
    { named := ?_
      online := ?_
      role := ?_
      complete := ?_
      term := ?_
      followers := ?_
      fresh := ?_
      highest := closes_cutOff.written_term_le coherent leads
      level := closes_cutOff.written_level coherent leads }
  · rw [closes_cutOff.written_id coherent]
    exact leads.named
  · rw [closes_cutOff.written_online coherent]
    exact leads.online
  · rw [Closes.written_leader]
    exact leads.role
  · rcases files leader with ⟨complete, discarded⟩ | ⟨different, _⟩
    · exact discarded.committed.trans complete
    · exact absurd rfl different
  · rw [Closes.written_leader]
    exact leads.term
  · intro position different online
    rw [closes_cutOff.written_online coherent] at online
    obtain ⟨log, complete⟩ := leads.followers position different online
    rcases files position with ⟨_, discarded⟩ | ⟨_, kept⟩
    · exact ⟨discarded.log.trans complete,
        discarded.committed.trans complete⟩
    · exact ⟨kept.log.trans log, kept.committed.trans complete⟩
  · intro position different
    rcases files position with ⟨complete, discarded⟩ | ⟨_, kept⟩
    · left
      rw [discarded.log, complete]
    · rw [kept.log, lastLogTerm_congr kept.log]
      exact leads.fresh position different

/-- A rejected write keeps the invariant. -/
theorem Operational.written_rejected
    (operational : Operational agreed bound shard)
    (leads : Leads agreed bound shard leader)
    (nextIndex :
      entry.index = (shard.replicas leader).store.log.length + 1)
    (extends_ :
      WellFormedLog
        ((shard.replicas leader).store.log ++ [entry.stored]))
    (newest : entry.term = bound) :
    Operational agreed bound (shard.written leader entry cutOff) := by
  have coherent := operational.coherent
  refine
    { coherent :=
        leads.coherent_rejected coherent nextIndex extends_ newest
      majority := operational.majority.trans (tally_mono ?_)
      ownTerms := ?_
      roles := ?_
      led := Or.inr
        ⟨leader, leads.leads_rejected coherent nextIndex extends_⟩ }
  · intro position holds
    have complete := of_decide_eq_true holds
    refine decide_eq_true ?_
    rcases leads.rejected_files coherent nextIndex extends_ position with
      ⟨_, discarded⟩ | ⟨_, kept⟩
    · exact discarded.committed.trans complete
    · exact kept.committed.trans complete
  · intro position entry' member
    have after :=
      leads.coherent_rejected coherent nextIndex extends_ newest
    have terms :
        (shard.replicas position).store.currentTerm ≤
            ((shard.written leader entry cutOff).replicas
              position).store.currentTerm ∧
          entry' ∈ (shard.replicas position).store.log := by
      rcases leads.rejected_files coherent nextIndex extends_ position with
        ⟨_, discarded⟩ | ⟨_, kept⟩
      · rw [discarded.log] at member
        exact ⟨discarded.term, List.mem_of_mem_take member⟩
      · rw [kept.log] at member
        exact ⟨kept.term, member⟩
    rw [(after.inStep position).term]
    refine le_trans ?_ terms.1
    rw [← (coherent.inStep position).term]
    exact operational.ownTerms position entry' terms.2
  · intro position isLeader
    rw [closes_cutOff.written_id coherent]
    exact operational.roles position
      (closes_cutOff.written_role coherent position isLeader)

/-! ### A committed write -/

theorem Coherent.advanced_leader
    (coherent : Coherent agreed bound shard)
    (nextIndex :
      entry.index = (shard.replicas leader).store.log.length + 1) :
    Advanced entry.stored (shard.replicas leader).store
      ((shard.written leader entry committedAll).replicas
        leader).store := by
  rw [Closes.written_leader]
  exact advanced_committedAll (coherent.pending_appended nextIndex)
    (coherent.steady leader) (coherent.inStep leader).commit
    (coherent.inStep leader).term.ge

theorem Leads.advanced_follower
    (leads : Leads agreed bound shard leader)
    (coherent : Coherent agreed bound shard)
    (nextIndex :
      entry.index = (shard.replicas leader).store.log.length + 1)
    {position : Fin count}
    (acknowledges : position ∈ shard.acknowledging leader) :
    Advanced entry.stored (shard.replicas position).store
      (committedAll (shard.sent leader entry position)).store := by
  refine advanced_committedAll
    (leads.pending_sent coherent nextIndex acknowledges)
    (coherent.steady position) (coherent.inStep position).commit ?_
  rw [← (coherent.inStep position).term]
  exact (leads.highest position).trans leads.term.ge

/-- The other databases after a committed write: an online one has committed the
row, an offline one is as it was. -/
theorem Leads.committed_files
    (leads : Leads agreed bound shard leader)
    (coherent : Coherent agreed bound shard)
    (nextIndex :
      entry.index = (shard.replicas leader).store.log.length + 1)
    (enough :
      ¬ 1 + (shard.acknowledging leader).length < majority count)
    {position : Fin count} (different : position ≠ leader) :
    ((shard.replicas position).online = true ∧
        (shard.replicas position).store.log = agreed ∧
        (shard.replicas position).store.committed = agreed ∧
        Advanced entry.stored (shard.replicas position).store
          ((shard.written leader entry committedAll).replicas
            position).store) ∨
      ((shard.replicas position).online ≠ true ∧
        ((shard.written leader entry committedAll).replicas
          position).store = (shard.replicas position).store) := by
  refine written_cases coherent
    (fun position replica =>
      position ≠ leader →
        ((shard.replicas position).online = true ∧
            (shard.replicas position).store.log = agreed ∧
            (shard.replicas position).store.committed = agreed ∧
            Advanced entry.stored (shard.replicas position).store
              replica.store) ∨
          ((shard.replicas position).online ≠ true ∧
            replica.store = (shard.replicas position).store))
    ?_ ?_ ?_ ?_ position different
  · exact fun differs => absurd rfl differs
  · intro follower acknowledges _
    obtain ⟨_, online, log, complete, _⟩ :=
      leads.acknowledging_before coherent acknowledges
    exact Or.inl ⟨online, log, complete,
      leads.advanced_follower coherent nextIndex acknowledges⟩
  · intro follower _ _ hasTail differs
    exact absurd (noTail_of_enough enough differs) hasTail
  · exact fun _ _ offline _ => Or.inr ⟨offline, rfl⟩

theorem Leads.coherent_committed
    (leads : Leads agreed bound shard leader)
    (coherent : Coherent agreed bound shard)
    (nextIndex :
      entry.index = (shard.replicas leader).store.log.length + 1)
    (extends_ :
      WellFormedLog
        ((shard.replicas leader).store.log ++ [entry.stored]))
    (newest : entry.term = bound)
    (enough :
      ¬ 1 + (shard.acknowledging leader).length < majority count) :
    Coherent
      (agreed ++
        ((shard.replicas leader).store.uncommitted ++ [entry.stored]))
      bound (shard.written leader entry committedAll) where
  ids := by
    intro position
    rw [closes_committedAll.written_id coherent]
    exact coherent.ids position
  inStep := by
    refine written_cases coherent (fun _ replica => replica.InStep)
      ?_ ?_ ?_ ?_
    · exact inStep_committedAll _
    · exact fun _ _ => inStep_committedAll _
    · exact fun follower _ _ _ => inStep_sent coherent leader entry follower
    · exact fun position _ _ => coherent.inStep position
  agree := by
    refine coherent.agree.decided leads.complete extends_ newest
      (fun _ different => noTail_of_enough enough different)
      (coherent.advanced_leader nextIndex) ?_
    intro position different
    rcases leads.committed_files coherent nextIndex enough different with
      ⟨_, log, complete, advanced⟩ | ⟨_, same⟩
    · exact Or.inr ⟨log, complete, Or.inr advanced⟩
    · exact Or.inl ⟨same, leads.fresh position different⟩

theorem Leads.leads_committed
    (leads : Leads agreed bound shard leader)
    (coherent : Coherent agreed bound shard)
    (nextIndex :
      entry.index = (shard.replicas leader).store.log.length + 1)
    (enough :
      ¬ 1 + (shard.acknowledging leader).length < majority count) :
    Leads
      (agreed ++
        ((shard.replicas leader).store.uncommitted ++ [entry.stored]))
      bound (shard.written leader entry committedAll) leader := by
  have files {position : Fin count} (different : position ≠ leader) :=
    leads.committed_files coherent nextIndex enough different
  have noTail {position : Fin count} (different : position ≠ leader) :=
    noTail_of_enough enough different
  refine
    { named := ?_
      online := ?_
      role := ?_
      complete := ?_
      term := ?_
      followers := ?_
      fresh := ?_
      highest := closes_committedAll.written_term_le coherent leads
      level := closes_committedAll.written_level coherent leads }
  · rw [closes_committedAll.written_id coherent]
    exact leads.named
  · rw [closes_committedAll.written_online coherent]
    exact leads.online
  · rw [Closes.written_leader]
    exact leads.role
  · rw [(coherent.advanced_leader nextIndex).committed,
      leads.complete]
  · rw [Closes.written_leader]
    exact leads.term
  · intro position different online
    rw [closes_committedAll.written_online coherent] at online
    rcases files different with
      ⟨_, log, complete, advanced⟩ | ⟨offline, _⟩
    · have followerTail :
          (shard.replicas position).store.uncommitted = [] :=
        uncommitted_of_committed_eq_log (complete.trans log.symm)
      rw [noTail different, List.nil_append]
      refine ⟨by rw [advanced.log, log], ?_⟩
      rw [advanced.committed, complete, followerTail, List.nil_append]
    · exact absurd online offline
  · intro position different
    rw [noTail different, List.nil_append]
    rcases files different with ⟨_, log, _, advanced⟩ | ⟨_, same⟩
    · left
      rw [advanced.log, log]
    · rw [same]
      exact (leads.fresh position different).imp_left fun isPrefix =>
        isPrefix.trans (List.prefix_append _ _)

/-- A committed write keeps the invariant, with the row in the agreed log. -/
theorem Operational.written_committed
    (operational : Operational agreed bound shard)
    (leads : Leads agreed bound shard leader)
    (nextIndex :
      entry.index = (shard.replicas leader).store.log.length + 1)
    (extends_ :
      WellFormedLog
        ((shard.replicas leader).store.log ++ [entry.stored]))
    (newest : entry.term = bound)
    (enough :
      ¬ 1 + (shard.acknowledging leader).length <
        Foundation.majority count) :
    Operational
      (agreed ++
        ((shard.replicas leader).store.uncommitted ++ [entry.stored]))
      bound (shard.written leader entry committedAll) := by
  have coherent := operational.coherent
  have leading := leads.leads_committed coherent nextIndex enough
  refine
    { coherent :=
        leads.coherent_committed coherent nextIndex extends_ newest enough
      majority := ?_
      ownTerms := ?_
      roles := ?_
      led := Or.inr ⟨leader, leading⟩ }
  · -- The leader and the followers that acknowledged make the majority.
    have distinct : (leader :: shard.acknowledging leader).Nodup := by
      refine List.nodup_cons.mpr ⟨?_, nodup_acknowledging shard leader⟩
      exact fun member => (acknowledging_subset coherent member).2.1 rfl
    refine le_trans ?_ (length_le_tally distinct ?_)
    · rw [List.length_cons]
      omega
    · intro position member
      refine decide_eq_true ?_
      rcases List.mem_cons.mp member with isLeader | acknowledges
      · rw [isLeader]
        exact leading.complete
      · obtain ⟨different, online, _⟩ :=
          leads.acknowledging_before coherent acknowledges
        refine (leading.followers position different ?_).2
        rw [closes_committedAll.written_online coherent]
        exact online
  · have after :=
      leads.coherent_committed coherent nextIndex extends_ newest enough
    intro position entry' member
    rcases closes_committedAll.written_term coherent leads position with
      newTerm | untouched
    · rw [newTerm]
      exact (after.file position).termBound entry' member
    · rw [untouched] at member ⊢
      exact operational.ownTerms position entry' member
  · intro position isLeader
    rw [closes_committedAll.written_id coherent]
    exact operational.roles position
      (closes_committedAll.written_role coherent position isLeader)

end Result

end ShardedKvStore.Shard

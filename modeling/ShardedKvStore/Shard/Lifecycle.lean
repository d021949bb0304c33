import ShardedKvStore.Raft.Redo
import ShardedKvStore.Shard.Operations

/-!
# Reads, failures, recoveries and restarts

The operations of a shard other than writes, and its constructor.  None of them
changes the agreed log.
-/

namespace ShardedKvStore.Shard

open Foundation
open SqliteStore

variable {count : Nat}

/-- Operations that write no rows. -/
def NoRow (_row : LogEntry) : Prop :=
  False

/-! ## Reads and elections -/

/-- The answer to a read. -/
inductive GetAnswer (key : Bytes) (shard : Shard count) :
    OperationResult → Prop
  | unavailable {result : OperationResult} :
      ¬ shard.Available →
      result.ok = false → result.status = 503 →
      GetAnswer key shard result
  | missing {result : OperationResult} {leader : Fin count} :
      shard.Available → shard.leading = some leader →
      (shard.replicas leader).store.kv (cString key) = none →
      result.ok = false → result.status = 404 →
      GetAnswer key shard result
  | found {result : OperationResult} {leader : Fin count} {value : Bytes} :
      shard.Available → shard.leading = some leader →
      (shard.replicas leader).store.kv (cString key) = some value →
      result.ok = true → result.status = 200 → result.value = value →
      GetAnswer key shard result

section Read

variable {agreed : List LogEntry} {bound : Int}
  {shard settled : Shard count} {leader : Fin count}
  {elections elections' : List Int}
  {journal : List (ShardEvent count)}

/-- An election does not change the table of the leading replica. -/
theorem Prepared.kv_eq
    {before : Int} (operational : Operational agreed before shard)
    (prepared :
      Prepared agreed shard elections bound settled leader journal
        elections') :
    (settled.replicas leader).store.kv =
      (shard.replicas leader).store.kv := by
  have tables := congrArg Contents.table prepared.sameLeader
  change (settled.replicas leader).store.redone =
    (shard.replicas leader).store.redone at tables
  rwa [prepared.operational.redone_eq, operational.redone_eq] at tables

/-- What a leader answers to a read. -/
def readAnswer
    (shard : Shard count) (leader : Fin count) (key : Bytes) :
    OperationResult :=
  match (shard.replicas leader).store.kv (cString key) with
  | none =>
      { shard := shard.shardId
        leader := (shard.replicas leader).id
        status := 404
        message := bytes "key not found" }
  | some value =>
      { shard := shard.shardId
        leader := (shard.replicas leader).id
        ok := true
        status := 200
        message := bytes "ok"
        value := value }

/-- A read with a leader. -/
theorem Prepared.get_eq
    {before : Int} (operational : Operational agreed before shard)
    (prepared :
      Prepared agreed shard elections bound settled leader journal
        elections')
    (key : Bytes) :
    get key shard =
      ⟨.ok (shard.readAnswer leader key), settled, journal⟩ := by
  have foundLeader :=
    prepared.operational.currentLeader_eq prepared.leads
  have reads :
      (settled.replicas leader).get key =
        (shard.replicas leader).store.kv (cString key) := by
    unfold RaftReplica.get SqliteStore.get
    rw [prepared.leads.online, if_pos rfl, prepared.kv_eq operational]
  have sameId :
      (settled.replicas leader).id = (shard.replicas leader).id := by
    rw [prepared.operational.coherent.ids, prepared.shardId,
      operational.coherent.ids]
  have notFalse : ¬ (true = false) := Bool.true_eq_false.mp
  unfold get readAnswer
  simp only [Journaled.bind_apply, Journaled.read_apply,
    Outcome.andThen_ok, prepared.runs, Journaled.ite_apply,
    if_neg notFalse, foundLeader, reads, sameId]
  cases (shard.replicas leader).store.kv (cString key) with
  | none =>
      simp only [Journaled.pure_apply, Outcome.prepend_mk,
        List.append_nil, List.nil_append]
  | some value =>
      simp only [Journaled.pure_apply, Outcome.prepend_mk,
        List.append_nil, List.nil_append]

/-- A read without a leader and without a majority. -/
theorem Operational.get_unavailable
    (operational : Operational agreed bound shard)
    (notAvailable : ¬ shard.Available) (key : Bytes) :
    get key shard =
      ⟨.ok
        { shard := shard.shardId
          status := 503
          message := bytes "no quorum available for leader election" },
        shard, []⟩ := by
  have fails := operational.ensureLeader_fails notAvailable
  unfold get
  simp only [Journaled.bind_apply, Journaled.read_apply,
    Outcome.andThen_ok, fails, Journaled.ite_apply, if_true,
    Journaled.pure_apply, Outcome.prepend_mk, List.append_nil]

theorem getAnswer_readAnswer
    (available : shard.Available) (isLeading : shard.leading = some leader)
    (key : Bytes) :
    GetAnswer key shard (shard.readAnswer leader key) := by
  unfold readAnswer
  cases entry : (shard.replicas leader).store.kv (cString key) with
  | none =>
      exact .missing available isLeading entry rfl rfl
  | some value =>
      exact .found available isLeading entry rfl rfl rfl

/-- The specification of a read. -/
theorem Operational.get_spec
    (operational : Operational agreed bound shard)
    (agree : DurableAgree agreed bound ⟨shard.files, elections⟩)
    (key : Bytes) :
    ∃ result journal bound' after elections',
      get key shard = ⟨.ok result, after, journal⟩ ∧
        Completed NoRow agreed shard elections journal agreed bound'
          after elections' ∧
        (∀ position,
          (after.replicas position).online =
            (shard.replicas position).online) ∧
        GetAnswer key shard result := by
  by_cases available : shard.Available
  · obtain ⟨bound', settled, leader, journal, elections', prepared⟩ :=
      operational.prepared agree available
    exact ⟨_, journal, bound', settled, elections',
      prepared.get_eq operational key, prepared.completed NoRow,
      prepared.online,
      getAnswer_readAnswer available prepared.isLeading key⟩
  · exact ⟨_, [], bound, shard, elections,
      operational.get_unavailable available key,
      operational.completed_refl agree NoRow, fun _ => rfl,
      .unavailable available rfl rfl⟩

/-- A read that found a value says so, and which replica answered. -/
theorem Operational.get_found
    (operational : Operational agreed bound shard)
    (agree : DurableAgree agreed bound ⟨shard.files, elections⟩)
    {key : Bytes} {result : OperationResult}
    (returned : (get key shard).result = .ok result)
    (found : result.status = 200) :
    result.ok = true ∧ result.message = bytes "ok" ∧
      ∃ leader : Fin count,
        result.leader = replicaId shard.shardId leader := by
  by_cases available : shard.Available
  · obtain ⟨_, settled, leader, _, _, prepared⟩ :=
      operational.prepared agree available
    rw [prepared.get_eq operational] at returned
    cases returned
    unfold readAnswer at found ⊢
    split at found
    · cases found
    · exact ⟨rfl, rfl, leader, operational.coherent.ids leader⟩
  · rw [operational.get_unavailable available] at returned
    cases returned
    cases found

/-- The specification of an election on request. -/
theorem Operational.electLeader_spec
    (operational : Operational agreed bound shard)
    (agree : DurableAgree agreed bound ⟨shard.files, elections⟩) :
    ∃ answer journal bound' after elections',
      electLeader shard = ⟨.ok answer, after, journal⟩ ∧
        Completed NoRow agreed shard elections journal agreed bound'
          after elections' ∧
        ∀ position,
          (after.replicas position).online =
            (shard.replicas position).online := by
  by_cases available : shard.Available
  · obtain ⟨bound', settled, leader, journal, elections', prepared⟩ :=
      operational.prepared agree available
    exact ⟨true, journal, bound', settled, elections', prepared.runs,
      prepared.completed NoRow, prepared.online⟩
  · exact ⟨false, [], bound, shard, elections,
      operational.ensureLeader_fails available,
      operational.completed_refl agree NoRow, fun _ => rfl⟩

end Read

/-! ## Failures -/

/-- A replica after `set_online`. -/
def switched (replica : RaftReplica) (online : Bool) : RaftReplica :=
  { replica with
    online := online
    role := if online then replica.role else .follower }

section Switch

variable {agreed : List LogEntry} {bound : Int} {shard : Shard count}
  {elections : List Int}

theorem onReplica_setOnline
    (shard : Shard count) (position : Fin count) (online : Bool) :
    onReplica position (RaftReplica.setOnline online) shard =
      ⟨.ok (),
        shard.withReplica position
          (switched (shard.replicas position) online),
        []⟩ :=
  rfl

theorem withSwitched_store
    (shard : Shard count) (position : Fin count) (online : Bool)
    (tested : Fin count) :
    ((shard.withReplica position
        (switched (shard.replicas position) online)).replicas
          tested).store =
      (shard.replicas tested).store := by
  by_cases same : tested = position
  · subst same
    rw [withReplica_self]
    rfl
  · rw [withReplica_of_ne shard _ same]

theorem withSwitched_files
    (shard : Shard count) (position : Fin count) (online : Bool) :
    (shard.withReplica position
      (switched (shard.replicas position) online)).files = shard.files :=
  funext (withSwitched_store shard position online)

theorem withSwitched_id
    (shard : Shard count) (position : Fin count) (online : Bool)
    (tested : Fin count) :
    ((shard.withReplica position
        (switched (shard.replicas position) online)).replicas tested).id =
      (shard.replicas tested).id := by
  by_cases same : tested = position
  · subst same
    rw [withReplica_self]
    rfl
  · rw [withReplica_of_ne shard _ same]

theorem withSwitched_term
    (shard : Shard count) (position : Fin count) (online : Bool)
    (tested : Fin count) :
    ((shard.withReplica position
        (switched (shard.replicas position) online)).replicas
          tested).currentTerm =
      (shard.replicas tested).currentTerm := by
  by_cases same : tested = position
  · subst same
    rw [withReplica_self]
    rfl
  · rw [withReplica_of_ne shard _ same]

theorem Coherent.withSwitched
    (coherent : Coherent agreed bound shard)
    (position : Fin count) (online : Bool) :
    Coherent agreed bound
      (shard.withReplica position
        (switched (shard.replicas position) online)) where
  ids := by
    intro tested
    rw [withSwitched_id]
    exact coherent.ids tested
  inStep := by
    intro tested
    by_cases same : tested = position
    · subst same
      rw [withReplica_self]
      have inStep := coherent.inStep tested
      exact ⟨inStep.term, inStep.commit, inStep.applied, inStep.caughtUp⟩
    · rw [withReplica_of_ne shard _ same]
      exact coherent.inStep tested
  agree := by
    rw [withSwitched_files]
    exact coherent.agree

/-- Nothing changes in the databases. -/
theorem completed_of_sameFiles
    {after : Shard count}
    (operational : Operational agreed bound after)
    (agree : DurableAgree agreed bound ⟨shard.files, elections⟩)
    (sameFiles : after.files = shard.files)
    (sameShard : after.shardId = shard.shardId) :
    Completed NoRow agreed shard elections [] agreed bound after
      elections where
  operational := operational
  agree := by
    rw [sameFiles]
    exact agree
  durable := by
    rw [sameFiles]
    rfl
  shardId := sameShard
  changes := by
    refine .kept fun position => ⟨_, .kept _, Or.inl ?_⟩
    exact congrArg SqliteStore.contents (congrFun sameFiles position)
  crash := by
    intro cut
    rw [List.take_nil]
    exact crashPoint_refl agree _ _

/-- A leader that is not the failed replica keeps leading. -/
private theorem leads_withFailed
    {leader failed : Fin count}
    (leads : Leads agreed bound shard leader)
    (different : leader ≠ failed) :
    Leads agreed bound
      (shard.withReplica failed
        (switched (shard.replicas failed) false)) leader := by
  have leaderSame :=
    withReplica_of_ne shard (switched (shard.replicas failed) false)
      different
  refine
    { named := ?_
      online := ?_
      role := ?_
      complete := ?_
      term := ?_
      followers := ?_
      fresh := ?_
      highest := ?_
      level := ?_ }
  · rw [leaderSame]
    exact leads.named
  · rw [leaderSame]
    exact leads.online
  · rw [leaderSame]
    exact leads.role
  · rw [leaderSame]
    exact leads.complete
  · rw [leaderSame]
    exact leads.term
  · intro position notLeader online
    rw [withSwitched_store]
    refine leads.followers position notLeader ?_
    by_cases same : position = failed
    · subst same
      rw [withReplica_self] at online
      cases online
    · rwa [withReplica_of_ne shard _ same] at online
  · intro position notLeader
    rw [withSwitched_store]
    exact leads.fresh position notLeader
  · intro position
    by_cases same : position = failed
    · subst same
      rw [withReplica_self]
      exact leads.highest position
    · rw [withReplica_of_ne shard _ same]
      exact leads.highest position
  · intro position online
    by_cases same : position = failed
    · subst same
      rw [withReplica_self] at online
      cases online
    · rw [withReplica_of_ne shard _ same] at online ⊢
      exact leads.level position online

/-- Failing a replica keeps the invariant. -/
theorem Operational.withFailed
    (operational : Operational agreed bound shard) (failed : Fin count) :
    Operational agreed bound
      { shard.withReplica failed
          (switched (shard.replicas failed) false) with
        leaderId :=
          if shard.leaderId = (shard.replicas failed).id then []
          else shard.leaderId } := by
  have coherent := operational.coherent
  have switchedCoherent := coherent.withSwitched failed false
  have failedRole :
      ((shard.withReplica failed
        (switched (shard.replicas failed) false)).replicas failed).role =
          .follower := by
    rw [withReplica_self]
    rfl
  refine
    { coherent :=
        ⟨switchedCoherent.ids, switchedCoherent.inStep,
          switchedCoherent.agree⟩
      majority := ?_
      ownTerms := ?_
      roles := ?_
      led := ?_ }
  · refine operational.majority.trans (tally_mono fun position holds => ?_)
    change decide
      (((shard.withReplica failed
        (switched (shard.replicas failed) false)).replicas
          position).store.committed = agreed) = true
    rw [withSwitched_store]
    exact holds
  · intro position entry member
    change entry ∈ ((shard.withReplica failed
      (switched (shard.replicas failed) false)).replicas
        position).store.log at member
    change entry.term ≤ ((shard.withReplica failed
      (switched (shard.replicas failed) false)).replicas
        position).currentTerm
    rw [withSwitched_store] at member
    rw [withSwitched_term]
    exact operational.ownTerms position entry member
  · intro position isLeader
    change ((shard.withReplica failed
      (switched (shard.replicas failed) false)).replicas position).role =
        .leader at isLeader
    change (if shard.leaderId = (shard.replicas failed).id then []
      else shard.leaderId) =
        ((shard.withReplica failed
          (switched (shard.replicas failed) false)).replicas position).id
    have different : position ≠ failed := by
      intro same
      rw [same, failedRole] at isLeader
      cases isLeader
    rw [withReplica_of_ne shard _ different] at isLeader ⊢
    have named := operational.roles position isLeader
    rw [if_neg, named]
    intro wasFailed
    exact different (coherent.id_injective (named.symm.trans wasFailed))
  · by_cases wasFailed : shard.leaderId = (shard.replicas failed).id
    · left
      exact if_pos wasFailed
    · rcases operational.led with noName | ⟨leader, leads⟩
      · left
        exact (if_neg wasFailed).trans noName
      · right
        have different : leader ≠ failed := by
          intro same
          subst same
          exact wasFailed leads.named
        have keeps := leads_withFailed leads different
        exact ⟨leader,
          { named := (if_neg wasFailed).trans keeps.named
            online := keeps.online
            role := keeps.role
            complete := keeps.complete
            term := keeps.term
            followers := keeps.followers
            fresh := keeps.fresh
            highest := keeps.highest
            level := keeps.level }⟩

/-- The specification of a failure. -/
theorem Operational.failReplica_spec
    (operational : Operational agreed bound shard)
    (agree : DurableAgree agreed bound ⟨shard.files, elections⟩)
    (failed : Bytes) :
    ∃ answer after,
      failReplica failed shard = ⟨.ok answer, after, []⟩ ∧
        Completed NoRow agreed shard elections [] agreed bound after
          elections := by
  cases found : shard.findReplica failed with
  | none =>
      refine ⟨false, shard, ?_,
        completed_of_sameFiles operational agree rfl rfl⟩
      unfold failReplica
      simp only [Journaled.bind_apply, Journaled.read_apply,
        Outcome.andThen_ok, found, Journaled.pure_apply,
        Outcome.prepend_mk, List.append_nil]
  | some position =>
      have isFailed := findReplica_id found
      have after := operational.withFailed position
      rw [isFailed] at after
      refine ⟨true, _, ?_, completed_of_sameFiles after agree
        (withSwitched_files shard position false) rfl⟩
      unfold failReplica setLeaderId
      by_cases wasFailed : shard.leaderId = failed
      · simp only [Journaled.bind_apply, Journaled.read_apply,
          Outcome.andThen_ok, found, onReplica_setOnline,
          if_pos wasFailed, Journaled.modify_apply,
          Journaled.pure_apply, Outcome.prepend_mk, List.append_nil]
      · simp only [Journaled.bind_apply, Journaled.read_apply,
          Outcome.andThen_ok, found, onReplica_setOnline,
          if_neg wasFailed, Journaled.pure_apply, Outcome.prepend_mk,
          List.append_nil]
        rfl

end Switch

/-! ## Recoveries -/

section Recover

variable {agreed : List LogEntry} {bound : Int} {shard : Shard count}
  {leader recovered : Fin count} {elections : List Int}

/-- The shard after a replica came back and was synced with the leader. -/
def resynced
    (shard : Shard count) (agreed : List LogEntry) (bound : Int)
    (recovered : Fin count) : Shard count :=
  shard.withReplica recovered
    ((switched (shard.replicas recovered) true).afterInstall bound agreed)

theorem resynced_self
    (shard : Shard count) (agreed : List LogEntry) (bound : Int)
    (recovered : Fin count) :
    (shard.resynced agreed bound recovered).replicas recovered =
      (switched (shard.replicas recovered) true).afterInstall
        bound agreed :=
  withReplica_self _ _ _

theorem resynced_of_ne
    (shard : Shard count) (agreed : List LogEntry) (bound : Int)
    {recovered tested : Fin count} (different : tested ≠ recovered) :
    (shard.resynced agreed bound recovered).replicas tested =
      shard.replicas tested :=
  withReplica_of_ne _ _ different

theorem Leads.syncFollower_recovered
    (leads : Leads agreed bound shard leader)
    (coherent : Coherent agreed bound shard)
    (different : recovered ≠ leader) :
    syncFollower recovered leader
        (shard.withReplica recovered
          (switched (shard.replicas recovered) true)) =
      ⟨.ok (), shard.resynced agreed bound recovered,
        (RaftReplica.installStatements bound agreed).map
          (.executed recovered)⟩ := by
  have leaderSame :=
    withReplica_of_ne shard (switched (shard.replicas recovered) true)
      (Ne.symm different)
  have wellFormed :
      ((shard.withReplica recovered
        (switched (shard.replicas recovered) true)).replicas
          leader).store.WellFormed := by
    rw [leaderSame]
    exact coherent.wellFormed leader
  have complete :
      ((shard.withReplica recovered
        (switched (shard.replicas recovered) true)).replicas
          leader).store.committed = agreed := by
    rw [leaderSame]
    exact leads.complete
  have synced :=
    syncFollower_apply
      (by rw [withReplica_self]; rfl) wellFormed
      (by rw [leaderSame]; exact (coherent.inStep leader).commit)
      complete
      (by
        rw [withReplica_self, leaderSame, leads.term]
        exact leads.highest recovered)
  rw [withReplica_self, leaderSame, leads.term] at synced
  rw [synced]
  unfold resynced withReplica
  simp

private theorem resynced_kept_or_copy
    (coherent : Coherent agreed bound shard) (recovered : Fin count)
    (position : Fin count) :
    ((shard.resynced agreed bound recovered).replicas position).store =
        (shard.replicas position).store ∨
      position = recovered ∧
        Copy agreed
          ((shard.resynced agreed bound recovered).replicas
            position).store ∧
        ((shard.resynced agreed bound recovered).replicas
          position).store.committed = agreed := by
  by_cases same : position = recovered
  · subst same
    rw [resynced_self]
    exact Or.inr ⟨rfl,
      RaftReplica.copy_afterInstall _ _ coherent.agree.wellFormedAgreed,
      RaftReplica.committed_afterInstall _ _
        coherent.agree.wellFormedAgreed⟩
  · rw [resynced_of_ne shard agreed bound same]
    exact Or.inl rfl

theorem Coherent.evolves_resynced
    (coherent : Coherent agreed bound shard)
    (recovered position : Fin count) :
    Contents.Evolves agreed (shard.contents position)
      ((shard.resynced agreed bound recovered).contents position) := by
  unfold contents
  rcases resynced_kept_or_copy coherent recovered position with
    same | ⟨_, copy, complete⟩
  · rw [same]
    exact .kept _
  · rw [copy.contents complete]
    exact .copied _

private theorem coherent_resynced
    (leads : Leads agreed bound shard leader)
    (coherent : Coherent agreed bound shard)
    (different : recovered ≠ leader) :
    Coherent agreed bound (shard.resynced agreed bound recovered) where
  ids := by
    intro position
    by_cases same : position = recovered
    · subst same
      rw [resynced_self]
      exact coherent.ids position
    · rw [resynced_of_ne shard agreed bound same]
      exact coherent.ids position
  inStep := by
    intro position
    by_cases same : position = recovered
    · subst same
      rw [resynced_self]
      exact RaftReplica.inStep_afterInstall _ _
        coherent.agree.wellFormedAgreed
    · rw [resynced_of_ne shard agreed bound same]
      exact coherent.inStep position
  agree := by
    have leaderKept :
        Kept (shard.files leader)
          ((shard.resynced agreed bound recovered).files leader) := by
      change Kept _
        ((shard.resynced agreed bound recovered).replicas leader).store
      rw [resynced_of_ne shard agreed bound (Ne.symm different)]
      exact Kept.refl (coherent.wellFormed leader)
    refine coherent.agree.of_kept_or_copy le_rfl ?_ leads.complete
      leaderKept ⟨leader, ?_⟩
    · intro position
      rcases resynced_kept_or_copy coherent recovered position with
        same | ⟨_, copy, _⟩
      · left
        change Kept _
          ((shard.resynced agreed bound recovered).replicas
            position).store
        rw [same]
        exact Kept.refl (coherent.wellFormed position)
      · exact Or.inr copy
    · refine le_trans ?_ leaderKept.term
      rw [← leads.term]
      exact (coherent.inStep leader).term.le

private theorem leads_resynced
    (leads : Leads agreed bound shard leader)
    (coherent : Coherent agreed bound shard)
    (different : recovered ≠ leader) :
    Leads agreed bound (shard.resynced agreed bound recovered) leader := by
  have leaderSame :=
    resynced_of_ne shard agreed bound (Ne.symm different)
  have agreedWellFormed := coherent.agree.wellFormedAgreed
  refine
    { named := ?_
      online := ?_
      role := ?_
      complete := ?_
      term := ?_
      followers := ?_
      fresh := ?_
      highest := ?_
      level := ?_ }
  · rw [leaderSame]
    exact leads.named
  · rw [leaderSame]
    exact leads.online
  · rw [leaderSame]
    exact leads.role
  · rw [leaderSame]
    exact leads.complete
  · rw [leaderSame]
    exact leads.term
  · intro position notLeader online
    by_cases same : position = recovered
    · subst same
      rw [resynced_self]
      exact ⟨RaftReplica.log_afterInstall _ _ agreedWellFormed,
        RaftReplica.committed_afterInstall _ _ agreedWellFormed⟩
    · rw [resynced_of_ne shard agreed bound same] at online ⊢
      exact leads.followers position notLeader online
  · intro position notLeader
    by_cases same : position = recovered
    · subst same
      rw [resynced_self]
      left
      rw [RaftReplica.log_afterInstall _ _ agreedWellFormed]
    · rw [resynced_of_ne shard agreed bound same]
      exact leads.fresh position notLeader
  · intro position
    by_cases same : position = recovered
    · subst same
      rw [resynced_self]
      exact le_refl _
    · rw [resynced_of_ne shard agreed bound same]
      exact leads.highest position
  · intro position online
    by_cases same : position = recovered
    · subst same
      rw [resynced_self]
      rfl
    · rw [resynced_of_ne shard agreed bound same] at online ⊢
      exact leads.level position online

theorem Operational.resynced
    (operational : Operational agreed bound shard)
    (leads : Leads agreed bound shard leader)
    (different : recovered ≠ leader) :
    Operational agreed bound (shard.resynced agreed bound recovered) where
  coherent := coherent_resynced leads operational.coherent different
  majority := by
    refine operational.majority.trans (tally_mono fun position holds => ?_)
    refine decide_eq_true ?_
    rcases resynced_kept_or_copy operational.coherent recovered position
      with same | ⟨_, _, complete⟩
    · rw [same]
      exact of_decide_eq_true holds
    · exact complete
  ownTerms := by
    intro position entry member
    by_cases same : position = recovered
    · subst same
      have after := coherent_resynced leads operational.coherent different
      refine ((after.file position).termBound entry member).trans ?_
      rw [resynced_self]
      exact le_refl _
    · rw [resynced_of_ne shard agreed bound same] at member ⊢
      exact operational.ownTerms position entry member
  roles := by
    intro position isLeader
    by_cases same : position = recovered
    · subst same
      rw [resynced_self] at isLeader
      cases isLeader
    · rw [resynced_of_ne shard agreed bound same] at isLeader ⊢
      exact operational.roles position isLeader
  led := Or.inr
    ⟨leader, leads_resynced leads operational.coherent different⟩

/-- Crash points of a recovery. -/
theorem Leads.crashSafe_resync
    (leads : Leads agreed bound shard leader)
    (coherent : Coherent agreed bound shard)
    (different : recovered ≠ leader)
    (agree : DurableAgree agreed bound ⟨shard.files, elections⟩)
    (Row : LogEntry → Prop) (Torn : Prop) :
    CrashSafe Durable.perform
      (CrashPoint Row Torn agreed ⟨shard.files, elections⟩)
      ⟨shard.files, elections⟩
      ((RaftReplica.installStatements bound agreed).map
        (.executed recovered)) := by
  have installs :
      CrashSafe Durable.perform _ ⟨shard.files, elections⟩
        ((RaftReplica.installStatements bound agreed).map
          (.executed recovered)) :=
    crashSafe_executed
      (fun position store =>
        store = shard.files position ∨
          position = recovered ∧ Copy agreed store)
      (fun _ => Or.inl rfl)
      ((crashSafe_installStatements coherent.agree.wellFormedAgreed
        (shard.files recovered) bound).mono fun _ leaves =>
          leaves.imp_right fun copy => ⟨rfl, copy⟩)
  refine installs.mono ?_
  rintro reached ⟨sameElections, left⟩
  have leaderKept :
      Kept (shard.files leader) (reached.files leader) := by
    rw [(left leader).resolve_right fun copied =>
      different copied.1.symm]
    exact Kept.refl (coherent.wellFormed leader)
  refine ⟨agreed, bound, agree.of_sameElections ?_ sameElections,
    List.prefix_refl _, ?_⟩
  · refine coherent.agree.of_kept_or_copy le_rfl ?_ leads.complete
      leaderKept ⟨leader, ?_⟩
    · intro position
      rcases left position with same | ⟨_, copy⟩
      · rw [same]
        exact Or.inl (Kept.refl (coherent.wellFormed position))
      · exact Or.inr copy
    · refine le_trans ?_ leaderKept.term
      rw [← leads.term]
      exact (coherent.inStep leader).term.le
  · intro position complete
    rcases left position with same | ⟨_, copy⟩
    · rw [same]
      exact .evolved (.kept _)
    · rw [copy.contents complete]
      exact .evolved (.copied _)

/-- Without a leader a replica may come back at any time. -/
theorem Operational.withReturned
    (operational : Operational agreed bound shard)
    (noLeader : shard.currentLeader = none) (recovered : Fin count) :
    Operational agreed bound
      (shard.withReplica recovered
        (switched (shard.replicas recovered) true)) where
  coherent := operational.coherent.withSwitched recovered true
  majority := by
    refine operational.majority.trans (tally_mono fun position holds => ?_)
    rw [withSwitched_store]
    exact holds
  ownTerms := by
    intro position entry member
    rw [withSwitched_store] at member
    rw [withSwitched_term]
    exact operational.ownTerms position entry member
  roles := by
    intro position isLeader
    rw [withSwitched_id]
    refine operational.roles position ?_
    by_cases same : position = recovered
    · subst same
      rw [withReplica_self] at isLeader
      exact isLeader
    · rwa [withReplica_of_ne shard _ same] at isLeader
  led := Or.inl (operational.leaderId_of_noLeader noLeader)

private theorem withReturned_of_online
    (online : (shard.replicas recovered).online = true) :
    shard.withReplica recovered
        (switched (shard.replicas recovered) true) = shard := by
  have same :
      switched (shard.replicas recovered) true =
        shard.replicas recovered := by
    unfold switched
    rw [if_pos rfl, ← online]
  unfold withReplica
  rw [same, Function.update_eq_self]

/-- A recovery after the leader has been found or elected. -/
private theorem Prepared.completed_resync
    {settled : Shard count} {journal : List (ShardEvent count)}
    {elections' : List Int}
    (prepared :
      Prepared agreed shard elections bound settled leader journal
        elections')
    (different : recovered ≠ leader) :
    Completed NoRow agreed shard elections
      (journal ++
        (RaftReplica.installStatements bound agreed).map
          (.executed recovered))
      agreed bound (settled.resynced agreed bound recovered)
      elections' := by
  have operational := prepared.operational
  have leads := prepared.leads
  refine
    { operational := operational.resynced leads different
      agree := prepared.agree.of_sameElections
        (operational.resynced leads different).coherent.agree rfl
      durable := ?_
      shardId := prepared.shardId
      changes := .kept fun position =>
        ⟨_, (prepared.evolves position).trans
          (operational.coherent.evolves_resynced recovered position),
          Or.inl rfl⟩
      crash := ?_ }
  · rw [Durable.after_append, prepared.durable, Durable.after_executed]
    congr 1
    unfold Shard.resynced withReplica
    rw [files_update]
    rfl
  · have safe (Torn : Prop) :
        CrashSafe Durable.perform
          (CrashPoint NoRow Torn agreed ⟨shard.files, elections⟩)
          ⟨shard.files, elections⟩
          (journal ++
            (RaftReplica.installStatements bound agreed).map
              (.executed recovered)) := by
      rw [crashSafe_append]
      refine ⟨prepared.crashSafe NoRow Torn, ?_⟩
      change CrashSafe _ _ (Durable.after ⟨shard.files, elections⟩ _) _
      rw [prepared.durable]
      exact (leads.crashSafe_resync operational.coherent different
        prepared.agree NoRow Torn).mono fun _ crash =>
          prepared.crashPoint crash
    exact fun cut => safe _ cut

/-- An operation that writes no rows depends on the files only. -/
private theorem Completed.of_sameFiles
    {start after : Shard count} {journal : List (ShardEvent count)}
    {agreed' : List LogEntry} {bound' : Int} {elections' : List Int}
    (completed :
      Completed NoRow agreed start elections journal agreed' bound' after
        elections')
    (sameFiles : start.files = shard.files)
    (sameShard : start.shardId = shard.shardId) :
    Completed NoRow agreed shard elections journal agreed' bound' after
      elections' := by
  have sameContents : start.contents = shard.contents :=
    funext fun position =>
      congrArg SqliteStore.contents (congrFun sameFiles position)
  obtain ⟨operational, agree, durable, shardId, changes, crash⟩ :=
    completed
  rw [sameFiles] at durable crash
  rw [sameContents] at changes
  refine ⟨operational, agree, durable, shardId.trans sameShard, changes,
    fun cut => ?_⟩
  exact (crash cut).mono (fun _ => id) fun _ isRow => isRow.elim

/-- `recover_replica` once the replica is back online and a leader is there. -/
private theorem recoverReplica_led
    {settled : Shard count} {journal : List (ShardEvent count)}
    {wanted : Bytes}
    (found : shard.findReplica wanted = some recovered)
    (elects :
      ensureLeader
          (shard.withReplica recovered
            (switched (shard.replicas recovered) true)) =
        ⟨.ok true, settled, journal⟩)
    (isLeader : settled.currentLeader = some leader) :
    recoverReplica wanted shard =
      if (settled.replicas leader).id ≠ (settled.replicas recovered).id then
        ((syncFollower recovered leader settled).andThen fun _ =>
          pure true).prepend journal
      else
        ⟨.ok true, settled, journal⟩ := by
  unfold recoverReplica
  simp only [Journaled.bind_apply, Journaled.read_apply,
    Outcome.andThen_ok, found, onReplica_setOnline, elects, if_true, isLeader,
    Outcome.prepend_nil]
  split
  · rfl
  · simp only [Journaled.pure_apply, Outcome.prepend_mk, List.append_nil]

/-- A recovery beside a leader copies it, unless it is the leader's own. -/
private theorem Operational.recoverReplica_beside
    (operational : Operational agreed bound shard)
    (agree : DurableAgree agreed bound ⟨shard.files, elections⟩)
    {wanted : Bytes} (found : shard.findReplica wanted = some recovered)
    (isLeader : shard.currentLeader = some leader) :
    ∃ journal after,
      recoverReplica wanted shard = ⟨.ok true, after, journal⟩ ∧
        Completed NoRow agreed shard elections journal agreed bound after
          elections := by
  have leads := operational.leads_of_currentLeader isLeader
  have prepared := operational.prepared_of_leader isLeader agree
  by_cases isRecovered : recovered = leader
  · subst isRecovered
    have unchanged := withReturned_of_online leads.online
    have elects := prepared.runs
    rw [← unchanged] at elects
    have runs := recoverReplica_led found elects
      (by rw [unchanged]; exact isLeader)
    rw [if_neg (not_not_intro rfl), unchanged] at runs
    exact ⟨[], shard, runs, prepared.completed NoRow⟩
  · have leaderSame :=
      withReplica_of_ne shard
        (switched (shard.replicas recovered) true)
        (Ne.symm isRecovered)
    have stillLeader :
        (shard.withReplica recovered
          (switched (shard.replicas recovered) true)).currentLeader =
            some leader := by
      refine currentLeader_eq_some
        (operational.coherent.withSwitched recovered true) ?_ ?_
      · rw [leaderSame]
        exact leads.named
      · rw [leaderSame]
        exact leads.online
    have runs :=
      recoverReplica_led found (ensureLeader_led stillLeader) stillLeader
    rw [if_pos, leads.syncFollower_recovered
      operational.coherent isRecovered] at runs
    · simp only [Outcome.andThen_ok, Journaled.pure_apply,
        Outcome.prepend_mk, List.append_nil] at runs
      exact ⟨_, _, runs, prepared.completed_resync isRecovered⟩
    · rw [withSwitched_id, withSwitched_id]
      exact fun sameId => isRecovered
        (operational.coherent.id_injective sameId).symm

/-- A recovery without a leader elects one if the majority is back. -/
private theorem Operational.recoverReplica_leaderless
    (operational : Operational agreed bound shard)
    (agree : DurableAgree agreed bound ⟨shard.files, elections⟩)
    {wanted : Bytes} (found : shard.findReplica wanted = some recovered)
    (noLeader : shard.currentLeader = none) :
    ∃ journal bound' after elections',
      recoverReplica wanted shard = ⟨.ok true, after, journal⟩ ∧
        Completed NoRow agreed shard elections journal agreed bound'
          after elections' := by
  have sameFiles := withSwitched_files shard recovered true
  have returned := operational.withReturned noLeader recovered
  have agreeReturned := agree
  rw [← sameFiles] at agreeReturned
  by_cases available :
      (shard.withReplica recovered
        (switched (shard.replicas recovered) true)).Available
  · obtain ⟨bound', settled, leader, journal, elections', prepared⟩ :=
      returned.prepared agreeReturned available
    have runs := recoverReplica_led found prepared.runs
      (prepared.operational.currentLeader_eq prepared.leads)
    by_cases isRecovered : recovered = leader
    · subst isRecovered
      rw [if_neg (not_not_intro rfl)] at runs
      exact ⟨journal, bound', settled, elections', runs,
        (prepared.completed NoRow).of_sameFiles sameFiles rfl⟩
    · have isOnline :
          (settled.replicas recovered).online = true := by
        rw [prepared.online, withReplica_self]
        rfl
      have synced :=
        prepared.leads.syncFollower_recovered
          prepared.operational.coherent isRecovered
      rw [withReturned_of_online isOnline] at synced
      rw [if_pos, synced] at runs
      · simp only [Outcome.andThen_ok, Journaled.pure_apply,
          Outcome.prepend_mk, List.append_nil] at runs
        exact ⟨_, bound', _, elections', runs,
          (prepared.completed_resync isRecovered).of_sameFiles
            sameFiles rfl⟩
      · exact fun sameId => isRecovered
          (prepared.operational.coherent.id_injective sameId).symm
  · have fails := returned.ensureLeader_fails available
    refine ⟨[], bound, _, elections, ?_,
      (returned.completed_refl agreeReturned NoRow).of_sameFiles
        sameFiles rfl⟩
    unfold recoverReplica
    simp only [Journaled.bind_apply, Journaled.read_apply,
      Outcome.andThen_ok, found, onReplica_setOnline, fails,
      Bool.false_eq_true, if_false, Journaled.pure_apply,
      Outcome.prepend_mk, List.append_nil]

/-- The specification of a recovery. -/
theorem Operational.recoverReplica_spec
    (operational : Operational agreed bound shard)
    (agree : DurableAgree agreed bound ⟨shard.files, elections⟩)
    (wanted : Bytes) :
    ∃ answer journal bound' after elections',
      recoverReplica wanted shard = ⟨.ok answer, after, journal⟩ ∧
        Completed NoRow agreed shard elections journal agreed bound'
          after elections' := by
  cases found : shard.findReplica wanted with
  | none =>
      refine ⟨false, [], bound, shard, elections, ?_,
        operational.completed_refl agree NoRow⟩
      unfold recoverReplica
      simp only [Journaled.bind_apply, Journaled.read_apply,
        Outcome.andThen_ok, found, Journaled.pure_apply,
        Outcome.prepend_mk, List.append_nil]
  | some recovered =>
      cases isLeader : shard.currentLeader with
      | some leader =>
          obtain ⟨journal, after, runs, completed⟩ :=
            operational.recoverReplica_beside agree found isLeader
          exact ⟨true, journal, bound, after, elections, runs, completed⟩
      | none =>
          exact ⟨true,
            operational.recoverReplica_leaderless agree found isLeader⟩

end Recover

/-! ## Restarts -/

section Start

variable {agreed : List LogEntry} {bound : Int} {files : Files count}
  {elections : List Int}

/-- The shard when its replicas are loaded. -/
def loadedShard (shardId : Nat) (files : Files count) : Shard count where
  shardId := shardId
  replicas := fun position =>
    RaftReplica.loaded (replicaId shardId position) (files position)

private theorem kept_loaded
    (id : Bytes) {store : SqliteStore} (wellFormed : store.WellFormed) :
    Kept store (RaftReplica.loaded id store).store :=
  (crashSafe_loadStatements wellFormed).finish

/-- Loading makes a coherent shard out of files that agree. -/
theorem FilesAgree.coherent_loadedShard
    (agree : FilesAgree agreed bound files) (shardId : Nat) :
    Coherent agreed bound (loadedShard shardId files) where
  ids := fun _ => rfl
  inStep := fun position =>
    (RaftReplica.inStep_loaded _
      (agree.each position).wellFormed.appliedLe).1
  agree := by
    have kept (position : Fin count) :
        Kept (files position)
          ((loadedShard shardId files).files position) :=
      kept_loaded _ (agree.each position).wellFormed
    obtain ⟨holder, complete⟩ := agree.holder
    obtain ⟨position, remembers⟩ := agree.remembered
    exact agree.of_kept_or_copy le_rfl
      (fun position => Or.inl (kept position)) complete (kept holder)
      ⟨position, remembers.trans (kept position).term⟩

theorem FilesAgree.electable_loadedShard
    (agree : FilesAgree agreed bound files) (positive : 0 < count)
    (shardId : Nat) :
    Electable agreed bound (loadedShard shardId files) where
  coherent := agree.coherent_loadedShard shardId
  noLeader := currentLeader_eq_none_of_nil
    (agree.coherent_loadedShard shardId) rfl
  quorum := by
    have everybody :
        (tally fun position =>
          ((loadedShard shardId files).replicas position).online) =
            count :=
      tally_all fun _ => rfl
    rw [everybody]
    unfold majority
    omega
  holder := by
    obtain ⟨holder, complete⟩ := agree.holder
    refine ⟨holder, rfl, ?_⟩
    exact (kept_loaded _ (agree.each holder).wellFormed).committed.trans
      complete
  offlineTerms := fun _ offline => absurd rfl offline

/-- What a start leaves, and what a crash may leave of it. -/
structure Started
    (agreed : List LogEntry) (before : Durable count)
    (journal : List (ShardEvent count)) (bound : Int)
    (after : Shard count) (elections : List Int) : Prop where
  operational : Operational agreed bound after
  agree : DurableAgree agreed bound ⟨after.files, elections⟩
  durable : before.after journal = ⟨after.files, elections⟩
  online : ∀ position, (after.replicas position).online = true
  hasLeader : ∃ leader, Leads agreed bound after leader
  evolves :
    ∀ position,
      Contents.Evolves agreed (before.files position).contents
        (after.contents position)
  crash :
    ∀ cut,
      CrashPoint NoRow False agreed before
        (before.after (journal.take cut))

private theorem loads_overwrite
    (agree : FilesAgree agreed bound files) (shardId : Nat) :
    Overwrites (opened shardId files) (List.finRange count)
      (loadedShard shardId files).replicas
      (fun position => RaftReplica.loadStatements (files position))
      (fun _ => ())
      (fun position => onReplica position RaftReplica.loadState) := by
  intro position _ reached same _
  apply onReplica_apply
  rw [same]
  exact RaftReplica.loadState_apply (agree.each position).wellFormed

/-- The loop of the constructor loads every replica. -/
theorem FilesAgree.forEach_loadState
    (agree : FilesAgree agreed bound files) (shardId : Nat) :
    Journaled.forEach
        (fun position => onReplica position RaftReplica.loadState)
        (List.finRange count) (opened shardId files) =
      ⟨.ok (), loadedShard shardId files,
        blocks (fun position => RaftReplica.loadStatements (files position))
          (List.finRange count)⟩ := by
  have loads :=
    forEach_overwrites (List.nodup_finRange count)
      (loads_overwrite agree shardId)
  have allLoaded :
      (opened shardId files).overwrite (List.finRange count)
          (loadedShard shardId files).replicas =
        loadedShard shardId files := by
    unfold overwrite
    simp only [List.mem_finRange, if_true]
    rfl
  rwa [allLoaded] at loads

/-- The databases when every replica is loaded. -/
private theorem FilesAgree.durable_loading
    (agree : FilesAgree agreed bound files) (shardId : Nat)
    (elections : List Int) :
    Durable.after ⟨files, elections⟩
        (blocks
          (fun position => RaftReplica.loadStatements (files position))
          (List.finRange count)) =
      ⟨(loadedShard shardId files).files, elections⟩ := by
  have reached :=
    durable_eq
      (mirrors_forEach
        (fun position : Fin count =>
          journals_onReplica position RaftReplica.journals_loadState)
        (List.finRange count)) (agree.forEach_loadState shardId) elections
  exact reached.trans
    (congrArg (Durable.mk _) (Durable.after_blocks_elections _ _ _))

/-- A crash while the replicas are loaded loses nothing. -/
private theorem DurableAgree.crashSafe_loading
    (agree : DurableAgree agreed bound ⟨files, elections⟩) :
    CrashSafe Durable.perform
      (CrashPoint NoRow False agreed ⟨files, elections⟩)
      ⟨files, elections⟩
      (blocks (fun position => RaftReplica.loadStatements (files position))
        (List.finRange count)) := by
  have filesAgree : FilesAgree agreed bound files := agree.files
  have loads :
      CrashSafe Durable.perform _ ⟨files, elections⟩
        (blocks
          (fun position => RaftReplica.loadStatements (files position))
          (List.finRange count)) :=
    crashSafe_blocks (fun position => Kept (files position))
      (List.nodup_finRange count)
      (fun position => Kept.refl (filesAgree.each position).wellFormed)
      (fun position _ =>
        crashSafe_loadStatements (filesAgree.each position).wellFormed)
  refine loads.mono ?_
  rintro reached ⟨sameElections, allKept⟩
  obtain ⟨holder, complete⟩ := filesAgree.holder
  obtain ⟨remembering, remembers⟩ := filesAgree.remembered
  refine ⟨agreed, bound, agree.of_sameElections ?_ sameElections,
    List.prefix_refl _, ?_⟩
  · exact filesAgree.of_kept_or_copy le_rfl
      (fun position => Or.inl (allKept position)) complete
      (allKept holder)
      ⟨remembering, remembers.trans (allKept remembering).term⟩
  · intro position _
    rw [(allKept position).contents]
    exact .evolved (.kept _)

/-- The specification of the constructor. -/
theorem DurableAgree.construct_spec
    (agree : DurableAgree agreed bound ⟨files, elections⟩)
    (positive : 0 < count) (shardId : Nat) :
    ∃ journal bound' after,
      construct shardId files = ⟨.ok (), after, journal⟩ ∧
        after.shardId = shardId ∧
        Started agreed ⟨files, elections⟩ journal bound' after
          (bound' :: elections) := by
  have filesAgree : FilesAgree agreed bound files := agree.files
  have electable := filesAgree.electable_loadedShard positive shardId
  have loads := filesAgree.forEach_loadState shardId
  have kept (position : Fin count) :
      Kept (files position) ((loadedShard shardId files).files position) :=
    kept_loaded _ (filesAgree.each position).wellFormed
  have sameContents (position : Fin count) :
      (loadedShard shardId files).contents position =
        (files position).contents :=
    (kept position).contents
  have loadedAgree :
      DurableAgree agreed bound
        ⟨(loadedShard shardId files).files, elections⟩ :=
    agree.of_sameElections
      (filesAgree.coherent_loadedShard shardId).agree rfl
  obtain ⟨settled, leader, journal, prepared⟩ :=
    electable.prepared loadedAgree
  have loadedDurable :=
    filesAgree.durable_loading shardId elections
  have runs :
      construct shardId files =
        ⟨.ok (), settled,
          blocks
              (fun position => RaftReplica.loadStatements (files position))
              (List.finRange count) ++ journal⟩ := by
    have notEmpty : ¬ count < 1 := by omega
    unfold construct constructor electLeader
    simp only [Journaled.bind_apply, Journaled.ite_apply,
      if_neg notEmpty, Journaled.pure_apply, Outcome.andThen_ok, loads,
      prepared.runs, Outcome.prepend_mk, List.append_nil]
  refine ⟨_, _, settled, runs, prepared.shardId,
    { operational := prepared.operational
      agree := prepared.agree
      durable := by
        rw [Durable.after_append, loadedDurable, prepared.durable]
      online := fun position => prepared.online position
      hasLeader := ⟨leader, prepared.leads⟩
      evolves := fun position => ?_
      crash := ?_ }⟩
  · have evolves := prepared.evolves position
    rw [sameContents] at evolves
    exact evolves
  · change CrashSafe Durable.perform
      (CrashPoint NoRow False agreed ⟨files, elections⟩)
      ⟨files, elections⟩ (_ ++ journal)
    rw [crashSafe_append]
    refine ⟨agree.crashSafe_loading, ?_⟩
    change CrashSafe _ _ (Durable.after ⟨files, elections⟩ _) _
    rw [loadedDurable]
    refine (prepared.crashSafe NoRow False).mono ?_
    rintro reached ⟨agreed', bound', agree', grows, holders⟩
    refine ⟨agreed', bound', agree', grows, fun position complete => ?_⟩
    have touched := holders position complete
    change Contents.Touched _ _ _
      ((loadedShard shardId files).contents position) _ at touched
    rw [sameContents] at touched
    exact touched

end Start

end ShardedKvStore.Shard

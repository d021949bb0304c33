import ShardedKvStore.Shard.Invariant

/-!
# Elections

With a majority online and a complete database among the online ones, an
election always succeeds.  The candidate that `std::max_element` picks has the
agreed log, so every online replica grants its vote in the new term, and every
other online replica ends with a copy of the agreed log.

A crash before the candidate becomes leader leaves every database as it was but
for its term; a crash after that leaves the candidate's database, which
remembers the new term, and copies in the making.
-/

namespace ShardedKvStore

open Foundation
open SqliteStore

namespace RaftReplica

/-! ## Voters and followers -/

variable {replica : RaftReplica}

theorem InStep.kept_afterVote
    (inStep : replica.InStep) (wellFormed : replica.store.WellFormed)
    {term : Int} (notOlder : replica.currentTerm ≤ term)
    (candidateId : Bytes) :
    Kept replica.store (replica.afterVote term candidateId).store := by
  have rows :=
    crashSafe_persistRows wellFormed candidateId
      (inStep.term ▸ notOlder)
  rw [← inStep.commit, ← inStep.applied] at rows
  exact rows.finish

theorem InStep.afterVote
    (inStep : replica.InStep) (term : Int) (candidateId : Bytes) :
    (replica.afterVote term candidateId).InStep where
  term := rfl
  commit := rfl
  applied := rfl
  caughtUp := inStep.caughtUp

theorem InStep.withRole
    (inStep : replica.InStep) (role : Role) :
    ({ replica with role := role } : RaftReplica).InStep where
  term := inStep.term
  commit := inStep.commit
  applied := inStep.applied
  caughtUp := inStep.caughtUp

theorem inStep_afterInstall
    (replica : RaftReplica) (term : Int) {entries : List LogEntry}
    (wellFormed : WellFormedLog entries) :
    (replica.afterInstall term entries).InStep := by
  obtain ⟨_, _, metaTable⟩ :=
    executeAll_installStatements wellFormed.knownLog replica.store term
  refine ⟨?_, ?_, ?_, rfl⟩
  · exact (congrArg (fun table => table.currentTerm.getD 0) metaTable).symm
  · exact (congrArg (fun table => table.commitIndex.getD 0) metaTable).symm
  · exact (congrArg (fun table => table.lastApplied.getD 0) metaTable).symm

theorem log_afterInstall
    (replica : RaftReplica) (term : Int) {entries : List LogEntry}
    (wellFormed : WellFormedLog entries) :
    (replica.afterInstall term entries).store.log = entries :=
  (executeAll_installStatements wellFormed.knownLog replica.store term).1

theorem committed_afterInstall
    (replica : RaftReplica) (term : Int) {entries : List LogEntry}
    (wellFormed : WellFormedLog entries) :
    (replica.afterInstall term entries).store.committed = entries := by
  unfold SqliteStore.committed
  rw [log_afterInstall replica term wellFormed,
    ← (inStep_afterInstall replica term wellFormed).commit]
  exact List.take_length

theorem copy_afterInstall
    (replica : RaftReplica) (term : Int) {entries : List LogEntry}
    (wellFormed : WellFormedLog entries) :
    Copy entries (replica.afterInstall term entries).store := by
  have inStep := inStep_afterInstall replica term wellFormed
  have log := log_afterInstall replica term wellFormed
  have commit :
      (replica.afterInstall term entries).store.commitIndex =
        entries.length :=
    inStep.commit.symm
  have applied :
      (replica.afterInstall term entries).store.lastApplied =
        entries.length :=
    inStep.applied.symm
  have isWellFormed :
      (replica.afterInstall term entries).store.WellFormed :=
    { wellFormedLog := by rw [log]; exact wellFormed
      appliedNonneg := by omega
      appliedLe := by omega
      commitLe := by rw [log, commit] }
  refine ⟨isWellFormed, by rw [log], ?_⟩
  intro _
  rw [redone_of_caughtUp isWellFormed (applied.trans commit.symm)]
  exact (executeAll_installStatements wellFormed.knownLog replica.store term).2.1

end RaftReplica

namespace Shard

variable {count : Nat}

/-! ## The candidate -/

/-- Nobody leads, and an election will be won. -/
structure Electable
    (agreed : List LogEntry) (bound : Int) (shard : Shard count) :
    Prop where
  coherent : Coherent agreed bound shard
  noLeader : shard.currentLeader = none
  quorum :
    majority count ≤ tally fun position => (shard.replicas position).online
  holder :
    ∃ position,
      (shard.replicas position).online = true ∧
        (shard.replicas position).store.committed = agreed
  offlineTerms :
    ∀ position, ¬ (shard.replicas position).online = true →
      ∀ entry ∈ (shard.replicas position).store.log,
        entry.term ≤ (shard.replicas position).currentTerm

/-- The candidate of an election that will be won. -/
structure Wins
    (agreed : List LogEntry) (shard : Shard count)
    (candidate : Fin count) : Prop where
  chosen : shard.candidate = some candidate
  online : (shard.replicas candidate).online = true
  complete : (shard.replicas candidate).store.committed = agreed
  current :
    ∀ voter, (shard.replicas voter).online = true →
      (shard.replicas voter).findsCurrent
        (shard.replicas candidate).store.lastLogIndex
        (shard.replicas candidate).store.lastLogTerm

theorem Electable.exists_wins
    {agreed : List LogEntry} {bound : Int} {shard : Shard count}
    (electable : Electable agreed bound shard) :
    ∃ candidate, Wins agreed shard candidate := by
  have coherent := electable.coherent
  have someOnline : shard.onlineReplicas ≠ [] := by
    have quorum := electable.quorum
    rw [← length_onlineReplicas] at quorum
    unfold majority at quorum
    intro nobody
    rw [nobody, List.length_nil] at quorum
    omega
  obtain ⟨candidate, chosen⟩ :
      ∃ candidate, shard.candidate = some candidate :=
    maxElement_isSome someOnline
  obtain ⟨member, largest⟩ :=
    maxElement_spec (lessUpToDate_iff shard) chosen
  have online := mem_onlineReplicas.mp member
  obtain ⟨holder, holderOnline, holderComplete⟩ := electable.holder
  have complete : (shard.replicas candidate).store.committed = agreed := by
    have notBehind := largest holder (mem_onlineReplicas.mpr holderOnline)
    have commits :
        (shard.replicas holder).store.commitIndex ≤
          (shard.replicas candidate).store.commitIndex := by
      rw [← (coherent.inStep holder).commit,
        ← (coherent.inStep candidate).commit]
      simp only [rank, Prod.Lex.toLex_le_toLex] at notBehind
      rcases notBehind with behind | ⟨level, _⟩
      · exact behind.le
      · exact level.le
    apply coherent.agree.committed_eq_of_commitIndex
    have full := coherent.agree.commitIndex_eq holderComplete
    have atMost := coherent.agree.commitIndex_le candidate
    simp only [files] at full atMost ⊢
    omega
  refine ⟨candidate, chosen, online, complete, ?_⟩
  intro voter voterOnline
  exact findsCurrent_of_rank coherent.agree coherent.inStep complete
    (largest voter (mem_onlineReplicas.mpr voterOnline))

/-! ## The state after an election -/

/-- The followers of a new leader. -/
def otherOnline (shard : Shard count) (candidate : Fin count) :
    List (Fin count) :=
  shard.onlineReplicas.filter fun position =>
    (shard.replicas position).id ≠ (shard.replicas candidate).id

theorem Coherent.mem_otherOnline
    {agreed : List LogEntry} {bound : Int} {shard : Shard count}
    (coherent : Coherent agreed bound shard)
    {candidate position : Fin count} :
    position ∈ shard.otherOnline candidate ↔
      (shard.replicas position).online = true ∧ position ≠ candidate := by
  unfold otherOnline
  simp only [List.mem_filter, mem_onlineReplicas, ne_eq,
    decide_eq_true_eq]
  constructor
  · rintro ⟨online, differs⟩
    exact ⟨online, fun same => differs (by rw [same])⟩
  · rintro ⟨online, different⟩
    exact ⟨online, fun same => different (coherent.id_injective same)⟩

/-- A replica after it voted for the candidate. -/
def voted (shard : Shard count) (candidate position : Fin count) :
    RaftReplica :=
  (shard.replicas position).afterVote shard.nextTerm
    (shard.replicas candidate).id

/-- A replica after an election. -/
def settled
    (shard : Shard count) (agreed : List LogEntry)
    (candidate position : Fin count) : RaftReplica :=
  if position = candidate then
    { shard.voted candidate position with role := .leader }
  else if (shard.replicas position).online = true then
    (shard.voted candidate position).afterInstall shard.nextTerm agreed
  else
    { shard.replicas position with role := .follower }

/-- The shard after an election. -/
def elected
    (shard : Shard count) (agreed : List LogEntry)
    (candidate : Fin count) : Shard count where
  shardId := shard.shardId
  replicas := shard.settled agreed candidate
  leaderId := (shard.replicas candidate).id

/-- The statements by which a replica records its vote. -/
def voteStatements
    (shard : Shard count) (candidate position : Fin count) :
    List Statement :=
  persistRows shard.nextTerm (shard.replicas candidate).id
    (shard.replicas position).commitIndex
    (shard.replicas position).lastApplied

/-- The events of an election. -/
def electionJournal
    (shard : Shard count) (agreed : List LogEntry)
    (candidate : Fin count) : List (ShardEvent count) :=
  blocks (shard.voteStatements candidate) shard.onlineReplicas ++
    .elected candidate shard.nextTerm ::
      blocks
        (fun _ => RaftReplica.installStatements shard.nextTerm agreed)
        (shard.otherOnline candidate)

theorem settled_candidate
    (shard : Shard count) (agreed : List LogEntry)
    (candidate : Fin count) :
    shard.settled agreed candidate candidate =
      { shard.voted candidate candidate with role := .leader } := by
  simp [settled]

theorem settled_online
    {shard : Shard count} (agreed : List LogEntry)
    {candidate position : Fin count} (different : position ≠ candidate)
    (online : (shard.replicas position).online = true) :
    shard.settled agreed candidate position =
      (shard.voted candidate position).afterInstall
        shard.nextTerm agreed := by
  simp [settled, different, online]

theorem settled_offline
    {shard : Shard count} (agreed : List LogEntry)
    {candidate position : Fin count} (different : position ≠ candidate)
    (offline : ¬ (shard.replicas position).online = true) :
    shard.settled agreed candidate position =
      { shard.replicas position with role := .follower } := by
  simp [settled, different, offline]

/-! ## The run of an election -/

section Run

variable {agreed : List LogEntry} {bound : Int} {shard : Shard count}
  {candidate : Fin count}

/-- Every online replica grants its vote. -/
theorem votes_overwrite
    (wins : Wins agreed shard candidate) :
    Overwrites
      (shard.withReplica candidate
        { shard.replicas candidate with role := .candidate })
      shard.onlineReplicas (shard.voted candidate)
      (shard.voteStatements candidate) (fun _ => true)
      (fun voter => onReplica voter
        (RaftReplica.requestVote shard.nextTerm (shard.replicas candidate).id
          (shard.replicas candidate).store.lastLogIndex
          (shard.replicas candidate).store.lastLogTerm)) := by
  intro voter member reached sameVoter _
  have online := mem_onlineReplicas.mp member
  have newTerm := currentTerm_lt_nextTerm shard voter
  have current := wins.current voter online
  apply onReplica_apply
  rw [sameVoter]
  by_cases same : voter = candidate
  · subst same
    rw [withReplica_self]
    exact RaftReplica.requestVote_apply online newTerm current
  · rw [withReplica_of_ne shard _ same]
    exact RaftReplica.requestVote_apply online newTerm current

private theorem roles_overwrite (shard : Shard count) :
    Overwrites shard (List.finRange count)
      (fun position => { shard.replicas position with role := .follower })
      (fun _ => []) (fun _ => ())
      (fun position =>
        onReplica position (RaftReplica.setRole .follower)) := by
  intro position _ reached same _
  apply onReplica_apply
  rw [same]
  rfl

theorem blocks_nil (positions : List (Fin count)) :
    blocks (fun _ => []) positions = [] := by
  induction positions with
  | nil =>
      rfl
  | cons position rest inductionHypothesis =>
      rw [blocks_cons, inductionHypothesis]
      rfl

/-- Copying the log of a leader into another online replica. -/
theorem syncFollower_apply
    {reached : Shard count} {follower leader : Fin count}
    (online : (reached.replicas follower).online = true)
    (wellFormed : (reached.replicas leader).store.WellFormed)
    (commit :
      (reached.replicas leader).commitIndex =
        (reached.replicas leader).store.commitIndex)
    (complete : (reached.replicas leader).store.committed = agreed)
    (notAhead :
      (reached.replicas follower).currentTerm ≤
        (reached.replicas leader).currentTerm) :
    syncFollower follower leader reached =
      ⟨.ok (),
        reached.withReplica follower
          ((reached.replicas follower).afterInstall
            (reached.replicas leader).currentTerm agreed),
        (RaftReplica.installStatements
          (reached.replicas leader).currentTerm agreed).map
            (.executed follower)⟩ := by
  have log :
      (reached.replicas leader).store.log =
        agreed ++ (reached.replicas leader).store.uncommitted := by
    rw [← complete, committed_append_uncommitted]
  have knownLog :
      KnownLog
        (agreed ++ (reached.replicas leader).store.uncommitted) := by
    rw [← log]
    exact wellFormed.wellFormedLog.knownLog
  have installs :=
    syncFollower_installs online log knownLog
      (by rw [commit, ← wellFormed.length_committed, complete])
  rwa [max_eq_right notAhead] at installs

/-- The shard when the candidate has just become leader. -/
private def crowned (shard : Shard count) (candidate : Fin count) :
    Shard count where
  shardId := shard.shardId
  replicas := fun position =>
    if position = candidate then
      { shard.voted candidate position with role := .leader }
    else if (shard.replicas position).online = true then
      shard.voted candidate position
    else
      { shard.replicas position with role := .follower }
  leaderId := (shard.replicas candidate).id

private theorem crowned_candidate
    (shard : Shard count) (candidate : Fin count) :
    (shard.crowned candidate).replicas candidate =
      { shard.voted candidate candidate with role := .leader } := by
  simp [crowned]

private theorem crowned_online
    {position : Fin count} (different : position ≠ candidate)
    (online : (shard.replicas position).online = true) :
    (shard.crowned candidate).replicas position =
      shard.voted candidate position := by
  simp [crowned, different, online]

/-- The state when the votes are counted and the roles are set. -/
private theorem crowned_eq (wins : Wins agreed shard candidate) :
    (let counted :=
      (shard.withReplica candidate
        { shard.replicas candidate with role := .candidate }).overwrite
          shard.onlineReplicas (shard.voted candidate)
     let lowered := counted.overwrite (List.finRange count)
      (fun position => { counted.replicas position with role := .follower })
     { lowered.withReplica candidate
        { lowered.replicas candidate with role := .leader } with
       leaderId := (shard.replicas candidate).id }) =
      shard.crowned candidate := by
  have candidateOnline := mem_onlineReplicas.mpr wins.online
  simp only [crowned, overwrite, withReplica, List.mem_finRange, if_true]
  congr 1
  funext position
  by_cases isCandidate : position = candidate
  · subst isCandidate
    simp [candidateOnline]
  · by_cases online : (shard.replicas position).online = true
    · have member := mem_onlineReplicas.mpr online
      simp [isCandidate, online, member, voted, RaftReplica.afterVote]
    · have notMember : position ∉ shard.onlineReplicas := fun member =>
        online (mem_onlineReplicas.mp member)
      simp [isCandidate, online, notMember]

private theorem wellFormed_voted
    (coherent : Coherent agreed bound shard)
    (candidate position : Fin count) :
    (shard.voted candidate position).store.WellFormed :=
  ((coherent.inStep position).kept_afterVote (coherent.wellFormed position)
    (currentTerm_lt_nextTerm shard position).le _).wellFormed
      (coherent.wellFormed position)

private theorem committed_voted
    (coherent : Coherent agreed bound shard)
    (candidate position : Fin count) :
    (shard.voted candidate position).store.committed =
      (shard.replicas position).store.committed :=
  ((coherent.inStep position).kept_afterVote (coherent.wellFormed position)
    (currentTerm_lt_nextTerm shard position).le _).committed

private theorem syncs_overwrite
    (coherent : Coherent agreed bound shard)
    (wins : Wins agreed shard candidate) :
    Overwrites (shard.crowned candidate) (shard.otherOnline candidate)
      (shard.settled agreed candidate)
      (fun _ => RaftReplica.installStatements shard.nextTerm agreed)
      (fun _ => ())
      (fun position => syncFollower position candidate) := by
  intro follower member reached sameFollower sameOthers
  obtain ⟨online, different⟩ := coherent.mem_otherOnline.mp member
  have notMember : candidate ∉ shard.otherOnline candidate := fun inside =>
    (coherent.mem_otherOnline.mp inside).2 rfl
  have leaderIs := sameOthers candidate notMember
  rw [crowned_candidate] at leaderIs
  rw [crowned_online different online] at sameFollower
  have wellFormed : (reached.replicas candidate).store.WellFormed := by
    rw [leaderIs]
    exact wellFormed_voted coherent candidate candidate
  have complete : (reached.replicas candidate).store.committed = agreed := by
    rw [leaderIs]
    exact (committed_voted coherent candidate candidate).trans wins.complete
  have followerOnline : (reached.replicas follower).online = true := by
    rw [sameFollower]
    exact online
  have commit :
      (reached.replicas candidate).commitIndex =
        (reached.replicas candidate).store.commitIndex := by
    rw [leaderIs]
    rfl
  have notAhead :
      (reached.replicas follower).currentTerm ≤
        (reached.replicas candidate).currentTerm := by
    rw [leaderIs, sameFollower]
    exact le_refl _
  have synced :=
    syncFollower_apply followerOnline wellFormed commit complete notAhead
  rw [leaderIs, sameFollower] at synced
  rw [settled_online agreed different online]
  exact synced

private theorem overwrite_crowned
    (coherent : Coherent agreed bound shard) :
    (shard.crowned candidate).overwrite (shard.otherOnline candidate)
        (shard.settled agreed candidate) =
      shard.elected agreed candidate := by
  unfold overwrite elected
  congr 1
  funext position
  by_cases member : position ∈ shard.otherOnline candidate
  · rw [if_pos member]
  · rw [if_neg member]
    by_cases isCandidate : position = candidate
    · subst isCandidate
      rw [crowned_candidate, settled_candidate]
    · have offline : ¬ (shard.replicas position).online = true :=
        fun online => member <|
          coherent.mem_otherOnline.mpr ⟨online, isCandidate⟩
      rw [settled_offline agreed isCandidate offline]
      simp [crowned, isCandidate, offline]

/-- An election with a majority online is won by the candidate. -/
theorem ensureLeader_elects
    (electable : Electable agreed bound shard)
    (wins : Wins agreed shard candidate) :
    ensureLeader shard =
      ⟨.ok true, shard.elected agreed candidate,
        shard.electionJournal agreed candidate⟩ := by
  have coherent := electable.coherent
  have noLeader : ¬ shard.currentLeader.isSome = true := by
    rw [electable.noLeader]
    exact Bool.false_ne_true
  have enough : ¬ shard.onlineReplicas.length < majority count := by
    rw [length_onlineReplicas]
    exact not_lt.mpr electable.quorum
  have asks :
      onReplica candidate (RaftReplica.setRole .candidate) shard =
        ⟨.ok (),
          shard.withReplica candidate
            { shard.replicas candidate with role := .candidate },
          []⟩ :=
    rfl
  have votes :=
    collectVotes_overwrites (nodup_onlineReplicas shard)
      (votes_overwrite wins)
  have lowers (reached : Shard count) :=
    forEach_overwrites (List.nodup_finRange count)
      (roles_overwrite reached)
  have distinct : (shard.otherOnline candidate).Nodup :=
    (nodup_onlineReplicas shard).filter _
  have syncs :=
    forEach_overwrites distinct (syncs_overwrite coherent wins)
  rw [overwrite_crowned coherent] at syncs
  unfold otherOnline at syncs
  have crowns (reached : Shard count) :
      onReplica candidate (RaftReplica.setRole .leader) reached =
        ⟨.ok (),
          reached.withReplica candidate
            { reached.replicas candidate with role := .leader },
          []⟩ :=
    rfl
  have crowned := crowned_eq wins
  simp only at crowned
  unfold ensureLeader
  simp only [Journaled.bind_apply, Journaled.read_apply,
    Outcome.andThen_ok, Journaled.ite_apply,
    if_neg noLeader, if_neg enough, wins.chosen, asks, votes, lowers,
    crowns, Journaled.perform_apply, crowned, syncs,
    Journaled.pure_apply, Outcome.prepend_mk, blocks_nil,
    List.append_nil, List.nil_append, List.singleton_append]
  rfl

end Run

/-! ## What an election leaves -/

section Result

variable {agreed : List LogEntry} {bound : Int} {shard : Shard count}
  {candidate : Fin count}

theorem Coherent.kept_voted
    (coherent : Coherent agreed bound shard)
    (candidate position : Fin count) :
    Kept (shard.replicas position).store
      (shard.voted candidate position).store :=
  (coherent.inStep position).kept_afterVote (coherent.wellFormed position)
    (currentTerm_lt_nextTerm shard position).le _

/-- The new term is above the one of every log entry. -/
theorem Coherent.bound_lt_nextTerm
    (coherent : Coherent agreed bound shard) :
    bound < shard.nextTerm := by
  obtain ⟨position, remembers⟩ := coherent.agree.remembered
  have inStep := (coherent.inStep position).term
  have newTerm := currentTerm_lt_nextTerm shard position
  simp only [files] at remembers
  omega

/-- A replica is kept by an election or becomes a copy of the agreed log. -/
theorem Coherent.settled_cases
    (coherent : Coherent agreed bound shard)
    (candidate position : Fin count) :
    Kept (shard.replicas position).store
        (shard.settled agreed candidate position).store ∨
      Copy agreed (shard.settled agreed candidate position).store ∧
        (shard.settled agreed candidate position).store.committed =
          agreed := by
  have agreedWellFormed := coherent.agree.wellFormedAgreed
  by_cases isCandidate : position = candidate
  · subst isCandidate
    rw [settled_candidate]
    exact Or.inl (coherent.kept_voted position position)
  · by_cases online : (shard.replicas position).online = true
    · rw [settled_online agreed isCandidate online]
      exact Or.inr
        ⟨RaftReplica.copy_afterInstall _ _ agreedWellFormed,
          RaftReplica.committed_afterInstall _ _ agreedWellFormed⟩
    · rw [settled_offline agreed isCandidate online]
      exact Or.inl (Kept.refl (coherent.wellFormed position))

theorem Coherent.evolves_elected
    (coherent : Coherent agreed bound shard)
    (candidate position : Fin count) :
    Contents.Evolves agreed (shard.contents position)
      ((shard.elected agreed candidate).contents position) := by
  unfold contents
  change Contents.Evolves agreed _
    (shard.settled agreed candidate position).store.contents
  rcases coherent.settled_cases candidate position with
    kept | ⟨copy, complete⟩
  · rw [kept.contents]
    exact .kept _
  · rw [copy.contents complete]
    exact .copied _

theorem settled_online_eq
    (shard : Shard count) (agreed : List LogEntry)
    (candidate position : Fin count) :
    (shard.settled agreed candidate position).online =
      (shard.replicas position).online := by
  unfold settled
  split
  · rfl
  · split
    · rfl
    · rfl

theorem settled_id
    (shard : Shard count) (agreed : List LogEntry)
    (candidate position : Fin count) :
    (shard.settled agreed candidate position).id =
      (shard.replicas position).id := by
  unfold settled
  split
  · rfl
  · split
    · rfl
    · rfl

private theorem settled_term_le
    (shard : Shard count) (agreed : List LogEntry)
    (candidate position : Fin count) :
    (shard.settled agreed candidate position).currentTerm ≤
      shard.nextTerm := by
  unfold settled
  split
  · exact le_refl _
  · split
    · exact le_refl _
    · exact (currentTerm_lt_nextTerm shard position).le

private theorem settled_term
    (agreed : List LogEntry) (candidate : Fin count)
    {position : Fin count}
    (online : (shard.replicas position).online = true) :
    (shard.settled agreed candidate position).currentTerm =
      shard.nextTerm := by
  unfold settled
  rw [if_pos online]
  split
  · rfl
  · rfl

private theorem settled_role
    {position : Fin count}
    (leader :
      (shard.settled agreed candidate position).role = .leader) :
    position = candidate := by
  by_contra different
  unfold settled at leader
  rw [if_neg different] at leader
  split at leader
  · cases leader
  · cases leader

private theorem settled_inStep
    (coherent : Coherent agreed bound shard)
    (candidate position : Fin count) :
    (shard.settled agreed candidate position).InStep := by
  have inStep := coherent.inStep position
  unfold settled
  split
  · exact (inStep.afterVote _ _).withRole _
  · split
    · exact RaftReplica.inStep_afterInstall _ _
        coherent.agree.wellFormedAgreed
    · exact inStep.withRole _

/-- Every online replica has committed the agreed log after an election. -/
private theorem settled_complete
    (coherent : Coherent agreed bound shard)
    (wins : Wins agreed shard candidate) {position : Fin count}
    (online : (shard.replicas position).online = true) :
    (shard.settled agreed candidate position).store.committed = agreed := by
  by_cases isCandidate : position = candidate
  · subst isCandidate
    rw [settled_candidate]
    exact (coherent.kept_voted position position).committed.trans
      wins.complete
  · rw [settled_online agreed isCandidate online]
    exact RaftReplica.committed_afterInstall _ _
      coherent.agree.wellFormedAgreed

private theorem coherent_elected
    (coherent : Coherent agreed bound shard)
    (wins : Wins agreed shard candidate) :
    Coherent agreed shard.nextTerm (shard.elected agreed candidate) where
  ids := by
    intro position
    change (shard.settled agreed candidate position).id = _
    rw [settled_id]
    exact coherent.ids position
  inStep := settled_inStep coherent candidate
  agree := by
    refine coherent.agree.of_kept_or_copy coherent.bound_lt_nextTerm.le
      ?_ wins.complete ?_ ⟨candidate, ?_⟩
    · intro position
      exact (coherent.settled_cases candidate position).imp_right And.left
    · change Kept _ (shard.settled agreed candidate candidate).store
      rw [settled_candidate]
      exact coherent.kept_voted candidate candidate
    · change shard.nextTerm ≤
        (shard.settled agreed candidate candidate).store.currentTerm
      rw [settled_candidate]
      exact le_refl _

/-- No log of another replica has an entry of the new term. -/
private theorem settled_fresh
    (coherent : Coherent agreed bound shard) {position : Fin count}
    (different : position ≠ candidate) :
    (shard.settled agreed candidate position).store.log <+: agreed ∨
      (shard.settled agreed candidate position).store.lastLogTerm <
        shard.nextTerm := by
  by_cases online : (shard.replicas position).online = true
  · left
    rw [settled_online agreed different online,
      RaftReplica.log_afterInstall _ _ coherent.agree.wellFormedAgreed]
  · right
    rw [settled_offline agreed different online]
    exact (coherent.lastLogTerm_le_bound position).trans_lt
      coherent.bound_lt_nextTerm

private theorem leads_elected
    (coherent : Coherent agreed bound shard)
    (wins : Wins agreed shard candidate) :
    Leads agreed shard.nextTerm (shard.elected agreed candidate)
      candidate where
  named := (settled_id shard agreed candidate candidate).symm
  online := (settled_online_eq shard agreed candidate candidate).trans
    wins.online
  role := by
    change (shard.settled agreed candidate candidate).role = _
    rw [settled_candidate]
  complete := settled_complete coherent wins wins.online
  term := by
    change (shard.settled agreed candidate candidate).currentTerm = _
    rw [settled_candidate]
    rfl
  followers := by
    intro position different online
    change (shard.settled agreed candidate position).online = true at online
    rw [settled_online_eq] at online
    refine ⟨?_, settled_complete coherent wins online⟩
    change (shard.settled agreed candidate position).store.log = agreed
    rw [settled_online agreed different online]
    exact RaftReplica.log_afterInstall _ _ coherent.agree.wellFormedAgreed
  fresh := fun _ different => settled_fresh coherent different
  highest := settled_term_le shard agreed candidate
  level := by
    intro position online
    change (shard.settled agreed candidate position).online = true at online
    rw [settled_online_eq] at online
    exact settled_term agreed candidate online

theorem Electable.operational_elected
    (electable : Electable agreed bound shard)
    (wins : Wins agreed shard candidate) :
    Operational agreed shard.nextTerm
      (shard.elected agreed candidate) where
  coherent := coherent_elected electable.coherent wins
  majority := by
    refine electable.quorum.trans (tally_mono ?_)
    intro position online
    exact decide_eq_true
      (settled_complete electable.coherent wins online)
  ownTerms := by
    intro position entry member
    have coherent := coherent_elected electable.coherent wins
    by_cases online : (shard.replicas position).online = true
    · -- An online replica has reached the new term.
      refine ((coherent.file position).termBound entry member).trans ?_
      change shard.nextTerm ≤
        (shard.settled agreed candidate position).currentTerm
      by_cases isCandidate : position = candidate
      · subst isCandidate
        rw [settled_candidate]
        exact le_refl _
      · rw [settled_online agreed isCandidate online]
        exact le_refl _
    · have different : position ≠ candidate := fun same =>
        online (same ▸ wins.online)
      change entry ∈
        (shard.settled agreed candidate position).store.log at member
      change entry.term ≤
        (shard.settled agreed candidate position).currentTerm
      rw [settled_offline agreed different online] at member ⊢
      exact electable.offlineTerms position online entry member
  roles := by
    intro position leader
    have isCandidate := settled_role leader
    subst isCandidate
    exact (settled_id shard agreed position position).symm
  led := Or.inr ⟨candidate, leads_elected electable.coherent wins⟩

end Result

/-! ## Crashes during an election -/

section Crash

variable {agreed : List LogEntry} {bound : Int} {shard : Shard count}
  {candidate : Fin count} {elections : List Int}

/-- The files after the votes. -/
private theorem files_after_votes
    (wins : Wins agreed shard candidate) (elections : List Int) :
    (Durable.after ⟨shard.files, elections⟩
        (blocks (shard.voteStatements candidate)
          shard.onlineReplicas)).files =
      (shard.overwrite shard.onlineReplicas
        (shard.voted candidate)).files := by
  have mirrors :=
    journals_collectVotes shard.nextTerm (shard.replicas candidate).id
      (shard.replicas candidate).store.lastLogIndex
      (shard.replicas candidate).store.lastLogTerm
      shard.onlineReplicas
      (shard.withReplica candidate
        { shard.replicas candidate with role := .candidate })
  rw [collectVotes_overwrites (nodup_onlineReplicas shard)
    (votes_overwrite wins)] at mirrors
  have sameFiles :
      files (shard.withReplica candidate
        { shard.replicas candidate with role := .candidate }) =
        shard.files := by
    unfold withReplica
    rw [files_update]
    exact Function.update_eq_self _ _
  rw [sameFiles] at mirrors
  rw [Durable.after_files]
  refine mirrors.symm.trans ?_
  funext position
  have candidateOnline := mem_onlineReplicas.mpr wins.online
  by_cases isCandidate : position = candidate
  · subst isCandidate
    simp [files, overwrite, candidateOnline]
  · simp [files, overwrite, withReplica, isCandidate]

/-- Until the candidate becomes leader every database is kept. -/
private theorem crashSafe_votes
    (coherent : Coherent agreed bound shard)
    (candidate : Fin count) (elections : List Int) :
    CrashSafe Durable.perform
      (fun reached =>
        reached.elections = elections ∧
          ∀ position,
            Kept (shard.replicas position).store (reached.files position))
      ⟨shard.files, elections⟩
      (blocks (shard.voteStatements candidate) shard.onlineReplicas) := by
  refine crashSafe_blocks
    (fun position store => Kept (shard.replicas position).store store)
    (nodup_onlineReplicas shard) ?_ ?_
  · intro position
    exact Kept.refl (coherent.wellFormed position)
  · intro position _
    have inStep := coherent.inStep position
    have rows :=
      crashSafe_persistRows (coherent.wellFormed position)
        (shard.replicas candidate).id
        (inStep.term ▸ (currentTerm_lt_nextTerm shard position).le)
    rw [← inStep.commit, ← inStep.applied] at rows
    exact rows

/-- After that the candidate's database stays, and the others are kept or
become copies. -/
private theorem crashSafe_installs
    (coherent : Coherent agreed bound shard)
    (durable : Durable count) :
    CrashSafe Durable.perform
      (fun reached =>
        reached.elections = durable.elections ∧
          ∀ position,
            reached.files position = durable.files position ∨
              position ≠ candidate ∧ Copy agreed (reached.files position))
      durable
      (blocks
        (fun _ => RaftReplica.installStatements shard.nextTerm agreed)
        (shard.otherOnline candidate)) := by
  have distinct : (shard.otherOnline candidate).Nodup :=
    (nodup_onlineReplicas shard).filter _
  refine crashSafe_blocks
    (fun position store =>
      store = durable.files position ∨
        position ≠ candidate ∧ Copy agreed store)
    distinct ?_ ?_
  · exact fun _ => Or.inl rfl
  · intro position member
    have different := (coherent.mem_otherOnline.mp member).2
    refine (crashSafe_installStatements coherent.agree.wellFormedAgreed
      (durable.files position) shard.nextTerm).mono ?_
    intro reached leaves
    exact leaves.imp_right fun copy => ⟨different, copy⟩

/-- Every crash point of an election. -/
theorem Electable.crashSafe_election
    (electable : Electable agreed bound shard)
    (wins : Wins agreed shard candidate)
    (agree : DurableAgree agreed bound ⟨shard.files, elections⟩)
    (Row : LogEntry → Prop) (Torn : Prop) :
    CrashSafe Durable.perform
      (CrashPoint Row Torn agreed ⟨shard.files, elections⟩)
      ⟨shard.files, elections⟩
      (shard.electionJournal agreed candidate) := by
  have coherent := electable.coherent
  have votes := crashSafe_votes coherent candidate elections
  have voting :
      ∀ reached : Durable count,
        reached.elections = elections ∧
            (∀ position,
              Kept (shard.replicas position).store
                (reached.files position)) →
          CrashPoint Row Torn agreed ⟨shard.files, elections⟩ reached := by
    rintro reached ⟨sameElections, kept⟩
    obtain ⟨remembering, remembers⟩ := coherent.agree.remembered
    refine ⟨agreed, bound, agree.of_sameElections ?_ sameElections,
      List.prefix_refl _, ?_⟩
    · exact coherent.agree.of_kept_or_copy le_rfl
        (fun position => Or.inl (kept position)) wins.complete
        (kept candidate)
        ⟨remembering, remembers.trans (kept remembering).term⟩
    · intro position _
      rw [(kept position).contents]
      exact .evolved (.kept _)
  unfold electionJournal
  rw [crashSafe_append, crashSafe_cons]
  refine ⟨votes.mono voting, voting _ votes.finish, ?_⟩
  obtain ⟨sameElections, kept⟩ := votes.finish
  have counted := files_after_votes wins elections
  change CrashSafe _ _
    ((Durable.after ⟨shard.files, elections⟩ _).perform _) _
  change (Durable.after ⟨shard.files, elections⟩ _).elections = _
    at sameElections
  change ∀ position, Kept _
    ((Durable.after ⟨shard.files, elections⟩ _).files position) at kept
  generalize
    Durable.after ⟨shard.files, elections⟩ _ = voted at *
  refine (crashSafe_installs coherent
    (voted.perform (.elected candidate shard.nextTerm))).mono ?_
  rintro reached ⟨electedElections, left⟩
  have keptOrCopy (position : Fin count) :
      Kept (shard.replicas position).store (reached.files position) ∨
        Copy agreed (reached.files position) := by
    rcases left position with same | ⟨_, copy⟩
    · rw [same]
      exact Or.inl (kept position)
    · exact Or.inr copy
  have candidateFile : reached.files candidate = voted.files candidate :=
    (left candidate).resolve_right fun copied => copied.1 rfl
  have remembers :
      shard.nextTerm ≤ (reached.files candidate).currentTerm := by
    rw [candidateFile, counted]
    simp only [files, overwrite, mem_onlineReplicas.mpr wins.online,
      if_true]
    exact le_refl _
  refine ⟨agreed, shard.nextTerm,
    agree.of_elected ?_ coherent.bound_lt_nextTerm ?_,
    List.prefix_refl _, ?_⟩
  · exact coherent.agree.of_kept_or_copy coherent.bound_lt_nextTerm.le
      keptOrCopy wins.complete (candidateFile ▸ kept candidate)
      ⟨candidate, remembers⟩
  · rw [electedElections]
    change shard.nextTerm :: voted.elections = _
    rw [sameElections]
  · intro position complete
    rcases keptOrCopy position with isKept | copy
    · rw [isKept.contents]
      exact .evolved (.kept _)
    · rw [copy.contents complete]
      exact .evolved (.copied _)

theorem after_electionJournal
    (shard : Shard count) (agreed : List LogEntry)
    (candidate : Fin count) (durable : Durable count) :
    (durable.after (shard.electionJournal agreed candidate)).elections =
      shard.nextTerm :: durable.elections := by
  unfold electionJournal
  rw [Durable.after_append]
  change (((durable.after _).perform _).after _).elections = _
  rw [Durable.after_blocks_elections]
  change shard.nextTerm :: (durable.after _).elections = _
  rw [Durable.after_blocks_elections]

end Crash

end Shard

end ShardedKvStore

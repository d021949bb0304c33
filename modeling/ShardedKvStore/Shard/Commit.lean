import ShardedKvStore.Shard.Replication

/-!
# What a write leaves

Until the leader writes its commit index, the databases agree on the log they
agreed on before; from that statement on they agree on the log with the new row.
A write that is not acknowledged by a majority leaves the agreed log and no
tail.
-/

namespace ShardedKvStore.Shard

open Foundation
open SqliteStore

variable {count : Nat}

/-! ## One database -/

section ReplicaFile

variable {agreed : List LogEntry} {bound : Int} {row : LogEntry}
  {before after : SqliteStore}

theorem ReplicaFile.termBound_append
    (file : ReplicaFile agreed bound before) (termLe : row.term ≤ bound) :
    ∀ entry ∈ before.log ++ [row], entry.term ≤ bound := by
  intro entry member
  rcases List.mem_append.mp member with earlier | last
  · exact file.termBound entry earlier
  · rwa [List.mem_singleton.mp last]

theorem ReplicaFile.of_pending
    {progress : Nat}
    (file : ReplicaFile agreed bound before)
    (complete : before.committed = agreed)
    (pending : Pending row progress before after)
    (extends_ : WellFormedLog (before.log ++ [row]))
    (termLe : row.term ≤ bound) :
    ReplicaFile agreed bound after where
  wellFormed := pending.wellFormed file.wellFormed extends_
  committed := by
    rw [pending.committed file.wellFormed, complete]
  tail := by
    right
    have length := file.wellFormed.length_committed
    rw [complete] at length
    have nothing : agreed.drop after.commitIndex.toNat = [] := by
      rw [pending.commit]
      exact List.drop_eq_nil_of_le (by omega)
    rw [nothing]
    exact fun entry member => absurd member List.not_mem_nil
  termBound := by
    rw [pending.log]
    exact file.termBound_append termLe

theorem ReplicaFile.of_discarded
    (file : ReplicaFile agreed bound before)
    (discarded : Discarded before after) :
    ReplicaFile agreed bound after where
  wellFormed := discarded.wellFormed file.wellFormed
  committed := by
    rw [discarded.committed]
    exact file.committed
  tail := by
    left
    rw [discarded.log]
    exact file.committed
  termBound := by
    rw [discarded.log]
    exact fun entry member =>
      file.termBound entry (List.mem_of_mem_take member)

theorem ReplicaFile.of_advanced
    (file : ReplicaFile agreed bound before)
    (complete : before.committed = agreed)
    (advanced : Advanced row before after)
    (extends_ : WellFormedLog (before.log ++ [row]))
    (termLe : row.term ≤ bound) :
    ReplicaFile (agreed ++ (before.uncommitted ++ [row])) bound after where
  wellFormed := advanced.wellFormed file.wellFormed extends_
  committed := by
    rw [advanced.committed, complete]
  tail := by
    left
    rw [advanced.log, ← before.committed_append_uncommitted, complete,
      List.append_assoc]
  termBound := by
    rw [advanced.log]
    exact file.termBound_append termLe

/-- A database that took no part in a write of the newest term. -/
theorem ReplicaFile.extend
    (file : ReplicaFile agreed bound before)
    (fresh : before.log <+: agreed ∨ before.lastLogTerm < bound)
    (newest : row.term = bound) :
    ReplicaFile (agreed ++ [row]) bound before where
  wellFormed := file.wellFormed
  committed := file.committed.trans (List.prefix_append _ _)
  tail := by
    rcases fresh with isPrefix | older
    · exact Or.inl (isPrefix.trans (List.prefix_append _ _))
    · rcases file.tail with isPrefix | olderTail
      · exact Or.inl (isPrefix.trans (List.prefix_append _ _))
      · right
        intro entry member
        have nonneg := file.wellFormed.commitNonneg
        have commitLe := file.committed.length_le
        have length := file.wellFormed.length_committed
        rw [List.drop_append_of_le_length (by omega)] at member
        rcases List.mem_append.mp member with earlier | last
        · exact olderTail entry earlier
        · rw [List.mem_singleton.mp last, newest]
          exact older
  termBound := file.termBound

/-- A follower that has appended the row, when the leader has committed it. -/
theorem ReplicaFile.extend_pending
    {progress : Nat}
    (file : ReplicaFile agreed bound before)
    (log : before.log = agreed)
    (pending : Pending row progress before after)
    (extends_ : WellFormedLog (before.log ++ [row]))
    (termLe : row.term ≤ bound) :
    ReplicaFile (agreed ++ [row]) bound after where
  wellFormed := pending.wellFormed file.wellFormed extends_
  committed := by
    rw [pending.committed file.wellFormed]
    exact file.committed.trans (List.prefix_append _ _)
  tail := by
    left
    rw [pending.log, log]
  termBound := by
    rw [pending.log]
    exact file.termBound_append termLe

end ReplicaFile

/-! ## All databases -/

/-- A database before the leader has committed the row. -/
def Undecided
    (agreed leaderLog : List LogEntry) (row : LogEntry) (Torn : Prop)
    (before after : SqliteStore) : Prop :=
  Kept before after ∨
    before.committed = agreed ∧
      ((∃ progress,
        before.log = leaderLog ∧ Pending row progress before after ∧
          (progress = 0 ∨ Torn)) ∨
        Discarded before after)

/-- A database after the leader has committed the row, other than the
leader's. -/
def Decided
    (agreed : List LogEntry) (bound : Int) (row : LogEntry)
    (before after : SqliteStore) : Prop :=
  (after = before ∧
      (before.log <+: agreed ∨ before.lastLogTerm < bound)) ∨
    before.log = agreed ∧ before.committed = agreed ∧
      ((∃ progress, Pending row progress before after) ∨
        Advanced row before after)

section Files

variable {agreed : List LogEntry} {bound : Int} {row : LogEntry}
  {before after : Files count}

theorem FilesAgree.undecided
    (agree : FilesAgree agreed bound before)
    {leaderLog : List LogEntry} {Torn : Prop}
    (extends_ : WellFormedLog (leaderLog ++ [row]))
    (termLe : row.term ≤ bound)
    (each :
      ∀ position,
        Undecided agreed leaderLog row Torn
          (before position) (after position)) :
    FilesAgree agreed bound after where
  each := by
    intro position
    have file := agree.each position
    rcases each position with
      kept | ⟨complete, ⟨_, log, pending, _⟩ | discarded⟩
    · exact file.of_kept kept
    · exact file.of_pending complete pending (log ▸ extends_) termLe
    · exact file.of_discarded discarded
  holder := by
    obtain ⟨position, complete⟩ := agree.holder
    refine ⟨position, ?_⟩
    rcases each position with
      kept | ⟨_, ⟨_, _, pending, _⟩ | discarded⟩
    · exact kept.committed.trans complete
    · exact (pending.committed (agree.each position).wellFormed).trans
        complete
    · exact discarded.committed.trans complete
  boundNonneg := agree.boundNonneg
  remembered := by
    obtain ⟨position, remembers⟩ := agree.remembered
    refine ⟨position, remembers.trans ?_⟩
    rcases each position with
      kept | ⟨_, ⟨_, _, pending, _⟩ | discarded⟩
    · exact kept.term
    · exact pending.term
    · exact discarded.term

theorem FilesAgree.decided
    (agree : FilesAgree agreed bound before) {leader : Fin count}
    (complete : (before leader).committed = agreed)
    (extends_ : WellFormedLog ((before leader).log ++ [row]))
    (newest : row.term = bound)
    (alone :
      ∀ position, position ≠ leader → (before leader).uncommitted = [])
    (advanced : Advanced row (before leader) (after leader))
    (others :
      ∀ position, position ≠ leader →
        Decided agreed bound row (before position) (after position)) :
    FilesAgree (agreed ++ ((before leader).uncommitted ++ [row]))
      bound after where
  each := by
    intro position
    have file := agree.each position
    by_cases isLeader : position = leader
    · subst isLeader
      exact file.of_advanced complete advanced extends_ newest.le
    · have noTail := alone position isLeader
      have leaderLog : (before leader).log = agreed := by
        rw [← (before leader).committed_append_uncommitted, complete,
          noTail, List.append_nil]
      rw [noTail, List.nil_append]
      rcases others position isLeader with
        ⟨same, fresh⟩ | ⟨log, followerComplete, ⟨_, pending⟩ | advances⟩
      · rw [same]
        exact file.extend fresh newest
      · rw [leaderLog, ← log] at extends_
        exact file.extend_pending log pending extends_ newest.le
      · rw [leaderLog, ← log] at extends_
        have extended :=
          file.of_advanced followerComplete advances extends_ newest.le
        have followerTail : (before position).uncommitted = [] :=
          uncommitted_of_committed_eq_log
            (followerComplete.trans log.symm)
        rwa [followerTail, List.nil_append] at extended
  holder := ⟨leader, by rw [advanced.committed, complete]⟩
  boundNonneg := agree.boundNonneg
  remembered := by
    obtain ⟨position, remembers⟩ := agree.remembered
    refine ⟨position, remembers.trans ?_⟩
    by_cases isLeader : position = leader
    · subst isLeader
      exact advanced.term
    · rcases others position isLeader with
        ⟨same, _⟩ | ⟨_, _, ⟨_, pending⟩ | advances⟩
      · rw [same]
      · exact pending.term
      · exact advances.term

end Files

/-! ## Crash points of a write -/

section CrashPoints

variable {agreed : List LogEntry} {bound : Int} {row : LogEntry}
  {before after : Durable count}

theorem crashPoint_of_undecided
    (agree : DurableAgree agreed bound before)
    (steady : ∀ position, (before.files position).Steady)
    {leaderLog : List LogEntry} {Torn : Prop}
    (extends_ : WellFormedLog (leaderLog ++ [row]))
    (termLe : row.term ≤ bound)
    (sameElections : after.elections = before.elections)
    (each :
      ∀ position,
        Undecided agreed leaderLog row Torn
          (before.files position) (after.files position)) :
    CrashPoint (fun written => written = row) Torn agreed
      before after := by
  refine ⟨agreed, bound, agree.of_sameElections
    (agree.files.undecided extends_ termLe each) sameElections,
    List.prefix_refl _, ?_⟩
  intro position _
  rcases each position with
    kept | ⟨complete, ⟨_, _, pending, untorn⟩ | discarded⟩
  · rw [kept.contents]
    exact .evolved (.kept _)
  · rw [pending.contents (steady position)]
    exact .torn (.kept _) complete rfl untorn
  · rw [discarded.contents (steady position)]
    exact .discarded (.kept _) complete

theorem crashPoint_of_decided
    (agree : DurableAgree agreed bound before)
    (steady : ∀ position, (before.files position).Steady)
    {Torn : Prop} {leader : Fin count}
    (complete : (before.files leader).committed = agreed)
    (extends_ : WellFormedLog ((before.files leader).log ++ [row]))
    (newest : row.term = bound)
    (alone :
      ∀ position, position ≠ leader →
        (before.files leader).uncommitted = [])
    (sameElections : after.elections = before.elections)
    (advanced :
      Advanced row (before.files leader) (after.files leader))
    (others :
      ∀ position, position ≠ leader →
        Decided agreed bound row
          (before.files position) (after.files position)) :
    CrashPoint (fun written => written = row) Torn agreed
      before after := by
  refine ⟨agreed ++ ((before.files leader).uncommitted ++ [row]), bound,
    agree.of_sameElections
      (agree.files.decided complete extends_ newest alone advanced others)
      sameElections,
    List.prefix_append _ _, ?_⟩
  intro position holds
  -- A database that has not committed the row is too short.
  have tooShort
      (notYet : (after.files position).committed <+: agreed) : False := by
    have length := notYet.length_le
    rw [holds] at length
    simp at length
  by_cases isLeader : position = leader
  · subst isLeader
    rw [advanced.contents (steady position)]
    exact .committed (.kept _) complete rfl
  · rcases others position isLeader with
      ⟨same, _⟩ | ⟨_, followerComplete, ⟨_, pending⟩ | advances⟩
    · refine (tooShort ?_).elim
      rw [same]
      exact (agree.files.each position).committed
    · refine (tooShort ?_).elim
      rw [pending.committed (steady position).wellFormed]
      exact (agree.files.each position).committed
    · rw [advances.contents (steady position)]
      exact .committed (.kept _) followerComplete rfl

end CrashPoints

/-! ## The replicas of a write -/

section Replicas

variable {agreed : List LogEntry} {bound : Int} {shard : Shard count}
  {leader : Fin count} {entry : LogEntry}

theorem Coherent.steady
    (coherent : Coherent agreed bound shard) (position : Fin count) :
    (shard.replicas position).store.Steady := by
  have inStep := coherent.inStep position
  refine ⟨coherent.wellFormed position, ?_⟩
  rw [← inStep.applied, ← inStep.commit]
  exact inStep.caughtUp

theorem Coherent.pending_appended
    (coherent : Coherent agreed bound shard)
    (nextIndex :
      entry.index = (shard.replicas leader).store.log.length + 1) :
    Pending entry.stored 0 (shard.replicas leader).store
      (shard.appended leader entry).store :=
  pending_appendLog (coherent.wellFormed leader) nextIndex

/-- Every statement a follower executes for an entry it acknowledges. -/
theorem Leads.crashSafe_sent
    (leads : Leads agreed bound shard leader)
    (coherent : Coherent agreed bound shard)
    (nextIndex :
      entry.index = (shard.replicas leader).store.log.length + 1)
    {position : Fin count}
    (acknowledges : position ∈ shard.acknowledging leader) :
    CrashSafe execute
      (fun reached =>
        reached = (shard.replicas position).store ∨
          Pending entry.stored 0 (shard.replicas position).store reached)
      (shard.replicas position).store
      (shard.sentStatements leader entry position) := by
  obtain ⟨isOther, different, noTail⟩ :=
    acknowledging_subset coherent acknowledges
  have online := (coherent.mem_otherOnline.mp isOther).1
  have log := (leads.followers position different online).1
  have inStep := coherent.inStep position
  have followerNext :
      entry.index = (shard.replicas position).store.log.length + 1 := by
    rw [nextIndex, leads.log_eq, noTail, List.append_nil, log]
  have notOlder :
      (shard.replicas position).store.currentTerm ≤
        (shard.replicas leader).currentTerm := by
    rw [← inStep.term, leads.term]
    exact leads.highest position
  have appends :=
    crashSafe_appendRow (coherent.wellFormed position) followerNext
      (shard.replicas leader).id notOlder
  unfold sentStatements
  rw [if_pos noTail, inStep.commit, inStep.applied]
  exact appends

/-- Every statement a follower executes for an entry it refuses. -/
theorem Leads.crashSafe_refused
    (leads : Leads agreed bound shard leader)
    (coherent : Coherent agreed bound shard)
    (hasTail : (shard.replicas leader).store.uncommitted ≠ [])
    (position : Fin count) :
    CrashSafe execute (Kept (shard.replicas position).store)
      (shard.replicas position).store
      (shard.sentStatements leader entry position) := by
  have inStep := coherent.inStep position
  have notOlder :
      (shard.replicas position).store.currentTerm ≤
        (shard.replicas leader).currentTerm := by
    rw [← inStep.term, leads.term]
    exact leads.highest position
  unfold sentStatements
  rw [if_neg hasTail, inStep.commit, inStep.applied]
  exact crashSafe_persistRows (coherent.wellFormed position)
    (shard.replicas leader).id notOlder

/-- A follower that acknowledged has appended the row. -/
theorem Leads.pending_sent
    (leads : Leads agreed bound shard leader)
    (coherent : Coherent agreed bound shard)
    (nextIndex :
      entry.index = (shard.replicas leader).store.log.length + 1)
    {position : Fin count}
    (acknowledges : position ∈ shard.acknowledging leader) :
    Pending entry.stored 0 (shard.replicas position).store
      (shard.sent leader entry position).store := by
  rcases (leads.crashSafe_sent coherent nextIndex acknowledges).finish with
    same | pending
  · -- The log has grown, so the database is not the one before.
    have log := log_sent coherent leads nextIndex acknowledges
    obtain ⟨isOther, different, noTail⟩ :=
      acknowledging_subset coherent acknowledges
    have online := (coherent.mem_otherOnline.mp isOther).1
    have before := (leads.followers position different online).1
    change (shard.sent leader entry position).store = _ at same
    rw [same, leads.log_eq, noTail, before] at log
    simp at log
  · exact pending

theorem Leads.acknowledging_before
    (leads : Leads agreed bound shard leader)
    (coherent : Coherent agreed bound shard) {position : Fin count}
    (acknowledges : position ∈ shard.acknowledging leader) :
    position ≠ leader ∧
      (shard.replicas position).online = true ∧
      (shard.replicas position).store.log = agreed ∧
      (shard.replicas position).store.committed = agreed ∧
      (shard.replicas leader).store.log = agreed := by
  obtain ⟨isOther, different, noTail⟩ :=
    acknowledging_subset coherent acknowledges
  have online := (coherent.mem_otherOnline.mp isOther).1
  obtain ⟨log, complete⟩ := leads.followers position different online
  refine ⟨different, online, log, complete, ?_⟩
  rw [leads.log_eq, noTail, List.append_nil]

/-- Committing executes the uncommitted entries and the row. -/
theorem commitStatements_eq
    {replica : RaftReplica} {before : SqliteStore} {row : LogEntry}
    (pending : Pending row 0 before replica.store)
    (wellFormed : before.WellFormed)
    (commit : replica.commitIndex = before.commitIndex) :
    commitStatements replica =
      (before.uncommitted ++ [row]).map LogEntry.statement ++
        persistRows replica.currentTerm replica.votedFor
          replica.store.log.length replica.store.log.length := by
  have tail := pending.uncommitted wellFormed
  unfold SqliteStore.uncommitted at tail
  rw [pending.commit] at tail
  unfold commitStatements
  rw [commit, tail]
  rfl

theorem advanced_committedAll
    {replica : RaftReplica} {before : SqliteStore} {row : LogEntry}
    (pending : Pending row 0 before replica.store)
    (steady : before.Steady)
    (commit : replica.commitIndex = before.commitIndex)
    (notOlder : before.currentTerm ≤ replica.currentTerm) :
    Advanced row before (committedAll replica).store := by
  change Advanced row before
    (replica.store.executeAll (commitStatements replica))
  rw [commitStatements_eq pending steady.wellFormed commit]
  exact pending.advanced_commitRows steady _ notOlder

theorem discarded_cutOff
    {replica : RaftReplica} {before : SqliteStore} {row : LogEntry}
    (pending : Pending row 0 before replica.store)
    (wellFormed : before.WellFormed)
    (extends_ : WellFormedLog (before.log ++ [row]))
    (commit : replica.commitIndex = before.commitIndex) :
    Discarded before (cutOff replica).store := by
  change Discarded before
    (replica.store.executeAll (discardStatements replica))
  unfold discardStatements
  rw [commit]
  exact pending.truncate wellFormed extends_ rfl

end Replicas

/-! ## Crashes during a write -/

theorem Undecided.mono
    {agreed leaderLog : List LogEntry} {row : LogEntry}
    {Torn Torn' : Prop} {before after : SqliteStore}
    (undecided : Undecided agreed leaderLog row Torn before after)
    (weaken : Torn → Torn') :
    Undecided agreed leaderLog row Torn' before after := by
  rcases undecided with
    kept | ⟨complete, ⟨progress, log, pending, untorn⟩ | discarded⟩
  · exact Or.inl kept
  · exact Or.inr
      ⟨complete, Or.inl ⟨progress, log, pending, untorn.imp_right weaken⟩⟩
  · exact Or.inr ⟨complete, Or.inr discarded⟩

/-- Whether the leading replica has applied an entry after it last wrote its
commit index. -/
def noteEvent (leading : Fin count) (applied : Bool) :
    ShardEvent count → Bool
  | .executed position statement =>
      if position = leading then noteApplied applied statement else applied
  | .elected _ _ => applied

theorem foldl_noteEvent_executed
    (leading : Fin count) (statements : List Statement) (applied : Bool) :
    (statements.map (ShardEvent.executed leading)).foldl
        (noteEvent leading) applied =
      statements.foldl noteApplied applied := by
  induction statements generalizing applied with
  | nil =>
      rfl
  | cons statement rest inductionHypothesis =>
      rw [List.map_cons, List.foldl_cons, List.foldl_cons,
        inductionHypothesis]
      simp [noteEvent]

section Crash

variable {agreed : List LogEntry} {bound : Int} {shard : Shard count}
  {leader : Fin count} {entry : LogEntry}

/-- The part of a write before its outcome is known. -/
private def sendingJournal
    (shard : Shard count) (leader : Fin count) (entry : LogEntry) :
    List (ShardEvent count) :=
  [Statement.appendLog entry].map (.executed leader) ++
    blocks (shard.sentStatements leader entry) (shard.otherOnline leader)

private theorem writeJournal_eq
    (shard : Shard count) (leader : Fin count) (entry : LogEntry)
    (closeStatements : RaftReplica → List Statement) :
    shard.writeJournal leader entry closeStatements =
      shard.sendingJournal leader entry ++
        ((closeStatements (shard.appended leader entry)).map
            (.executed leader) ++
          blocks
            (fun position =>
              closeStatements (shard.sent leader entry position))
            (shard.acknowledging leader)) :=
  rfl

private theorem files_after_sending
    (coherent : Coherent agreed bound shard)
    (leader : Fin count) (entry : LogEntry)
    (elections : List Int) (position : Fin count) :
    (Durable.after ⟨shard.files, elections⟩
        (shard.sendingJournal leader entry)).files position =
      if position = leader then
        (shard.appended leader entry).store
      else if position ∈ shard.otherOnline leader then
        (shard.sent leader entry position).store
      else
        (shard.replicas position).store := by
  have distinct : (shard.otherOnline leader).Nodup :=
    (nodup_onlineReplicas shard).filter _
  unfold sendingJournal
  rw [Durable.after_append, Durable.after_executed,
    Durable.after_blocks_files _ _ distinct]
  by_cases isLeader : position = leader
  · subst isLeader
    have notOther : position ∉ shard.otherOnline position := fun member =>
      (coherent.mem_otherOnline.mp member).2 rfl
    rw [if_neg notOther, if_pos rfl]
    simp only [Function.update_self]
    rfl
  · rw [if_neg isLeader]
    simp only [Function.update_of_ne isLeader]
    rfl

/-- While the entry is sent nothing is decided. -/
private theorem crashSafe_sending
    (coherent : Coherent agreed bound shard)
    (leads : Leads agreed bound shard leader)
    (nextIndex :
      entry.index = (shard.replicas leader).store.log.length + 1)
    (elections : List Int) :
    CrashSafe Durable.perform
      (fun reached =>
        reached.elections = elections ∧
          ∀ position,
            Undecided agreed (shard.replicas leader).store.log entry.stored
              False (shard.replicas position).store
              (reached.files position))
      ⟨shard.files, elections⟩
      (shard.sendingJournal leader entry) := by
  have kept (position : Fin count) :
      Undecided agreed (shard.replicas leader).store.log entry.stored
        False (shard.replicas position).store
        (shard.replicas position).store :=
    Or.inl (Kept.refl (coherent.wellFormed position))
  have appendedIs :
      Undecided agreed (shard.replicas leader).store.log entry.stored
        False (shard.replicas leader).store
        (shard.appended leader entry).store :=
    Or.inr ⟨leads.complete, Or.inl
      ⟨0, rfl, coherent.pending_appended nextIndex, Or.inl rfl⟩⟩
  have first :
      CrashSafe Durable.perform _ ⟨shard.files, elections⟩
        ([Statement.appendLog entry].map (.executed leader)) :=
    crashSafe_executed
      (fun position =>
        Undecided agreed (shard.replicas leader).store.log entry.stored
          False (shard.replicas position).store)
      kept
      (crashSafe_cons.mpr ⟨kept leader, crashSafe_nil.mpr appendedIs⟩)
  unfold sendingJournal
  rw [crashSafe_append]
  refine ⟨first, ?_⟩
  have now := first.finish.2
  change CrashSafe _ _ (Durable.after ⟨shard.files, elections⟩ _) _
  change ∀ position, Undecided _ _ _ _ _
    ((Durable.after ⟨shard.files, elections⟩ _).files position) at now
  rw [Durable.after_executed] at now ⊢
  refine crashSafe_blocks
    (fun position =>
      Undecided agreed (shard.replicas leader).store.log entry.stored
        False (shard.replicas position).store)
    ((nodup_onlineReplicas shard).filter _) now ?_
  intro position isOther
  obtain ⟨online, different⟩ := coherent.mem_otherOnline.mp isOther
  simp only [Function.update_of_ne different]
  change CrashSafe _ _ (shard.replicas position).store _
  by_cases noTail : (shard.replicas leader).store.uncommitted = []
  · have acknowledges : position ∈ shard.acknowledging leader := by
      unfold acknowledging
      rw [if_pos noTail]
      exact isOther
    obtain ⟨_, _, log, complete, leaderLog⟩ :=
      leads.acknowledging_before coherent acknowledges
    refine (leads.crashSafe_sent coherent nextIndex acknowledges).mono ?_
    intro reached leaves
    rcases leaves with same | pending
    · rw [same]
      exact kept position
    · exact Or.inr ⟨complete, Or.inl
        ⟨0, log.trans leaderLog.symm, pending, Or.inl rfl⟩⟩
  · exact (leads.crashSafe_refused coherent noTail position).mono
      fun _ isKept => Or.inl isKept

/-- Every crash point of a write that is rejected. -/
theorem Leads.crashSafe_rejected
    (leads : Leads agreed bound shard leader)
    (coherent : Coherent agreed bound shard)
    (nextIndex :
      entry.index = (shard.replicas leader).store.log.length + 1)
    (extends_ :
      WellFormedLog
        ((shard.replicas leader).store.log ++ [entry.stored]))
    (elections : List Int) :
    CrashSafe Durable.perform
      (fun reached =>
        reached.elections = elections ∧
          ∀ position,
            Undecided agreed (shard.replicas leader).store.log entry.stored
              False (shard.replicas position).store
              (reached.files position))
      ⟨shard.files, elections⟩
      (shard.writeJournal leader entry discardStatements) := by
  have sending := crashSafe_sending coherent leads nextIndex elections
  rw [writeJournal_eq, crashSafe_append]
  refine ⟨sending, ?_⟩
  have sentFiles (position : Fin count) :=
    files_after_sending coherent leader entry elections position
  obtain ⟨sentElections, sentNow⟩ := sending.finish
  change CrashSafe _ _ (Durable.after ⟨shard.files, elections⟩ _) _
  change (Durable.after ⟨shard.files, elections⟩ _).elections = _
    at sentElections
  change ∀ position, Undecided _ _ _ _ _
    ((Durable.after ⟨shard.files, elections⟩ _).files position) at sentNow
  generalize
    Durable.after ⟨shard.files, elections⟩
      (shard.sendingJournal leader entry) = sending at *
  have leaderFile :
      sending.files leader = (shard.appended leader entry).store := by
    rw [sentFiles, if_pos rfl]
  have closes :
      CrashSafe Durable.perform _ sending
        ((discardStatements (shard.appended leader entry)).map
          (.executed leader)) :=
    crashSafe_executed
      (fun position =>
        Undecided agreed (shard.replicas leader).store.log entry.stored
          False (shard.replicas position).store)
      sentNow
      (crashSafe_cons.mpr
        ⟨sentNow leader, crashSafe_nil.mpr <| by
          rw [leaderFile]
          exact Or.inr ⟨leads.complete, Or.inr <|
            discarded_cutOff (coherent.pending_appended nextIndex)
              (coherent.wellFormed leader) extends_
              (coherent.inStep leader).commit⟩⟩)
  rw [sentElections] at closes
  rw [crashSafe_append]
  refine ⟨closes, ?_⟩
  obtain ⟨closedElections, closedNow⟩ := closes.finish
  change CrashSafe _ _ (sending.after _) _
  change (sending.after _).elections = _ at closedElections
  change ∀ position, Undecided _ _ _ _ _
    ((sending.after _).files position) at closedNow
  rw [Durable.after_executed] at closedNow ⊢
  rw [← sentElections]
  refine crashSafe_blocks
    (fun position =>
      Undecided agreed (shard.replicas leader).store.log entry.stored
        False (shard.replicas position).store)
    (nodup_acknowledging shard leader) closedNow ?_
  intro position acknowledges
  obtain ⟨different, online, log, complete, leaderLog⟩ :=
    leads.acknowledging_before coherent acknowledges
  have followerFile :
      sending.files position =
        (shard.sent leader entry position).store := by
    have isOther := coherent.mem_otherOnline.mpr ⟨online, different⟩
    rw [sentFiles, if_neg different, if_pos isOther]
  have now := closedNow position
  simp only [Function.update_of_ne different, followerFile] at now ⊢
  refine crashSafe_cons.mpr ⟨now, crashSafe_nil.mpr ?_⟩
  rw [leaderLog, ← log] at extends_
  exact Or.inr ⟨complete, Or.inr <|
    discarded_cutOff
      (leads.pending_sent coherent nextIndex acknowledges)
      (coherent.wellFormed position) extends_
      (coherent.inStep position).commit⟩

/-- A leader that can commit has no tail, or there is no other replica. -/
theorem noTail_of_enough
    (enough :
      ¬ 1 + (shard.acknowledging leader).length < majority count)
    {position : Fin count} (different : position ≠ leader) :
    (shard.replicas leader).store.uncommitted = [] := by
  by_contra hasTail
  unfold acknowledging at enough
  rw [if_neg hasTail] at enough
  unfold majority at enough
  have positionLt := position.isLt
  have leaderLt := leader.isLt
  have differs : position.val ≠ leader.val := fun same =>
    different (Fin.ext same)
  simp only [List.length_nil] at enough
  omega

/-- The other databases while the leader commits. -/
private theorem decided_after_sending
    (leads : Leads agreed bound shard leader)
    (coherent : Coherent agreed bound shard)
    (nextIndex :
      entry.index = (shard.replicas leader).store.log.length + 1)
    (enough :
      ¬ 1 + (shard.acknowledging leader).length < majority count)
    (elections : List Int) {position : Fin count}
    (different : position ≠ leader) :
    Decided agreed bound entry.stored (shard.replicas position).store
      ((Durable.after ⟨shard.files, elections⟩
        (shard.sendingJournal leader entry)).files position) := by
  rw [files_after_sending coherent, if_neg different]
  split
  case isTrue isOther =>
    have acknowledges : position ∈ shard.acknowledging leader := by
      unfold acknowledging
      rw [if_pos (noTail_of_enough enough different)]
      exact isOther
    obtain ⟨_, _, log, complete, _⟩ :=
      leads.acknowledging_before coherent acknowledges
    exact Or.inr ⟨log, complete, Or.inl
      ⟨0, leads.pending_sent coherent nextIndex acknowledges⟩⟩
  case isFalse =>
    exact Or.inl ⟨rfl, leads.fresh position different⟩

/-- While the followers commit, the leader has committed. -/
private theorem crashSafe_heartbeats
    (leads : Leads agreed bound shard leader)
    (coherent : Coherent agreed bound shard)
    (nextIndex :
      entry.index = (shard.replicas leader).store.log.length + 1)
    (decided : Durable count)
    (advanced :
      Advanced entry.stored (shard.replicas leader).store
        (decided.files leader))
    (others :
      ∀ position, position ≠ leader →
        Decided agreed bound entry.stored
          (shard.replicas position).store (decided.files position))
    (followers :
      ∀ position ∈ shard.acknowledging leader,
        decided.files position =
          (shard.sent leader entry position).store) :
    CrashSafe Durable.perform
      (fun reached =>
        reached.elections = decided.elections ∧
          Advanced entry.stored (shard.replicas leader).store
            (reached.files leader) ∧
          ∀ position, position ≠ leader →
            Decided agreed bound entry.stored
              (shard.replicas position).store (reached.files position))
      decided
      (blocks
        (fun position =>
          commitStatements (shard.sent leader entry position))
        (shard.acknowledging leader)) := by
  have each :
      CrashSafe Durable.perform _ decided
        (blocks
          (fun position =>
            commitStatements (shard.sent leader entry position))
          (shard.acknowledging leader)) :=
    crashSafe_blocks
      (fun position store =>
        if position = leader then
          Advanced entry.stored (shard.replicas leader).store store
        else
          Decided agreed bound entry.stored
            (shard.replicas position).store store)
      (nodup_acknowledging shard leader)
      (by
        intro position
        by_cases isLeader : position = leader
        · subst isLeader
          simp only [if_true]
          exact advanced
        · simp only [if_neg isLeader]
          exact others position isLeader)
      (by
        intro position acknowledges
        obtain ⟨different, online, log, complete, _⟩ :=
          leads.acknowledging_before coherent acknowledges
        have pending :=
          leads.pending_sent coherent nextIndex acknowledges
        have inStep := coherent.inStep position
        have notOlder :
            (shard.replicas position).store.currentTerm ≤
              (shard.sent leader entry position).currentTerm := by
          rw [← inStep.term]
          exact (leads.highest position).trans leads.term.ge
        have rows :=
          crashSafe_commitRows pending (coherent.steady position) false
            (shard.sent leader entry position).votedFor notOlder
        rw [← commitStatements_eq pending (coherent.wellFormed position)
          inStep.commit] at rows
        simp only [if_neg different, followers position acknowledges]
        refine (rows.mono fun reached leaves => ?_).unwatched
        rcases leaves with ⟨progress, isPending, _⟩ | advances
        · exact Or.inr ⟨log, complete, Or.inl ⟨progress, isPending⟩⟩
        · exact Or.inr ⟨log, complete, Or.inr advances⟩)
  refine each.mono ?_
  rintro reached ⟨sameElections, now⟩
  refine ⟨sameElections, ?_, fun position different => ?_⟩
  · have leaderNow := now leader
    rwa [if_pos rfl] at leaderNow
  · have positionNow := now position
    rwa [if_neg different] at positionNow

/-- While the leader commits, either nothing is decided or it has committed. -/
private theorem crashSafe_leaderCommits
    (leads : Leads agreed bound shard leader)
    (coherent : Coherent agreed bound shard)
    (nextIndex :
      entry.index = (shard.replicas leader).store.log.length + 1)
    {sending : Durable count} (note : Bool)
    (leaderFile :
      sending.files leader = (shard.appended leader entry).store)
    (undecided :
      ∀ position,
        Undecided agreed (shard.replicas leader).store.log entry.stored
          False (shard.replicas position).store (sending.files position))
    (others :
      ∀ position, position ≠ leader →
        Decided agreed bound entry.stored
          (shard.replicas position).store (sending.files position)) :
    CrashSafe (watch Durable.perform (noteEvent leader))
      (fun reached =>
        reached.1.elections = sending.elections ∧
          ((∀ position,
              Undecided agreed (shard.replicas leader).store.log
                entry.stored (reached.2 = true)
                (shard.replicas position).store
                (reached.1.files position)) ∨
            Advanced entry.stored (shard.replicas leader).store
                (reached.1.files leader) ∧
              ∀ position, position ≠ leader →
                Decided agreed bound entry.stored
                  (shard.replicas position).store
                  (reached.1.files position)))
      (sending, note)
      ((commitStatements (shard.appended leader entry)).map
        (.executed leader)) := by
  have pending := coherent.pending_appended nextIndex
  have inStep := coherent.inStep leader
  have notOlder :
      (shard.replicas leader).store.currentTerm ≤
        (shard.appended leader entry).currentTerm :=
    inStep.term.ge
  have leaderRows :=
    crashSafe_commitRows pending (coherent.steady leader) note
      (shard.appended leader entry).votedFor notOlder
  rw [← commitStatements_eq pending (coherent.wellFormed leader)
    inStep.commit, ← leaderFile] at leaderRows
  intro cut
  have reached := leaderRows cut
  rw [foldl_watch] at reached ⊢
  rw [← List.map_take, foldl_noteEvent_executed]
  have files :=
    sending.after_executed leader
      ((commitStatements (shard.appended leader entry)).take cut)
  unfold Durable.after at files
  rw [files]
  refine ⟨rfl, ?_⟩
  rcases reached with ⟨progress, isPending, untorn⟩ | advanced
  · refine Or.inl fun position => ?_
    by_cases isLeader : position = leader
    · subst isLeader
      simp only [Function.update_self]
      exact Or.inr ⟨leads.complete, Or.inl
        ⟨progress, rfl, isPending, untorn⟩⟩
    · simp only [Function.update_of_ne isLeader]
      exact (undecided position).mono False.elim
  · refine Or.inr ⟨?_, fun position different => ?_⟩
    · simp only [Function.update_self]
      exact advanced
    · simp only [Function.update_of_ne different]
      exact others position different

/-- Every crash point of a write that is committed.  The row may have been
applied before it is committed only while `noteEvent` says so. -/
theorem Leads.crashSafe_committed
    (leads : Leads agreed bound shard leader)
    (coherent : Coherent agreed bound shard)
    (nextIndex :
      entry.index = (shard.replicas leader).store.log.length + 1)
    (extends_ :
      WellFormedLog
        ((shard.replicas leader).store.log ++ [entry.stored]))
    (newest : entry.term = bound)
    (enough :
      ¬ 1 + (shard.acknowledging leader).length < majority count)
    {elections : List Int}
    (agree : DurableAgree agreed bound ⟨shard.files, elections⟩)
    (applied : Bool) :
    CrashSafe (watch Durable.perform (noteEvent leader))
      (fun reached =>
        CrashPoint (fun written => written = entry.stored)
          (reached.2 = true) agreed ⟨shard.files, elections⟩ reached.1)
      (⟨shard.files, elections⟩, applied)
      (shard.writeJournal leader entry commitStatements) := by
  have steady (position : Fin count) := coherent.steady position
  have alone :
      ∀ position, position ≠ leader →
        (shard.replicas leader).store.uncommitted = [] :=
    fun _ different => noTail_of_enough enough different
  have open_ {Torn : Prop} {reached : Durable count}
      (sameElections : reached.elections = elections)
      (each :
        ∀ position,
          Undecided agreed (shard.replicas leader).store.log entry.stored
            Torn (shard.replicas position).store
            (reached.files position)) :
      CrashPoint (fun written => written = entry.stored) Torn agreed
        ⟨shard.files, elections⟩ reached :=
    crashPoint_of_undecided agree steady extends_ newest.le sameElections
      each
  have closed {Torn : Prop} {reached : Durable count}
      (sameElections : reached.elections = elections)
      (advanced :
        Advanced entry.stored (shard.replicas leader).store
          (reached.files leader))
      (others :
        ∀ position, position ≠ leader →
          Decided agreed bound entry.stored
            (shard.replicas position).store (reached.files position)) :
      CrashPoint (fun written => written = entry.stored) Torn agreed
        ⟨shard.files, elections⟩ reached :=
    crashPoint_of_decided agree steady leads.complete extends_ newest
      alone sameElections advanced others
  have sending := crashSafe_sending coherent leads nextIndex elections
  rw [writeJournal_eq, crashSafe_append]
  constructor
  · refine (sending.watched (noteEvent leader) applied).mono ?_
    rintro ⟨reached, note⟩ ⟨sameElections, each⟩
    exact open_ sameElections fun position =>
      (each position).mono False.elim
  rw [foldl_watch]
  obtain ⟨sentElections, sentNow⟩ := sending.finish
  have sentFiles (position : Fin count) :=
    files_after_sending coherent leader entry elections position
  have sentOthers (position : Fin count) (different : position ≠ leader) :=
    decided_after_sending leads coherent nextIndex enough elections
      different
  change CrashSafe _ _ (Durable.after ⟨shard.files, elections⟩ _, _) _
  change (Durable.after ⟨shard.files, elections⟩ _).elections = _
    at sentElections
  change ∀ position, Undecided _ _ _ _ _
    ((Durable.after ⟨shard.files, elections⟩ _).files position) at sentNow
  generalize
    Durable.after ⟨shard.files, elections⟩
      (shard.sendingJournal leader entry) = sending at *
  generalize
    (shard.sendingJournal leader entry).foldl (noteEvent leader) applied =
      note
  have leaderFile :
      sending.files leader = (shard.appended leader entry).store := by
    rw [sentFiles, if_pos rfl]
  rw [crashSafe_append]
  constructor
  · -- The leader commits.
    refine (crashSafe_leaderCommits leads coherent nextIndex note leaderFile
      sentNow sentOthers).mono ?_
    rintro ⟨reached, note⟩ ⟨sameElections, each | ⟨advanced, others⟩⟩
    · exact open_ (sameElections.trans sentElections) each
    · exact closed (sameElections.trans sentElections) advanced others
  · -- The followers commit.
    rw [foldl_watch]
    change CrashSafe _ _ (sending.after _, _) _
    rw [Durable.after_executed]
    have inStep := coherent.inStep leader
    have heartbeats :=
      crashSafe_heartbeats leads coherent nextIndex
        { sending with
          files := Function.update sending.files leader
            ((sending.files leader).executeAll
              (commitStatements (shard.appended leader entry))) }
        (by
          simp only [Function.update_self, leaderFile]
          exact advanced_committedAll (coherent.pending_appended nextIndex)
            (steady leader) inStep.commit inStep.term.ge)
        (by
          intro position different
          simp only [Function.update_of_ne different]
          exact sentOthers position different)
        (by
          intro position acknowledges
          obtain ⟨different, online, _⟩ :=
            leads.acknowledging_before coherent acknowledges
          have isOther :=
            coherent.mem_otherOnline.mpr ⟨online, different⟩
          simp only [Function.update_of_ne different]
          rw [sentFiles, if_neg different, if_pos isOther])
    refine (heartbeats.watched (noteEvent leader) _).mono ?_
    rintro ⟨reached, later⟩ ⟨sameElections, advanced, others⟩
    exact closed (sameElections.trans sentElections) advanced others

end Crash

end ShardedKvStore.Shard

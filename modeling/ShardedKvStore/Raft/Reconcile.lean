import ShardedKvStore.Foundation.LogMatching
import ShardedKvStore.Raft.Calls

/-!
# Reconciling the log of a follower

`append_entries` is called with a slice of the leader's log: the entries after
`start` up to `count`, and the term of the entry at `start`.  A slice that
connects to the follower's log is merged into it; the rest of the call commits
up to `min(leader_commit, last_log_index)`.

The last index is the one of the follower's whole log, of which only the part up
to `count` was compared with the leader.
-/

namespace ShardedKvStore

open Foundation

namespace SqliteStore

theorem KnownLog.merged
    {own leader : List LogEntry} (ownLog : KnownLog own)
    (leaderLog : KnownLog leader) (count : Nat) :
    KnownLog (merged own leader count) := by
  unfold Foundation.merged
  split
  · exact ownLog
  · exact leaderLog.of_prefix (List.take_prefix count leader)

end SqliteStore

/-- A statement on the `kv` table. -/
def Statement.OnKv : Statement → Prop
  | .put _ _ => True
  | .erase _ => True
  | _ => False

/-- The entries after `start` up to `count`. -/
def entriesBetween (log : List LogEntry) (start count : Nat) : List LogEntry :=
  (log.take count).drop start

theorem entriesBetween_of_le
    (log : List LogEntry) {start count : Nat} (short : count ≤ start) :
    entriesBetween log start count = [] := by
  unfold entriesBetween
  rw [List.drop_eq_nil_iff, List.length_take]
  omega

/-- A slice that is not empty starts with the entry after `start`. -/
theorem entriesBetween_of_lt
    (log : List LogEntry) {start count : Nat}
    (before : start < count) (within : count ≤ log.length) :
    ∃ entry,
      log[start]? = some entry ∧
        entriesBetween log start count = entry :: entriesBetween log (start + 1) count := by
  have inside : start < (log.take count).length := by
    rw [List.length_take]
    omega
  have present := List.getElem?_eq_getElem inside
  refine ⟨_, ?_, List.drop_eq_getElem_cons inside⟩
  rwa [List.getElem?_take_of_lt before] at present

namespace RaftReplica

/-! ## Merging one received entry -/

/-- A database that differs from another in its log at most. -/
structure SameButLog (before after : SqliteStore) : Prop where
  kv : after.kv = before.kv
  rows : after.metaTable = before.metaTable

theorem SameButLog.trans
    {first second third : SqliteStore}
    (earlier : SameButLog first second) (later : SameButLog second third) :
    SameButLog first third :=
  ⟨later.kv.trans earlier.kv, later.rows.trans earlier.rows⟩

/-- The body of the loop merges one entry. -/
theorem reconcile_cons
    {replica : RaftReplica} {entry : LogEntry} {start : Nat}
    (rest : List LogEntry)
    (contiguous :
      OrderedTable.Contiguous LogEntry.index replica.store.log)
    (entryIndex : entry.index = start + 1)
    (within : start ≤ replica.store.log.length) :
    ∃ store journal,
      SameButLog replica.store store ∧
        store.log =
          mergeRow LogEntry.term replica.store.log start entry.stored ∧
        (∀ statement ∈ journal, ¬ statement.OnKv) ∧
        reconcile (entry :: rest) replica =
          (reconcile rest { replica with store := store }).prepend
            journal := by
  have found :
      replica.store.logAt entry.index = replica.store.log[start]? := by
    rw [entryIndex]
    exact SqliteStore.logAt_succ contiguous start
  cases present : replica.store.log[start]? with
  | none =>
      have length : replica.store.log.length = start :=
        le_antisymm (List.getElem?_eq_none_iff.mp present) within
      refine ⟨replica.store.execute (.appendLog entry),
        [.appendLog entry], ⟨rfl, rfl⟩, ?_, ?_, ?_⟩
      · rw [SqliteStore.log_appendLog contiguous
          (by rw [entryIndex, length]), mergeRow, present,
          if_neg (by simp), List.take_of_length_le length.le]
      · simp [Statement.OnKv]
      · simp [reconcile, found, present]
  | some existing =>
      by_cases sameTerm : existing.term = entry.term
      · refine ⟨replica.store, [], ⟨rfl, rfl⟩, ?_, by simp, ?_⟩
        · rw [mergeRow, present, if_pos (by simp [sameTerm])]
        · simp [reconcile, found, present, sameTerm]
      · -- The conflicting entry and all after it make way for the received.
        have cut :
            (replica.store.execute
              (.truncateLogFrom entry.index)).log =
                replica.store.log.take start := by
          rw [entryIndex, SqliteStore.log_truncateLogFrom contiguous]
        have cutContiguous :
            OrderedTable.Contiguous LogEntry.index
              (replica.store.execute
                (.truncateLogFrom entry.index)).log := by
          rw [cut]
          exact contiguous.take start
        have cutLength :
            (replica.store.execute
              (.truncateLogFrom entry.index)).log.length = start := by
          rw [cut, List.length_take]
          omega
        have absent :
            (replica.store.execute
              (.truncateLogFrom entry.index)).logAt entry.index =
                none :=
          SqliteStore.logAt_eq_none cutContiguous
            (Or.inr (by rw [cutLength]; omega))
        refine ⟨(replica.store.execute
            (.truncateLogFrom entry.index)).execute (.appendLog entry),
          [.truncateLogFrom entry.index, .appendLog entry],
          ⟨rfl, rfl⟩, ?_, ?_, ?_⟩
        · rw [SqliteStore.log_appendLog cutContiguous
            (by rw [cutLength]; exact entryIndex), cut, mergeRow, present,
            if_neg (by simpa using sameTerm)]
        · simp [Statement.OnKv]
        · simp [reconcile, found, present, sameTerm, absent]

section Reconcile

variable {leaderLog : List LogEntry}

/-- The loop merges the whole slice. -/
theorem reconcile_slice
    (replica : RaftReplica) {start count : Nat}
    (ownLog : SqliteStore.KnownLog replica.store.log)
    (theirLog : SqliteStore.KnownLog leaderLog)
    (matching : LogMatching LogEntry.term replica.store.log leaderLog)
    (agree : replica.store.log.take start = leaderLog.take start)
    (within : start ≤ replica.store.log.length)
    (ordered : start ≤ count) (inside : count ≤ leaderLog.length) :
    ∃ store journal,
      SameButLog replica.store store ∧
        store.log = merged replica.store.log leaderLog count ∧
        (∀ statement ∈ journal, ¬ statement.OnKv) ∧
        reconcile (entriesBetween leaderLog start count) replica =
          ⟨.ok (), { replica with store := store }, journal⟩ := by
  obtain ⟨remaining, rfl⟩ := Nat.exists_eq_add_of_le ordered
  induction remaining generalizing replica start with
  | zero =>
      refine ⟨replica.store, [], ⟨rfl, rfl⟩, (merged_eq_own agree).symm,
        by simp, ?_⟩
      rw [Nat.add_zero, entriesBetween_of_le leaderLog le_rfl]
      rfl
  | succ remaining inductionHypothesis =>
      obtain ⟨entry, received, shape⟩ :=
        entriesBetween_of_lt leaderLog
          (show start < start + (remaining + 1) by omega) inside
      obtain ⟨store, journal, same, mergedRow, onLog, merges⟩ :=
        reconcile_cons
          (entriesBetween leaderLog (start + 1) (start + (remaining + 1)))
          ownLog.contiguous (theirLog.contiguous start entry received)
          within
      have log :
          store.log = merged replica.store.log leaderLog (start + 1) := by
        rw [mergedRow, theirLog.rows entry (List.mem_of_getElem? received)]
        exact mergeRow_eq_merged matching agree received
      have nextAgree :
          store.log.take (start + 1) = leaderLog.take (start + 1) := by
        rw [log]
        exact take_merged _ _ _
      have nextWithin : start + 1 ≤ store.log.length := by
        have lengths := congrArg List.length nextAgree
        rw [List.length_take, List.length_take] at lengths
        omega
      have counts :
          start + 1 + remaining = start + (remaining + 1) := by
        omega
      obtain ⟨final, rest, sameRest, logRest, onLogRest, mergesRest⟩ :=
        inductionHypothesis { replica with store := store }
          (by simpa only [log] using ownLog.merged theirLog (start + 1))
          (by simpa only [log] using logMatching_merged matching)
          nextAgree nextWithin (by omega) (by omega)
      rw [counts] at logRest mergesRest
      refine ⟨final, journal ++ rest, same.trans sameRest, ?_, ?_, ?_⟩
      · rw [logRest]
        change merged store.log _ _ = _
        rw [log, merged_merged (by omega)]
      · intro statement member
        rcases List.mem_append.mp member with earlier | later
        · exact onLog statement earlier
        · exact onLogRest statement later
      · rw [shape, merges, mergesRest]
        rfl

end Reconcile

/-! ## Committing after the merge -/

/-- The entries that become committed when the commit index moves to
`newCommit`.  From a negative index the loop stops before the first entry. -/
def newlyCommitted (replica : RaftReplica) (newCommit : Int) :
    List LogEntry :=
  if replica.commitIndex < 0 then
    []
  else
    (replica.store.log.take newCommit.toNat).drop replica.commitIndex.toNat

/-- The replica after the commit part of `append_entries`. -/
def afterAdvance (replica : RaftReplica) (leaderCommit : Int) :
    RaftReplica :=
  { replica.afterApplying
      (replica.newlyCommitted
        (min leaderCommit replica.store.log.length)) with
    commitIndex :=
      max replica.commitIndex (min leaderCommit replica.store.log.length) }

/-- The apply loop up to `newCommit` applies the newly committed entries. -/
theorem applyUntilMissing_newlyCommitted
    {replica : RaftReplica} {newCommit : Int}
    (ownLog : SqliteStore.KnownLog replica.store.log)
    (caughtUp : replica.lastApplied = replica.commitIndex)
    (short : newCommit ≤ replica.store.log.length) :
    applyUntilMissing (replica.lastApplied + 1)
        (newCommit - replica.lastApplied).toNat replica =
      ⟨.ok (),
        replica.afterApplying (replica.newlyCommitted newCommit),
        (replica.newlyCommitted newCommit).map LogEntry.statement⟩ := by
  unfold newlyCommitted
  by_cases negative : replica.commitIndex < 0
  · rw [if_pos negative]
    have absent :
        replica.store.logAt (replica.lastApplied + 1) = none :=
      SqliteStore.logAt_eq_none ownLog.contiguous (Or.inl (by omega))
    cases (newCommit - replica.lastApplied).toNat with
    | zero =>
        simp [applyUntilMissing, afterApplying]
    | succ further =>
        simp [applyUntilMissing, afterApplying, absent]
  · rw [if_neg negative]
    by_cases level : newCommit ≤ replica.commitIndex
    · have none :
          (replica.store.log.take newCommit.toNat).drop
              replica.commitIndex.toNat = [] := by
        rw [List.drop_eq_nil_iff, List.length_take]
        omega
      have noSteps : (newCommit - replica.lastApplied).toNat = 0 := by
        omega
      rw [none, noSteps]
      simp [applyUntilMissing, afterApplying]
    · generalize positionEq : replica.commitIndex.toNat = position
      have applied : replica.lastApplied = position := by omega
      have distance :
          (newCommit - replica.lastApplied).toNat =
            newCommit.toNat - position := by
        omega
      rw [distance, applied,
        applyUntilMissing_apply replica position _ ownLog.contiguous
          ownLog.known applied
          (by omega), List.drop_take]

theorem advanceCommit_apply
    (replica : RaftReplica) (leaderCommit : Int)
    (ownLog : SqliteStore.KnownLog replica.store.log)
    (caughtUp : replica.lastApplied = replica.commitIndex) :
    advanceCommit leaderCommit replica =
      ⟨.ok (), replica.afterAdvance leaderCommit,
        (replica.newlyCommitted
          (min leaderCommit replica.store.log.length)).map
            LogEntry.statement⟩ := by
  generalize newCommitEq :
    min leaderCommit (replica.store.log.length : Int) = newCommit
  have lastIndex := SqliteStore.lastLogIndex_eq ownLog.contiguous
  have applies :=
    applyUntilMissing_newlyCommitted ownLog caughtUp
      (show newCommit ≤ replica.store.log.length by omega)
  simp only [afterAdvance, newCommitEq]
  by_cases ahead : replica.commitIndex < newCommit
  · simp only [advanceCommit, Journaled.bind_apply, Journaled.read_apply,
      Outcome.andThen_ok, Journaled.ite_apply, lastIndex, newCommitEq,
      if_pos ahead, applies, Journaled.modify_apply, Outcome.prepend_mk,
      List.append_nil, List.nil_append]
    rfl
  · have none : replica.newlyCommitted newCommit = [] := by
      unfold newlyCommitted
      split
      · rfl
      · rw [List.drop_eq_nil_iff, List.length_take]
        omega
    have level : max replica.commitIndex newCommit = replica.commitIndex := by
      omega
    rw [advanceCommit_level (by rw [lastIndex]; omega), none, level]
    simp [afterApplying]

/-! ## The call -/

/-- A call of `append_entries` with a slice of the leader's log: the entries
after `start` up to `count`. -/
structure LeaderSlice (leader : RaftReplica) where
  term : Int
  leaderId : Bytes
  start : Nat
  count : Nat
  leaderCommit : Int
  ordered : start ≤ count
  inside : count ≤ leader.store.log.length

/-- `append_entries` with the slice. -/
def LeaderSlice.send
    {leader : RaftReplica} (slice : LeaderSlice leader) :
    ReplicaCall Bool :=
  appendEntries slice.term slice.leaderId slice.start
    (leader.termAt slice.start)
    (entriesBetween leader.store.log slice.start slice.count)
    slice.leaderCommit

/-- The follower has an entry at `start` with the leader's term, or the slice
starts the log. -/
def Connects (follower leader : RaftReplica) (start : Nat) : Prop :=
  0 < start →
    ∃ entry,
      follower.store.logAt start = some entry ∧
        entry.term = leader.termAt start

theorem connects_iff {follower leader : RaftReplica} {start : Nat} :
    follower.Connects leader start ↔
      ¬ (0 < (start : Int) ∧
        (follower.store.logAt start).map LogEntry.term ≠
          some (leader.termAt start)) := by
  unfold Connects
  rw [not_and, not_not, Int.natCast_pos, Option.map_eq_some_iff]

/-- The term a leader sends along is that of its entry before the slice. -/
theorem termAt_succ
    {leader : RaftReplica}
    (theirLog : SqliteStore.KnownLog leader.store.log)
    {position : Nat} {entry : LogEntry}
    (present : leader.store.log[position]? = some entry) :
    leader.termAt ((position + 1 : Nat) : Int) = entry.term := by
  unfold termAt
  rw [if_neg (by omega), Nat.cast_add, Nat.cast_one,
    SqliteStore.logAt_succ theirLog.contiguous, present]

section Call

variable {follower leader : RaftReplica} (slice : LeaderSlice leader)

/-- A log that connects to the slice has the leader's entries before it. -/
theorem Connects.agree
    {start : Nat} (connects : follower.Connects leader start)
    (ownLog : SqliteStore.KnownLog follower.store.log)
    (theirLog : SqliteStore.KnownLog leader.store.log)
    (matching :
      LogMatching LogEntry.term follower.store.log leader.store.log)
    (within : start ≤ leader.store.log.length) :
    follower.store.log.take start = leader.store.log.take start ∧
      start ≤ follower.store.log.length := by
  cases start with
  | zero =>
      exact ⟨rfl, Nat.zero_le _⟩
  | succ position =>
      obtain ⟨entry, found, sameTerm⟩ := connects (Nat.succ_pos position)
      rw [Nat.cast_add, Nat.cast_one,
        SqliteStore.logAt_succ ownLog.contiguous] at found
      have received := List.getElem?_eq_getElem (Nat.lt_of_succ_le within)
      rw [termAt_succ theirLog received] at sameTerm
      exact ⟨matching position _ _ found received sameTerm,
        (List.getElem?_eq_some_iff.mp found).1⟩

/-- A follower that has the leader's entries up to the end of the slice connects
to it. -/
theorem connects_of_agree
    (ownLog : SqliteStore.KnownLog follower.store.log)
    (theirLog : SqliteStore.KnownLog leader.store.log)
    (agree :
      follower.store.log.take slice.count =
        leader.store.log.take slice.count) :
    follower.Connects leader slice.start := by
  intro positive
  have ordered := slice.ordered
  have inside := slice.inside
  obtain ⟨position, start⟩ := Nat.exists_eq_add_of_lt positive
  rw [Nat.zero_add] at start
  rw [start]
  have received :=
    List.getElem?_eq_getElem
      (show position < leader.store.log.length by omega)
  refine ⟨_, ?_, (termAt_succ theirLog received).symm⟩
  rw [Nat.cast_add, Nat.cast_one,
    SqliteStore.logAt_succ ownLog.contiguous,
    getElem?_eq_of_take_eq agree (by omega), received]

/-- A call of an older term is refused and changes nothing. -/
theorem LeaderSlice.send_older (older : slice.term < follower.currentTerm) :
    slice.send follower = ⟨.ok false, follower, []⟩ := by
  simp [send, appendEntries, older]

/-- A slice that does not connect is refused; only the leader is recorded. -/
theorem LeaderSlice.send_apart
    (online : follower.online = true)
    (notOlder : follower.currentTerm ≤ slice.term)
    (apart : ¬ follower.Connects leader slice.start) :
    slice.send follower =
      ⟨.ok false, (follower.following slice.term slice.leaderId).persisted,
        persistRows slice.term slice.leaderId
          follower.commitIndex follower.lastApplied⟩ := by
  unfold send
  rw [appendEntries_following online notOlder,
    if_pos (not_not.mp (connects_iff.not.mp apart)), persistState_apply]
  rfl

/-- The follower when a slice is merged and nothing committed yet. -/
structure Received (follower received : RaftReplica) : Prop where
  log :
    received.store.log =
      merged follower.store.log leader.store.log slice.count
  store : SameButLog follower.store received.store
  members :
    received =
      { follower.following slice.term slice.leaderId with
        store := received.store }

/-- A slice that connects is merged, and the commit index moves. -/
theorem LeaderSlice.send_received
    (online : follower.online = true)
    (notOlder : follower.currentTerm ≤ slice.term)
    (caughtUp : follower.lastApplied = follower.commitIndex)
    (ownLog : SqliteStore.KnownLog follower.store.log)
    (theirLog : SqliteStore.KnownLog leader.store.log)
    (matching :
      LogMatching LogEntry.term follower.store.log leader.store.log)
    (connects : follower.Connects leader slice.start) :
    ∃ received journal,
      Received slice follower received ∧
        (∀ statement ∈ journal, ¬ statement.OnKv) ∧
        slice.send follower =
          ⟨.ok true, (received.afterAdvance slice.leaderCommit).persisted,
            journal ++
              ((received.newlyCommitted
                (min slice.leaderCommit received.store.log.length)).map
                  LogEntry.statement ++
                persistRows slice.term slice.leaderId
                  (received.afterAdvance slice.leaderCommit).commitIndex
                  (received.afterAdvance
                    slice.leaderCommit).lastApplied)⟩ := by
  obtain ⟨agree, within⟩ :=
    connects.agree ownLog theirLog matching
      (slice.ordered.trans slice.inside)
  obtain ⟨store, journal, same, log, onLog, merges⟩ :=
    reconcile_slice (follower.following slice.term slice.leaderId)
      ownLog theirLog matching agree within slice.ordered slice.inside
  have knownStore : SqliteStore.KnownLog store.log := by
    rw [log]
    exact ownLog.merged theirLog slice.count
  have advances :=
    advanceCommit_apply
      { follower.following slice.term slice.leaderId with store := store }
      slice.leaderCommit knownStore caughtUp
  refine ⟨{ follower.following slice.term slice.leaderId with
    store := store }, journal, ⟨log, same, rfl⟩, onLog, ?_⟩
  unfold send
  rw [appendEntries_following online notOlder,
    if_neg (connects_iff.mp connects), merges]
  simp only [Outcome.andThen_ok, Journaled.bind_apply]
  rw [advances]
  rfl

/-- What a replica has written down once it has committed. -/
theorem store_afterAdvance (received : RaftReplica) (leaderCommit : Int) :
    (received.afterAdvance leaderCommit).persisted.store =
      { kv :=
          replayOnto received.store.kv
            ((received.newlyCommitted
              (min leaderCommit received.store.log.length)).map
                LogEntry.assignment)
        raftLog := received.store.raftLog
        metaTable :=
          { currentTerm := some received.currentTerm
            votedFor := some (cString received.votedFor)
            commitIndex :=
              some (received.afterAdvance leaderCommit).commitIndex
            lastApplied :=
              some (received.afterAdvance leaderCommit).lastApplied } } := by
  change
    ((received.store.executeAll _).executeAll (persistRows _ _ _ _)) = _
  rw [SqliteStore.executeAll_statements, SqliteStore.executeAll_persistRows]
  rfl

theorem log_afterAdvance (received : RaftReplica) (leaderCommit : Int) :
    (received.afterAdvance leaderCommit).persisted.store.log =
      received.store.log := by
  rw [store_afterAdvance]
  rfl

/-- A slice changes nothing in a follower that has it, has committed as far as
it asks, and has all that written down. -/
theorem LeaderSlice.send_again
    (online : follower.online = true)
    (ownLog : SqliteStore.KnownLog follower.store.log)
    (theirLog : SqliteStore.KnownLog leader.store.log)
    (matching :
      LogMatching LogEntry.term follower.store.log leader.store.log)
    (agree :
      follower.store.log.take slice.count =
        leader.store.log.take slice.count)
    (level :
      min slice.leaderCommit follower.store.log.length ≤
        follower.commitIndex)
    (follows : follower.following slice.term slice.leaderId = follower)
    (written : follower.persisted = follower) :
    (slice.send follower).state = follower := by
  have inTerm : follower.currentTerm = slice.term :=
    (congrArg currentTerm follows).symm
  have connects := connects_of_agree slice ownLog theirLog agree
  obtain ⟨before, within⟩ :=
    connects.agree ownLog theirLog matching
      (slice.ordered.trans slice.inside)
  obtain ⟨store, journal, same, log, _, merges⟩ :=
    reconcile_slice follower ownLog theirLog matching before within
      slice.ordered slice.inside
  rw [merged_eq_own agree] at log
  obtain rfl : store = follower.store :=
    SqliteStore.ext_of_log same.kv log same.rows
  have notAhead :
      min slice.leaderCommit follower.store.lastLogIndex ≤
        follower.commitIndex := by
    rwa [SqliteStore.lastLogIndex_eq ownLog.contiguous]
  unfold send
  rw [appendEntries_following online inTerm.le,
    if_neg (connects_iff.mp connects), follows, merges]
  simp only [Outcome.andThen_ok, Journaled.bind_apply]
  rw [advanceCommit_level notAhead]
  exact written

/-- The same slice once more changes nothing. -/
theorem LeaderSlice.send_send
    (online : follower.online = true)
    (caughtUp : follower.lastApplied = follower.commitIndex)
    (ownLog : SqliteStore.KnownLog follower.store.log)
    (theirLog : SqliteStore.KnownLog leader.store.log)
    (matching :
      LogMatching LogEntry.term follower.store.log leader.store.log) :
    (slice.send (slice.send follower).state).state =
      (slice.send follower).state := by
  by_cases older : slice.term < follower.currentTerm
  · rw [slice.send_older older]
    exact congrArg Outcome.state (slice.send_older older)
  have notOlder := not_lt.mp older
  by_cases connects : follower.Connects leader slice.start
  · obtain ⟨received, _, merges, _, sends⟩ :=
      slice.send_received online notOlder caughtUp ownLog theirLog matching
        connects
    rw [sends]
    have log :
        (received.afterAdvance slice.leaderCommit).persisted.store.log =
          merged follower.store.log leader.store.log slice.count := by
      rw [log_afterAdvance, merges.log]
    refine slice.send_again ?_ ?_ theirLog ?_ ?_ ?_ ?_ ?_
    · change received.online = true
      rw [merges.members]
      exact online
    · rw [log]
      exact ownLog.merged theirLog slice.count
    · rw [log]
      exact logMatching_merged matching
    · rw [log]
      exact take_merged _ _ _
    · rw [log_afterAdvance]
      exact le_max_right _ _
    · rw [merges.members]
      rfl
    · exact persisted_of_rows (by
        rw [store_afterAdvance]
        rfl)
  · have sends := slice.send_apart online notOlder connects
    rw [sends]
    have again :
        slice.send
            (follower.following slice.term slice.leaderId).persisted = _ :=
      slice.send_apart online le_rfl connects
    rw [again]
    exact persisted_of_rows rfl

/-- `append_entries` refuses an older term and a slice that does not connect, and
otherwise makes the log agree with the leader's up to the end of the slice,
dropping nothing without a conflict.  The same call once more changes
nothing. -/
theorem LeaderSlice.send_reconciles
    (follower : RaftReplica) (online : follower.online = true)
    (caughtUp : follower.lastApplied = follower.commitIndex)
    (ownLog : SqliteStore.KnownLog follower.store.log)
    (theirLog : SqliteStore.KnownLog leader.store.log)
    (matching :
      LogMatching LogEntry.term follower.store.log leader.store.log) :
    ((slice.term < follower.currentTerm ∨
        ¬ follower.Connects leader slice.start) →
      (slice.send follower).result = .ok false ∧
        (slice.send follower).state.store.log = follower.store.log ∧
        (slice.send follower).state.store.kv = follower.store.kv ∧
        (slice.send follower).state.commitIndex = follower.commitIndex ∧
        (slice.send follower).state.lastApplied = follower.lastApplied) ∧
    (¬ (slice.term < follower.currentTerm ∨
        ¬ follower.Connects leader slice.start) →
      (slice.send follower).result = .ok true ∧
        OrderedTable.Contiguous LogEntry.index
          (slice.send follower).state.store.log ∧
        (slice.send follower).state.store.log.take slice.count =
          leader.store.log.take slice.count ∧
        LogMatching LogEntry.term
          (slice.send follower).state.store.log leader.store.log ∧
        ((∀ position, slice.start ≤ position → position < slice.count →
            follower.store.log[position]? = leader.store.log[position]?) →
          (slice.send follower).state.store.log = follower.store.log) ∧
        (¬ Conflicts LogEntry.term follower.store.log leader.store.log
            slice.start slice.count →
          follower.store.log <+:
            (slice.send follower).state.store.log)) ∧
    (slice.send (slice.send follower).state).state =
      (slice.send follower).state := by
  refine ⟨?_, ?_,
    slice.send_send online caughtUp ownLog theirLog matching⟩
  · intro refused
    by_cases older : slice.term < follower.currentTerm
    · rw [slice.send_older older]
      exact ⟨rfl, rfl, rfl, rfl, rfl⟩
    · rw [slice.send_apart online (not_lt.mp older)
        (refused.resolve_left older)]
      exact ⟨rfl, rfl, rfl, rfl, rfl⟩
  · intro accepted
    obtain ⟨notOlder, notApart⟩ := not_or.mp accepted
    have connects := not_not.mp notApart
    obtain ⟨agree, _⟩ :=
      connects.agree ownLog theirLog matching
        (slice.ordered.trans slice.inside)
    obtain ⟨received, _, merges, _, sends⟩ :=
      slice.send_received online (not_lt.mp notOlder) caughtUp ownLog
        theirLog matching connects
    rw [sends]
    simp only [log_afterAdvance, merges.log]
    refine ⟨trivial, (ownLog.merged theirLog slice.count).contiguous,
      take_merged _ _ _, logMatching_merged matching, ?_, ?_⟩
    · intro contained
      refine merged_eq_own (take_eq_of_getElem? fun position below => ?_)
      by_cases early : position < slice.start
      · exact getElem?_eq_of_take_eq agree early
      · exact contained position (not_lt.mp early) below
    · intro noConflict
      exact prefix_merged matching agree slice.inside noConflict

/-- What is committed and applied by a successful call is the leader's: every
position below the commit index, and every statement on the `kv` table. -/
def LeaderSlice.CommitsLeadersEntries (follower : RaftReplica) : Prop :=
  (slice.send follower).result = .ok true →
    (∀ position : Nat,
      (position : Int) < (slice.send follower).state.commitIndex →
        ∃ entry,
          (slice.send follower).state.store.log[position]? = some entry ∧
            leader.store.log[position]? = some entry) ∧
    (∀ statement ∈ (slice.send follower).journal, statement.OnKv →
      ∃ entry ∈ leader.store.log,
        entry.index ≤ (slice.send follower).state.commitIndex ∧
          statement = entry.statement)

/-- It is enough that the log agrees with the leader's up to the new commit
index. -/
theorem LeaderSlice.commitsLeadersEntries_of_agree
    {received : RaftReplica} {journal : List Statement} {term : Int}
    {leaderId : Bytes} {commitIndex lastApplied : Int}
    (theirLog : SqliteStore.KnownLog leader.store.log)
    (onLog : ∀ statement ∈ journal, ¬ statement.OnKv)
    (sends :
      slice.send follower =
        ⟨.ok true, (received.afterAdvance slice.leaderCommit).persisted,
          journal ++
            ((received.newlyCommitted
              (min slice.leaderCommit received.store.log.length)).map
                LogEntry.statement ++
              persistRows term leaderId commitIndex lastApplied)⟩)
    {newCommit : Int}
    (newCommitEq :
      max received.commitIndex
        (min slice.leaderCommit received.store.log.length) = newCommit)
    (within : newCommit ≤ received.store.log.length)
    (agree :
      received.store.log.take newCommit.toNat =
        leader.store.log.take newCommit.toNat) :
    slice.CommitsLeadersEntries follower := by
  intro _
  have committed :
      (slice.send follower).state.commitIndex = newCommit := by
    rw [sends]
    exact newCommitEq
  have log :
      (slice.send follower).state.store.log = received.store.log := by
    rw [sends]
    exact log_afterAdvance _ _
  have same (position : Nat) (below : (position : Int) < newCommit) :
      ∃ entry,
        received.store.log[position]? = some entry ∧
          leader.store.log[position]? = some entry := by
    have present :=
      List.getElem?_eq_getElem
        (show position < received.store.log.length by omega)
    have rows := getElem?_eq_of_take_eq agree
      (show position < newCommit.toNat by omega)
    exact ⟨_, present, by rw [← rows, present]⟩
  rw [committed, log]
  refine ⟨same, ?_⟩
  intro statement member onKv
  rw [sends] at member
  rcases List.mem_append.mp member with early | later
  · exact absurd onKv (onLog statement early)
  rcases List.mem_append.mp later with applied | rows
  · obtain ⟨entry, inside, rfl⟩ := List.mem_map.mp applied
    unfold newlyCommitted at inside
    split at inside
    · exact absurd inside List.not_mem_nil
    · obtain ⟨position, bound, atPosition⟩ :=
        List.mem_iff_getElem.mp (List.mem_of_mem_drop inside)
      rw [List.length_take] at bound
      rw [List.getElem_take] at atPosition
      obtain ⟨found, present, theirs⟩ :=
        same position (by omega)
      have isEntry : found = entry := by
        rw [← atPosition]
        exact (List.getElem?_eq_some_iff.mp present).2.symm
      rw [isEntry] at theirs
      have index := theirLog.contiguous position entry theirs
      exact ⟨entry, List.mem_of_getElem? theirs, by omega, rfl⟩
  · simp only [persistRows, List.mem_cons, List.not_mem_nil,
      or_false] at rows
    rcases rows with rfl | rfl | rfl | rfl
    all_goals
      exact onKv.elim

/-- `append_entries` commits the leader's entries exactly when the call is
refused, or the slice changes the log, or the follower's own entries up to
`min(leader_commit, last_log_index)` are the leader's. -/
theorem LeaderSlice.commitsLeadersEntries_iff
    (follower : RaftReplica)
    (notOlder : follower.currentTerm ≤ slice.term)
    (caughtUp : follower.lastApplied = follower.commitIndex)
    (within : follower.commitIndex ≤ follower.store.log.length)
    (ownLog : SqliteStore.KnownLog follower.store.log)
    (theirLog : SqliteStore.KnownLog leader.store.log)
    (matching :
      LogMatching LogEntry.term follower.store.log leader.store.log)
    (committed :
      follower.store.log.take follower.commitIndex.toNat <+:
        leader.store.log) :
    slice.CommitsLeadersEntries follower ↔
      (follower.online = false ∨
        ¬ follower.Connects leader slice.start) ∨
      follower.store.log.take slice.count ≠
        leader.store.log.take slice.count ∨
      follower.store.log.take
          (min slice.leaderCommit follower.store.log.length).toNat =
        leader.store.log.take
          (min slice.leaderCommit follower.store.log.length).toNat := by
  have committedAgree :
      follower.store.log.take follower.commitIndex.toNat =
        leader.store.log.take follower.commitIndex.toNat := by
    have initial := List.prefix_iff_eq_take.mp committed
    rwa [List.length_take, Nat.min_eq_left (by omega)] at initial
  by_cases refused :
      follower.online = false ∨ ¬ follower.Connects leader slice.start
  · refine iff_of_true (fun accepted => ?_) (Or.inl refused)
    rcases Bool.eq_false_or_eq_true follower.online with online | offline
    · have apart := refused.resolve_left (by rw [online]; decide)
      rw [slice.send_apart online notOlder apart] at accepted
      cases accepted
    · simp [send, appendEntries, offline] at accepted
  obtain ⟨notOffline, notApart⟩ := not_or.mp refused
  obtain ⟨received, journal, merges, onLog, sends⟩ :=
    slice.send_received (by simpa using notOffline) notOlder caughtUp
      ownLog theirLog matching (not_not.mp notApart)
  have oldCommit : received.commitIndex = follower.commitIndex := by
    rw [merges.members]
    rfl
  have inside := slice.inside
  by_cases contained :
      follower.store.log.take slice.count =
        leader.store.log.take slice.count
  · -- The log stays as it was, and only the committed part of it counts.
    have log : received.store.log = follower.store.log := by
      rw [merges.log, merged_eq_own contained]
    constructor
    · intro commits
      obtain ⟨same, _⟩ := commits (by rw [sends])
      rw [sends] at same
      simp only [log_afterAdvance, log] at same
      refine Or.inr (Or.inr (take_eq_of_getElem? fun position below => ?_))
      obtain ⟨entry, own, theirs⟩ := same position (by
        change (position : Int) < max received.commitIndex _
        rw [log]
        omega)
      rw [own, theirs]
    · rintro (isRefused | differ | agree)
      · exact absurd isRefused refused
      · exact absurd contained differ
      · refine slice.commitsLeadersEntries_of_agree theirLog onLog sends rfl
          ?_ ?_
        · rw [log, oldCommit]
          omega
        · rw [log, oldCommit]
          by_cases level :
              min slice.leaderCommit (follower.store.log.length : Int) ≤
                follower.commitIndex
          · rw [max_eq_left level]
            exact committedAgree
          · rw [max_eq_right (le_of_not_ge level)]
            exact agree
  · refine iff_of_true ?_ (Or.inr (Or.inl contained))
    have log : received.store.log = leader.store.log.take slice.count := by
      rw [merges.log, merged_eq_take contained]
    have length : received.store.log.length = slice.count := by
      rw [log, List.length_take]
      omega
    have short : follower.commitIndex.toNat < slice.count := by
      by_contra long
      exact contained (take_eq_of_le committedAgree (not_lt.mp long))
    refine slice.commitsLeadersEntries_of_agree theirLog onLog sends rfl
      ?_ ?_
    · rw [oldCommit, length]
      omega
    · rw [oldCommit, length, log, List.take_take]
      congr 1
      omega

end Call

/-! ## A follower with an entry of its own -/

/-- A replica whose log has one entry. -/
def withEntry (id : Bytes) (term : Int) (key : Bytes) : RaftReplica :=
  { opened id
      (SqliteStore.empty.executeAll
        [.appendLog
          { index := 1, term := term, command := putCommand, key := key }])
    with currentTerm := term }

theorem knownLog_withEntry (id : Bytes) (term : Int) (key : Bytes) :
    SqliteStore.KnownLog (withEntry id term key).store.log where
  contiguous := OrderedTable.contiguous_nil.append_one rfl
  known := by
    intro entry member
    rw [List.mem_singleton.mp member]
    exact LogEntry.stored_known (Or.inl rfl)
  rows := by
    intro entry member
    rw [List.mem_singleton.mp member]
    exact LogEntry.stored_stored _

/-- Entries of different terms at the same index match nothing. -/
theorem logMatching_withEntry
    (own theirs ownKey theirKey : Bytes) {ownTerm theirTerm : Int}
    (differ : ownTerm ≠ theirTerm) :
    LogMatching LogEntry.term (withEntry own ownTerm ownKey).store.log
      (withEntry theirs theirTerm theirKey).store.log := by
  intro position row received present arrived sameTerm
  cases position with
  | zero =>
      obtain rfl : _ = row := Option.some.inj present
      obtain rfl : _ = received := Option.some.inj arrived
      exact absurd sameTerm differ
  | succ later =>
      cases present

/-- A heartbeat of the leader before any entry of its log. -/
def heartbeat (leader : RaftReplica) (leaderCommit : Int) :
    LeaderSlice leader where
  term := leader.currentTerm
  leaderId := leader.id
  start := 0
  count := 0
  leaderCommit := leaderCommit
  ordered := le_rfl
  inside := Nat.zero_le _

/-- A heartbeat makes a follower commit an entry that the leader does not
have. -/
theorem heartbeat_commits_other_entry :
    ∃ (follower leader : RaftReplica) (slice : LeaderSlice leader),
      follower.online = true ∧
        follower.currentTerm ≤ slice.term ∧
        follower.lastApplied = follower.commitIndex ∧
        follower.commitIndex ≤ follower.store.log.length ∧
        SqliteStore.KnownLog follower.store.log ∧
        SqliteStore.KnownLog leader.store.log ∧
        LogMatching LogEntry.term follower.store.log leader.store.log ∧
        follower.store.log.take follower.commitIndex.toNat <+:
          leader.store.log ∧
        slice.leaderCommit ≤ leader.store.log.length ∧
        ¬ slice.CommitsLeadersEntries follower := by
  let follower := withEntry (bytes "f") 1 (bytes "a")
  let leader := withEntry (bytes "l") 2 (bytes "b")
  refine ⟨follower, leader, heartbeat leader 1, rfl, by decide, rfl,
    by decide, knownLog_withEntry _ _ _, knownLog_withEntry _ _ _,
    logMatching_withEntry _ _ _ _ (by decide), List.nil_prefix,
    by decide, ?_⟩
  intro commits
  obtain ⟨entry, own, theirs⟩ :=
    (commits (by decide +kernel)).1 0 (by decide +kernel)
  have differ :
      ((heartbeat leader 1).send follower).state.store.log[0]? ≠
        leader.store.log[0]? := by
    decide +kernel
  exact differ (own.trans theirs.symm)

/-- The slice of a leader with one entry that commits it. -/
def firstSlice : LeaderSlice (withEntry (bytes "l") 2 (bytes "b")) where
  term := 2
  leaderId := bytes "l"
  start := 0
  count := 1
  leaderCommit := 1
  ordered := Nat.zero_le 1
  inside := by decide

/-- A follower with an entry of its own that the leader does not have receives the
leader's first entry and commits it. -/
theorem firstSlice_commits :
    firstSlice.CommitsLeadersEntries
      (withEntry (bytes "f") 1 (bytes "a")) := by
  rw [firstSlice.commitsLeadersEntries_iff
    (withEntry (bytes "f") 1 (bytes "a")) (by decide) rfl (by decide)
    (knownLog_withEntry _ _ _) (knownLog_withEntry _ _ _)
    (logMatching_withEntry _ _ _ _ (by decide)) List.nil_prefix]
  have conflicts :
      ¬ (withEntry (bytes "f") 1 (bytes "a")).store.log.take 1 =
        (withEntry (bytes "l") 2 (bytes "b")).store.log.take 1 := by
    decide
  exact Or.inr (Or.inl conflicts)

/-- A follower with a conflicting entry takes the leader's in its place. -/
theorem firstSlice_replaces :
    (firstSlice.send
        (withEntry (bytes "f") 1 (bytes "a"))).state.store.log.take 1 =
      (withEntry (bytes "l") 2 (bytes "b")).store.log.take 1 := by
  have reconciles :=
    firstSlice.send_reconciles (withEntry (bytes "f") 1 (bytes "a")) rfl rfl
      (knownLog_withEntry _ _ _) (knownLog_withEntry _ _ _)
      (logMatching_withEntry _ _ _ _ (by decide))
  refine (reconciles.2.1 ?_).2.2.1
  rintro (older | apart)
  · exact absurd older (by decide)
  · exact apart fun positive => absurd positive (lt_irrefl 0)

end RaftReplica

end ShardedKvStore

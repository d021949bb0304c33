import ShardedKvStore.Raft.Reconcile
import ShardedKvStore.Raft.Votes

/-!
# Restarts between calls

A replica is settled when its database has all its members and there is nothing
to redo: the next restart finds it as it was.  Every public call leaves a settled
replica settled, also the calls of a leader that the rest of the shard never
heard of.  A conflicting `append_entries` may even cut the log below the commit
index; the indexes stay in step all the same.
-/

namespace ShardedKvStore

open Foundation

/-- The entries have the indexes after `start`. -/
def ConsecutiveFrom (start : Nat) (entries : List LogEntry) : Prop :=
  ∀ (position : Nat) (entry : LogEntry),
    entries[position]? = some entry → entry.index = start + position + 1

theorem consecutiveFrom_nil (start : Nat) : ConsecutiveFrom start [] := by
  intro position entry present
  cases present

theorem consecutiveFrom_cons
    {start : Nat} {entry : LogEntry} {rest : List LogEntry} :
    ConsecutiveFrom start (entry :: rest) ↔
      entry.index = start + 1 ∧ ConsecutiveFrom (start + 1) rest := by
  constructor
  · intro consecutive
    refine ⟨by simpa using consecutive 0 entry rfl, ?_⟩
    intro position later present
    have index := consecutive (position + 1) later present
    omega
  · rintro ⟨index, consecutive⟩ position tested present
    cases position with
    | zero =>
        obtain rfl : entry = tested := Option.some.inj present
        simpa using index
    | succ position =>
        have later := consecutive position tested present
        omega

namespace SqliteStore

/-- Receiving an entry of a known command keeps the log one of such entries. -/
theorem KnownLog.mergeRow
    {entries : List LogEntry} {entry : LogEntry} {start : Nat}
    (knownLog : KnownLog entries) (known : entry.Known)
    (index : entry.index = start + 1) (within : start ≤ entries.length) :
    KnownLog (mergeRow LogEntry.term entries start entry.stored) ∧
      start + 1 ≤
        (mergeRow LogEntry.term entries start entry.stored).length := by
  unfold Foundation.mergeRow
  split
  case isTrue sameTerm =>
    refine ⟨knownLog, ?_⟩
    obtain ⟨existing, present, _⟩ := Option.map_eq_some_iff.mp sameTerm
    exact (List.getElem?_eq_some_iff.mp present).1
  case isFalse =>
    have length : (entries.take start).length = start := by
      rw [List.length_take]
      omega
    have initial := knownLog.of_prefix (List.take_prefix start entries)
    refine ⟨⟨?_, ?_, ?_⟩, ?_⟩
    · exact initial.contiguous.append_one (by rw [length]; exact index)
    · exact List.forall_mem_append.mpr
        ⟨initial.known,
          List.forall_mem_singleton.mpr (LogEntry.stored_known known)⟩
    · exact List.forall_mem_append.mpr
        ⟨initial.rows,
          List.forall_mem_singleton.mpr (LogEntry.stored_stored entry)⟩
    · rw [List.length_append, length, List.length_singleton]

end SqliteStore

namespace RaftReplica

/-- The members are ready to be written down. -/
structure Ready (replica : RaftReplica) : Prop where
  knownLog : SqliteStore.KnownLog replica.store.log
  commitNonneg : 0 ≤ replica.commitIndex
  caughtUp : replica.lastApplied = replica.commitIndex
  nulFree : NulFree replica.votedFor

/-- The database has all members of the replica, and there is nothing to
redo. -/
structure Settled (replica : RaftReplica) : Prop where
  ready : replica.Ready
  inStep : replica.InStep
  vote : replica.votedFor = replica.store.votedFor

/-- `persist_state` settles the replica. -/
theorem Ready.persisted
    {replica : RaftReplica} (ready : replica.Ready) :
    replica.persisted.Settled where
  ready := ⟨ready.knownLog, ready.commitNonneg, ready.caughtUp, ready.nulFree⟩
  inStep := ⟨rfl, rfl, rfl, ready.caughtUp⟩
  vote := by
    rw [votedFor_persisted]
    exact (cString_of_nulFree ready.nulFree).symm

/-- A restart of a settled replica resets the role and the online flag and
nothing else. -/
theorem Settled.loadState
    {replica : RaftReplica} (settled : replica.Settled) :
    RaftReplica.loadState (opened replica.id replica.store) =
      ⟨.ok (), { replica with role := .follower, online := true }, []⟩ := by
  obtain ⟨ready, inStep, vote⟩ := settled
  have nothing :
      ¬ replica.store.lastApplied < replica.store.commitIndex := by
    rw [← inStep.applied, ← inStep.commit, ready.caughtUp]
    exact lt_irrefl _
  rw [loadState_opened, if_neg nothing]
  unfold readBack
  rw [← inStep.term, ← vote, ← inStep.commit, ← inStep.applied]
  rfl

/-! ## The calls -/

/-- A change of the log alone leaves a settled replica settled. -/
theorem Settled.withStore
    {replica : RaftReplica} {store : SqliteStore}
    (settled : replica.Settled) (same : SameButLog replica.store store)
    (knownLog : SqliteStore.KnownLog store.log) :
    Settled { replica with store := store } := by
  obtain ⟨ready, inStep, vote⟩ := settled
  refine ⟨⟨knownLog, ready.commitNonneg, ready.caughtUp, ready.nulFree⟩,
    ⟨?_, ?_, ?_, ready.caughtUp⟩, ?_⟩
  · rw [inStep.term]
    unfold SqliteStore.currentTerm
    rw [same.rows]
  · rw [inStep.commit]
    unfold SqliteStore.commitIndex
    rw [same.rows]
  · rw [inStep.applied]
    unfold SqliteStore.lastApplied
    rw [same.rows]
  · rw [vote]
    unfold SqliteStore.votedFor
    rw [same.rows]

/-- Role and online flag are not written down. -/
theorem Settled.withRole
    {replica : RaftReplica} (settled : replica.Settled) (role : Role)
    (online : Bool) :
    Settled { replica with role := role, online := online } :=
  ⟨⟨settled.ready.knownLog, settled.ready.commitNonneg,
      settled.ready.caughtUp, settled.ready.nulFree⟩,
    ⟨settled.inStep.term, settled.inStep.commit,
      settled.inStep.applied, settled.inStep.caughtUp⟩,
    settled.vote⟩

theorem settled_opened_empty (id : Bytes) :
    (opened id SqliteStore.empty).Settled :=
  ⟨⟨SqliteStore.knownLog_nil, le_rfl, rfl, List.not_mem_nil⟩,
    ⟨rfl, rfl, rfl, rfl⟩, rfl⟩

theorem settles_persistState {failed : RaftReplica → Prop} :
    Triple Ready persistState (fun _ => Settled) failed :=
  fun _ ready => ready.persisted

theorem settles_requestVote
    (term : Int) {candidateId : Bytes} (nulFree : NulFree candidateId)
    (lastIndex lastTerm : Int) :
    Triple Settled (requestVote term candidateId lastIndex lastTerm)
      (fun _ => Settled) Settled := by
  refine triple_requestVote_of Ready (fun _ settled => settled) ?_
    (fun _ settled _ => settled.ready) ?_ settles_persistState
  · intro replica settled _
    exact ⟨settled.ready.knownLog, settled.ready.commitNonneg,
      settled.ready.caughtUp, List.not_mem_nil⟩
  · intro replica ready _
    refine settles_persistState.strengthen ?_
    rintro _ rfl
    exact ⟨ready.knownLog, ready.commitNonneg, ready.caughtUp, nulFree⟩

/-- Receiving a batch after `start` keeps the members ready. -/
theorem Ready.reconcile
    {replica : RaftReplica} {start : Nat} {entries : List LogEntry}
    (ready : replica.Ready) (within : start ≤ replica.store.log.length)
    (consecutive : ConsecutiveFrom start entries)
    (known : ∀ entry ∈ entries, entry.Known) :
    ∃ store journal,
      RaftReplica.reconcile entries replica =
          ⟨.ok (), { replica with store := store }, journal⟩ ∧
        Ready { replica with store := store } := by
  induction entries generalizing replica start with
  | nil =>
      exact ⟨replica.store, [], rfl, ready⟩
  | cons entry rest inductionHypothesis =>
      obtain ⟨index, later⟩ := consecutiveFrom_cons.mp consecutive
      obtain ⟨store, journal, _, log, _, merges⟩ :=
        reconcile_cons rest ready.knownLog.contiguous index within
      obtain ⟨knownLog, length⟩ :=
        ready.knownLog.mergeRow (known entry List.mem_cons_self) index
          within
      rw [← log] at knownLog length
      have stored : Ready { replica with store := store } :=
        ⟨knownLog, ready.commitNonneg, ready.caughtUp, ready.nulFree⟩
      obtain ⟨final, restJournal, receives, finalReady⟩ :=
        inductionHypothesis stored length later fun tested member =>
          known tested (List.mem_cons_of_mem entry member)
      refine ⟨final, journal ++ restJournal, ?_, finalReady⟩
      rw [merges, receives]
      rfl

/-- Committing keeps the members ready. -/
theorem Ready.afterAdvance
    {replica : RaftReplica} (ready : replica.Ready) (leaderCommit : Int) :
    (replica.afterAdvance leaderCommit).Ready where
  knownLog := by
    change SqliteStore.KnownLog
      (replica.store.executeAll (List.map _ _)).log
    rw [SqliteStore.executeAll_statements]
    exact ready.knownLog
  commitNonneg := le_max_of_le_left ready.commitNonneg
  caughtUp := by
    have commitNonneg := ready.commitNonneg
    have caughtUp := ready.caughtUp
    change replica.lastApplied + (newlyCommitted _ _).length =
      max replica.commitIndex _
    unfold newlyCommitted
    rw [if_neg (not_lt.mpr commitNonneg), List.length_drop,
      List.length_take]
    omega
  nulFree := ready.nulFree

theorem settles_appendEntries
    (term : Int) {leaderId : Bytes} (nulFree : NulFree leaderId)
    (start : Nat) (prevLogTerm : Int) {entries : List LogEntry}
    (consecutive : ConsecutiveFrom start entries)
    (known : ∀ entry ∈ entries, entry.Known) (leaderCommit : Int) :
    Triple Settled
      (appendEntries term leaderId start prevLogTerm entries leaderCommit)
      (fun _ => Settled) Settled := by
  intro replica settled
  by_cases refused : replica.online = false ∨ term < replica.currentTerm
  · have refuses :
        appendEntries term leaderId start prevLogTerm entries leaderCommit
            replica = ⟨.ok false, replica, []⟩ := by
      simp [appendEntries, refused]
    rw [refuses]
    exact settled
  obtain ⟨notOffline, notOlder⟩ := not_or.mp refused
  have ready := settled.ready
  have following : (replica.following term leaderId).Ready :=
    ⟨ready.knownLog, ready.commitNonneg, ready.caughtUp, nulFree⟩
  rw [appendEntries_following (by simpa using notOffline)
    (not_lt.mp notOlder)]
  split_ifs with apart
  · exact following.persisted
  · have within : start ≤ replica.store.log.length := by
      by_contra beyond
      refine apart ⟨by omega, ?_⟩
      rw [SqliteStore.logAt_eq_none ready.knownLog.contiguous
        (Or.inr (by omega))]
      simp
    obtain ⟨store, journal, receives, received⟩ :=
      following.reconcile within consecutive known
    rw [receives]
    simp only [Outcome.andThen_ok, Journaled.bind_apply]
    rw [advanceCommit_apply _ leaderCommit received.knownLog
      received.caughtUp]
    exact (received.afterAdvance leaderCommit).persisted

/-- `commit_to` commits as far as the log goes. -/
theorem commitTo_advances
    {replica : RaftReplica} (index : Int)
    (online : replica.online = true) (ready : replica.Ready) :
    (commitTo index replica).state =
      (replica.afterAdvance index).persisted := by
  have isOnline : ¬ replica.online = false := by
    rw [online]
    decide
  have applies :=
    applyUntilMissing_newlyCommitted ready.knownLog ready.caughtUp
      (min_le_right index (replica.store.log.length : Int))
  simp only [commitTo, Journaled.bind_apply, Journaled.read_apply,
    Journaled.ite_apply, if_neg isOnline, Outcome.andThen_ok,
    SqliteStore.lastLogIndex_eq ready.knownLog.contiguous, applies]
  rfl

theorem Settled.commitTo
    {replica : RaftReplica} (settled : replica.Settled) (index : Int) :
    (RaftReplica.commitTo index replica).state.Settled := by
  rcases Bool.eq_false_or_eq_true replica.online with online | offline
  · rw [commitTo_advances index online settled.ready]
    exact (settled.ready.afterAdvance index).persisted
  · have returns :
        RaftReplica.commitTo index replica = ⟨.ok (), replica, []⟩ := by
      simp [RaftReplica.commitTo, offline]
    rw [returns]
    exact settled

theorem Settled.discardUncommitted
    {replica : RaftReplica} (settled : replica.Settled) :
    (RaftReplica.discardUncommitted replica).state.Settled := by
  have knownLog := settled.ready.knownLog
  obtain ⟨committed, commit⟩ :=
    Int.eq_ofNat_of_zero_le settled.ready.commitNonneg
  refine settled.withStore ⟨rfl, rfl⟩ ?_
  rw [commit]
  have cut :=
    SqliteStore.log_truncateLogFrom knownLog.contiguous committed
  exact cut ▸ knownLog.of_prefix (List.take_prefix committed _)

theorem Settled.appendLocal
    {replica : RaftReplica} (settled : replica.Settled)
    {command : Bytes}
    (known : command = putCommand ∨ command = deleteCommand)
    (key value : Bytes) :
    (RaftReplica.appendLocal command key value replica).state.Settled := by
  by_cases refused : replica.online = false ∨ replica.role ≠ .leader
  · have fails :
        RaftReplica.appendLocal command key value replica =
          ⟨.error .appendLocalRequiresLeader, replica, []⟩ := by
      simp [RaftReplica.appendLocal, refused]
    rw [fails]
    exact settled
  obtain ⟨notOffline, notFollower⟩ := not_or.mp refused
  have knownLog := settled.ready.knownLog
  have lastIndex := SqliteStore.lastLogIndex_eq knownLog.contiguous
  rw [appendLocal_apply command key value (by simpa using notOffline)
    (not_not.mp notFollower)]
  refine settled.withStore ⟨rfl, rfl⟩ ?_
  rw [SqliteStore.log_appendLog knownLog.contiguous
    (congrArg (· + 1) lastIndex)]
  refine ⟨knownLog.contiguous.append_one (congrArg (· + 1) lastIndex),
    List.forall_mem_append.mpr ⟨knownLog.known, ?_⟩,
    List.forall_mem_append.mpr ⟨knownLog.rows, ?_⟩⟩
  · exact List.forall_mem_singleton.mpr (LogEntry.stored_known known)
  · exact List.forall_mem_singleton.mpr (LogEntry.stored_stored _)

theorem Settled.installSnapshot
    {replica : RaftReplica} (settled : replica.Settled)
    {snapshot : ReplicaSnapshot}
    (contiguous :
      OrderedTable.Contiguous LogEntry.index snapshot.log)
    (known : ∀ entry ∈ snapshot.log, entry.Known)
    (commitNonneg : 0 ≤ snapshot.commitIndex) :
    (RaftReplica.installSnapshot snapshot replica).state.Settled := by
  rcases Bool.eq_false_or_eq_true replica.online with online | offline
  · rw [installSnapshot_known online contiguous known]
    refine Ready.persisted ⟨?_, ?_, ?_, List.not_mem_nil⟩
    · change SqliteStore.KnownLog
        ((replica.copied snapshot).store.executeAll (List.map _ _)).log
      rw [SqliteStore.executeAll_statements]
      change SqliteStore.KnownLog (replica.copied snapshot).store.log
      rw [(store_copied replica contiguous).1]
      exact SqliteStore.knownLog_map_stored contiguous known
    · exact le_min commitNonneg (by omega)
    · change 0 + ((List.take _ (List.map _ _)).length : Int) = min _ _
      rw [List.length_take, List.length_map]
      omega
  · have returns :
        RaftReplica.installSnapshot snapshot replica =
          ⟨.ok (), replica, []⟩ := by
      simp [RaftReplica.installSnapshot, offline]
    rw [returns]
    exact settled

end RaftReplica

/-! ## Runs of public calls -/

/-- The public calls of a replica: those of `ReplicaRequest`, a restart among
them, and the append of a leader. -/
inductive PublicCall where
  | serve (request : ReplicaRequest)
  | appendLocal (command key value : Bytes)
  deriving DecidableEq, Repr

namespace PublicCall

/-- Make the call. -/
def call : PublicCall → ReplicaCall Unit
  | .serve request => do
      let _ ← request.serve
      return ()
  | .appendLocal command key value => do
      let _ ← RaftReplica.appendLocal command key value
      return ()

/-- Identifiers are C strings and commands are known, a batch has the indexes
after `prev_log_index`, the log of a snapshot starts with index one, and commit
indexes are not negative.  Terms, conflicts and commit indexes are otherwise
arbitrary. -/
def Regular : PublicCall → Prop
  | .serve (.requestVote _ candidateId _ _) => NulFree candidateId
  | .serve
      (.appendEntries _ leaderId prevLogIndex _ entries leaderCommit) =>
      NulFree leaderId ∧ 0 ≤ prevLogIndex ∧
        ConsecutiveFrom prevLogIndex.toNat entries ∧
        (∀ entry ∈ entries, entry.Known) ∧ 0 ≤ leaderCommit
  | .serve (.installSnapshot snapshot) =>
      OrderedTable.Contiguous LogEntry.index snapshot.log ∧
        (∀ entry ∈ snapshot.log, entry.Known) ∧ 0 ≤ snapshot.commitIndex
  | .serve (.commitTo index) => 0 ≤ index
  | .serve _ => True
  | .appendLocal command _ _ =>
      command = putCommand ∨ command = deleteCommand

end PublicCall

/-- The state after a call whose value is dropped. -/
private theorem state_dropValue
    {Value Next : Type} (call : ReplicaCall Value) (next : Next)
    (replica : RaftReplica) :
    ((do
      let _ ← call
      return next : ReplicaCall Next) replica).state =
      (call replica).state := by
  rw [Journaled.bind_apply]
  unfold Outcome.andThen
  split
  · rfl
  · rfl

/-- A regular call leaves a settled replica settled. -/
theorem RaftReplica.Settled.call
    {replica : RaftReplica} (settled : replica.Settled)
    {made : PublicCall} (regular : made.Regular) :
    (made.call replica).state.Settled := by
  cases made with
  | appendLocal command key value =>
      rw [PublicCall.call, state_dropValue]
      exact settled.appendLocal regular key value
  | serve request =>
      rw [PublicCall.call, state_dropValue]
      cases request with
      | requestVote term candidateId lastIndex lastTerm =>
          exact (settles_requestVote term regular lastIndex
            lastTerm).always settled
      | appendEntries term leaderId prevLogIndex prevLogTerm entries
          leaderCommit =>
          obtain ⟨nulFree, nonneg, consecutive, known, _⟩ := regular
          obtain ⟨start, rfl⟩ := Int.eq_ofNat_of_zero_le nonneg
          rw [ReplicaRequest.serve, state_dropValue]
          exact (settles_appendEntries term nulFree start prevLogTerm
            consecutive known leaderCommit).always settled
      | installSnapshot snapshot =>
          obtain ⟨contiguous, known, commitNonneg⟩ := regular
          rw [ReplicaRequest.serve, state_dropValue]
          exact settled.installSnapshot contiguous known commitNonneg
      | commitTo index =>
          rw [ReplicaRequest.serve, state_dropValue]
          exact settled.commitTo index
      | discardUncommitted =>
          rw [ReplicaRequest.serve, state_dropValue]
          exact settled.discardUncommitted
      | setOnline online =>
          exact settled.withRole _ _
      | setRole role =>
          exact settled.withRole _ _
      | restart =>
          rw [ReplicaRequest.serve]
          change ((RaftReplica.loadState
            (RaftReplica.opened replica.id replica.store)).andThen
              fun _ => pure false).state.Settled
          rw [settled.loadState]
          exact settled.withRole _ _

/-- A regular call and the replica it leaves, also when it throws. -/
def PublicStep
    (replica : RaftReplica) (made : PublicCall) (next : RaftReplica) :
    Prop :=
  made.Regular ∧ next = (made.call replica).state

/-- After every sequence of regular calls a restart gives back the replica, with
its role and online flag reset and nothing redone, and everything committed is
applied. -/
theorem restart_transparent
    {id : Bytes} {calls : List PublicCall} {replica : RaftReplica}
    (run :
      Run
        (fun state => state = RaftReplica.opened id SqliteStore.empty)
        PublicStep calls replica) :
    RaftReplica.loadState
        (RaftReplica.opened replica.id replica.store) =
      ⟨.ok (), { replica with role := .follower, online := true }, []⟩ ∧
      replica.lastApplied = replica.commitIndex := by
  have settled : replica.Settled := by
    induction run with
    | initial started =>
        rw [started]
        exact RaftReplica.settled_opened_empty id
    | extend _ stepped inductionHypothesis =>
        rw [stepped.2]
        exact inductionHypothesis.call stepped.1
  exact ⟨settled.loadState, settled.ready.caughtUp⟩

/-- A batch of two entries that commits both. -/
def committedBatch : PublicCall :=
  .serve
    (.appendEntries 1 (bytes "a") 0 0
      [{ index := 1, term := 1, command := putCommand, key := bytes "k" },
        { index := 2, term := 1, command := deleteCommand,
          key := bytes "k" }]
      2)

/-- A batch of a later term that conflicts with the first entry. -/
def conflictingBatch : PublicCall :=
  .serve
    (.appendEntries 2 (bytes "b") 0 0
      [{ index := 1, term := 2, command := putCommand, key := bytes "k" }]
      0)

/-- The conflict cuts the log below the commit index, and a restart still changes
nothing. -/
theorem restart_after_conflict :
    ∃ calls replica,
      Run
          (fun state =>
            state = RaftReplica.opened (bytes "r") SqliteStore.empty)
          PublicStep calls replica ∧
        replica.commitIndex = 2 ∧ replica.store.log.length = 1 ∧
        RaftReplica.loadState
            (RaftReplica.opened replica.id replica.store) =
          ⟨.ok (), { replica with role := .follower, online := true },
            []⟩ := by
  have first : committedBatch.Regular :=
    ⟨by decide, by decide,
      consecutiveFrom_cons.mpr ⟨rfl,
        consecutiveFrom_cons.mpr ⟨rfl, consecutiveFrom_nil _⟩⟩,
      by decide, by decide⟩
  have second : conflictingBatch.Regular :=
    ⟨by decide, by decide,
      consecutiveFrom_cons.mpr ⟨rfl, consecutiveFrom_nil _⟩,
      by decide, by decide⟩
  have started :
      Run
        (fun state =>
          state = RaftReplica.opened (bytes "r") SqliteStore.empty)
        PublicStep [] _ :=
    .initial rfl
  have run := (started.extend ⟨first, rfl⟩).extend ⟨second, rfl⟩
  exact ⟨_, _, run, by decide +kernel, by decide +kernel,
    (restart_transparent run).1⟩

end ShardedKvStore

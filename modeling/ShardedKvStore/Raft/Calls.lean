import ShardedKvStore.Raft
import ShardedKvStore.Store.Contents

/-!
# What the calls of a replica do

Each call of `RaftReplica` is evaluated on the databases the shard works with:
its result, the members it leaves, and the statements it executes.  The database
it leaves is `executeAll` of those statements (`Mirrors`), and the lemmas about
`executeAll` give its tables.
-/

namespace ShardedKvStore

open Foundation

/-- The four statements of `persist_state`. -/
def persistRows
    (term : Int) (votedFor : Bytes) (commitIndex lastApplied : Int) :
    List Statement :=
  [.setMeta (.currentTerm term), .setMeta (.votedFor votedFor),
    .setMeta (.commitIndex commitIndex), .setMeta (.lastApplied lastApplied)]

namespace SqliteStore

/-! ## Tables after lists of statements -/

variable (store : SqliteStore)

theorem executeAll_persistRows
    (term : Int) (votedFor : Bytes) (commitIndex lastApplied : Int) :
    store.executeAll (persistRows term votedFor commitIndex lastApplied) =
      { store with
        metaTable :=
          { currentTerm := some term
            votedFor := some (cString votedFor)
            commitIndex := some commitIndex
            lastApplied := some lastApplied } } :=
  rfl

theorem execute_statement {entry : LogEntry} :
    store.execute entry.statement =
      { store with kv := assign store.kv entry.assignment } := by
  unfold LogEntry.statement LogEntry.assignment
  by_cases isPut : entry.command = putCommand
  · rw [if_pos isPut, if_pos isPut]
    rfl
  · rw [if_neg isPut, if_neg isPut]
    rfl

theorem log_execute_statement (entry : LogEntry) :
    (store.execute entry.statement).log = store.log := by
  rw [execute_statement]
  rfl

/-- Applying entries changes only the `kv` table. -/
theorem executeAll_statements (entries : List LogEntry) :
    store.executeAll (entries.map LogEntry.statement) =
      { store with
        kv := replayOnto store.kv (entries.map LogEntry.assignment) } := by
  induction entries generalizing store with
  | nil =>
      rfl
  | cons entry rest inductionHypothesis =>
      rw [List.map_cons, executeAll_cons, execute_statement,
        inductionHypothesis]
      rfl

/-- Appending the following entries changes only the log. -/
theorem executeAll_appendLogs
    (entries : List LogEntry)
    (contiguous :
      OrderedTable.Contiguous LogEntry.index (store.log ++ entries)) :
    (store.executeAll (entries.map .appendLog)).log =
        store.log ++ entries.map LogEntry.stored ∧
      (store.executeAll (entries.map .appendLog)).kv = store.kv ∧
      (store.executeAll (entries.map .appendLog)).metaTable =
        store.metaTable := by
  induction entries generalizing store with
  | nil =>
      simp
  | cons entry rest inductionHypothesis =>
      have initial :
          OrderedTable.Contiguous LogEntry.index store.log :=
        contiguous.of_prefix (List.prefix_append _ _)
      have nextIndex : entry.index = store.log.length + 1 :=
        contiguous store.log.length entry (by simp)
      have appended :=
        log_appendLog initial nextIndex
      have restSpec :=
        inductionHypothesis (store.execute (.appendLog entry))
          (contiguous.of_keys (by rw [appended]; simp))
      rw [List.map_cons, executeAll_cons]
      refine ⟨?_, restSpec.2.1, restSpec.2.2⟩
      rw [restSpec.1, appended, List.append_assoc, List.singleton_append,
        List.map_cons]

/-- Copying a log into a new database. -/
theorem executeAll_appendLogs_empty
    {entries : List LogEntry} (knownLog : KnownLog entries) :
    (empty.executeAll (entries.map .appendLog)).log = entries ∧
      (empty.executeAll (entries.map .appendLog)).kv = (fun _ => none) ∧
      (empty.executeAll (entries.map .appendLog)).metaTable = {} := by
  obtain ⟨log, tables⟩ :=
    executeAll_appendLogs empty entries knownLog.contiguous
  rw [knownLog.map_stored] at log
  exact ⟨log, tables⟩

end SqliteStore

namespace RaftReplica

/-- The volatile members agree with the database, and every committed entry is
applied. -/
structure InStep (replica : RaftReplica) : Prop where
  term : replica.currentTerm = replica.store.currentTerm
  commit : replica.commitIndex = replica.store.commitIndex
  applied : replica.lastApplied = replica.store.lastApplied
  caughtUp : replica.lastApplied = replica.commitIndex

/-! ## Applying entries -/

@[simp]
theorem execute_apply (statement : Statement) (replica : RaftReplica) :
    execute statement replica =
      ⟨.ok (), { replica with store := replica.store.execute statement },
        [statement]⟩ :=
  rfl

@[simp]
theorem persistState_apply (replica : RaftReplica) :
    persistState replica =
      ⟨.ok (),
        { replica with
          store := replica.store.executeAll
            (persistRows replica.currentTerm replica.votedFor
              replica.commitIndex replica.lastApplied) },
        persistRows replica.currentTerm replica.votedFor
          replica.commitIndex replica.lastApplied⟩ :=
  rfl

/-- A replica that has written its state down. -/
def persisted (replica : RaftReplica) : RaftReplica :=
  { replica with
    store := replica.store.executeAll
      (persistRows replica.currentTerm replica.votedFor
        replica.commitIndex replica.lastApplied) }

theorem votedFor_persisted (replica : RaftReplica) :
    replica.persisted.store.votedFor = cString replica.votedFor :=
  cString_cString replica.votedFor

theorem persisted_of_rows
    {replica : RaftReplica}
    (rows :
      replica.store.metaTable =
        { currentTerm := some replica.currentTerm
          votedFor := some (cString replica.votedFor)
          commitIndex := some replica.commitIndex
          lastApplied := some replica.lastApplied }) :
    replica.persisted = replica := by
  unfold persisted
  rw [SqliteStore.executeAll_persistRows, ← rows]

theorem applyEntry_apply
    {entry : LogEntry} (known : entry.Known) (replica : RaftReplica) :
    applyEntry entry replica =
      ⟨.ok (), { replica with store := replica.store.execute entry.statement },
        [entry.statement]⟩ := by
  unfold applyEntry LogEntry.statement
  by_cases isPut : entry.command = putCommand
  · rw [if_pos isPut, if_pos isPut]
    rfl
  · have isDelete := known.resolve_left isPut
    rw [if_neg isPut, if_neg isPut, if_pos isDelete]
    rfl

/-- The replica after applying the entries that follow `last_applied`. -/
def afterApplying (replica : RaftReplica) (entries : List LogEntry) :
    RaftReplica :=
  { replica with
    store := replica.store.executeAll (entries.map LogEntry.statement)
    lastApplied := replica.lastApplied + entries.length }

/-- The entry at a position inside the log, and the entries after it. -/
private theorem take_drop_succ
    {entries : List LogEntry} {position count : Nat}
    (bound : position + (count + 1) ≤ entries.length) :
    ∃ entry,
      entries[position]? = some entry ∧ entry ∈ entries ∧
        (entries.drop position).take (count + 1) =
          entry :: (entries.drop (position + 1)).take count := by
  have inside : position < entries.length := by omega
  refine ⟨entries[position], List.getElem?_eq_getElem inside,
    List.getElem_mem inside, ?_⟩
  rw [List.drop_eq_getElem_cons inside, List.take_succ_cons]

private theorem afterApplying_cons
    {replica : RaftReplica} {entry : LogEntry} {rest : List LogEntry}
    {position : Nat} (applied : replica.lastApplied = position) :
    afterApplying
        { replica with
          store := replica.store.execute entry.statement
          lastApplied := (position : Int) + 1 } rest =
      afterApplying replica (entry :: rest) := by
  simp only [afterApplying, List.map_cons, SqliteStore.executeAll_cons,
    List.length_cons, applied]
  congr 1
  omega

/-- Inside the log both apply loops apply the `count` following entries. -/
theorem applyUntilMissing_apply
    (replica : RaftReplica) (position count : Nat)
    (contiguous :
      OrderedTable.Contiguous LogEntry.index replica.store.log)
    (known : ∀ entry ∈ replica.store.log, entry.Known)
    (applied : replica.lastApplied = position)
    (bound : position + count ≤ replica.store.log.length) :
    applyUntilMissing (position + 1) count replica =
      ⟨.ok (),
        replica.afterApplying
          ((replica.store.log.drop position).take count),
        ((replica.store.log.drop position).take count).map
          LogEntry.statement⟩ := by
  induction count generalizing replica position with
  | zero =>
      simp [applyUntilMissing, afterApplying]
  | succ remaining inductionHypothesis =>
      obtain ⟨entry, present, member, shape⟩ := take_drop_succ bound
      have sameLog := replica.store.log_execute_statement entry
      have rest :=
        inductionHypothesis
          { replica with
            store := replica.store.execute entry.statement
            lastApplied := (position : Int) + 1 }
          (position + 1)
          (by simpa only [sameLog] using contiguous)
          (by simpa only [sameLog] using known)
          (by simp) (by simp only [sameLog]; omega)
      simp only [Nat.cast_add, Nat.cast_one, sameLog] at rest
      simp only [applyUntilMissing, Journaled.bind_apply,
        Journaled.read_apply, Outcome.andThen_ok,
        SqliteStore.logAt_succ contiguous, present,
        applyEntry_apply (known entry member),
        Journaled.modify_apply, rest, Outcome.prepend_mk,
        afterApplying_cons applied, shape, List.map_cons,
        List.singleton_append, List.nil_append]

theorem applyPresent_apply
    (replica : RaftReplica) (position count : Nat)
    (contiguous :
      OrderedTable.Contiguous LogEntry.index replica.store.log)
    (known : ∀ entry ∈ replica.store.log, entry.Known)
    (applied : replica.lastApplied = position)
    (bound : position + count ≤ replica.store.log.length) :
    applyPresent (position + 1) count replica =
      applyUntilMissing (position + 1) count replica := by
  induction count generalizing replica position with
  | zero =>
      rfl
  | succ remaining inductionHypothesis =>
      obtain ⟨entry, present, member, _⟩ := take_drop_succ bound
      have sameLog := replica.store.log_execute_statement entry
      have rest :=
        inductionHypothesis
          { replica with
            store := replica.store.execute entry.statement
            lastApplied := (position : Int) + 1 }
          (position + 1)
          (by simpa only [sameLog] using contiguous)
          (by simpa only [sameLog] using known)
          (by simp) (by simp only [sameLog]; omega)
      simp only [Nat.cast_add, Nat.cast_one] at rest
      simp only [applyPresent, applyUntilMissing, Journaled.bind_apply,
        Journaled.read_apply, Outcome.andThen_ok, Outcome.prepend_nil,
        SqliteStore.logAt_succ contiguous, present,
        applyEntry_apply (known entry member),
        Journaled.modify_apply, rest]

/-! ## The calls -/

/-- Whether `request_vote` finds the candidate's log current. -/
def findsCurrent
    (replica : RaftReplica) (candidateLastIndex candidateLastTerm : Int) :
    Prop :=
  replica.store.lastLogTerm < candidateLastTerm ∨
    (candidateLastTerm = replica.store.lastLogTerm ∧
      replica.store.lastLogIndex ≤ candidateLastIndex)

/-- A replica that granted its vote in a new term. -/
def afterVote
    (replica : RaftReplica) (term : Int) (candidateId : Bytes) :
    RaftReplica :=
  { replica with
    currentTerm := term
    votedFor := candidateId
    role := .follower
    store := replica.store.executeAll
      (persistRows term candidateId
        replica.commitIndex replica.lastApplied) }

/-- An online replica grants its vote in a new term to a current candidate. -/
theorem requestVote_apply
    {replica : RaftReplica} {term : Int} {candidateId : Bytes}
    {candidateLastIndex candidateLastTerm : Int}
    (online : replica.online = true)
    (newTerm : replica.currentTerm < term)
    (current :
      replica.findsCurrent candidateLastIndex candidateLastTerm) :
    requestVote term candidateId candidateLastIndex candidateLastTerm
        replica =
      ⟨.ok true, replica.afterVote term candidateId,
        persistRows term candidateId
          replica.commitIndex replica.lastApplied⟩ := by
  have notRefused :
      ¬ (replica.online = false ∨ term < replica.currentTerm) := by
    rintro (offline | older)
    · rw [online] at offline
      cases offline
    · omega
  unfold findsCurrent at current
  simp [requestVote, notRefused, newTerm, current, afterVote]

/-- The members after `append_entries` has accepted the sender as leader. -/
def following
    (replica : RaftReplica) (term : Int) (leaderId : Bytes) :
    RaftReplica :=
  { replica with
    currentTerm := term
    votedFor := leaderId
    role := .follower }

/-- `append_entries` after its term checks. -/
theorem appendEntries_following
    {replica : RaftReplica} {term : Int} {leaderId : Bytes}
    {prevLogIndex prevLogTerm : Int} {entries : List LogEntry}
    {leaderCommit : Int}
    (online : replica.online = true)
    (notOlder : replica.currentTerm ≤ term) :
    appendEntries term leaderId prevLogIndex prevLogTerm
        entries leaderCommit replica =
      if 0 < prevLogIndex ∧
          (replica.store.logAt prevLogIndex).map LogEntry.term ≠
            some prevLogTerm then
        (persistState (replica.following term leaderId)).andThen
          fun _ => pure false
      else
        (reconcile entries (replica.following term leaderId)).andThen
          fun _ => do
            advanceCommit leaderCommit
            persistState
            return true := by
  have notRefused :
      ¬ (replica.online = false ∨ term < replica.currentTerm) := by
    rintro (offline | older)
    · rw [online] at offline
      cases offline
    · omega
  by_cases newTerm : replica.currentTerm < term
  · simp only [appendEntries, Journaled.bind_apply, Journaled.read_apply,
      Outcome.andThen_ok, Journaled.ite_apply, if_neg notRefused,
      if_pos newTerm, Journaled.modify_apply, Outcome.prepend_nil,
      following]
  · obtain rfl : term = replica.currentTerm := by omega
    simp only [appendEntries, Journaled.bind_apply, Journaled.read_apply,
      Outcome.andThen_ok, Journaled.ite_apply, if_neg notRefused,
      if_neg newTerm, Journaled.modify_apply, Outcome.prepend_nil,
      following]

/-- The replica refuses entries that do not connect to its log. -/
theorem appendEntries_refused
    {replica : RaftReplica} {term : Int} {leaderId : Bytes}
    {prevLogIndex prevLogTerm : Int} {entries : List LogEntry}
    {leaderCommit : Int}
    (online : replica.online = true)
    (notOlder : replica.currentTerm ≤ term)
    (contiguous :
      OrderedTable.Contiguous LogEntry.index replica.store.log)
    (beyond : replica.store.log.length < prevLogIndex) :
    appendEntries term leaderId prevLogIndex prevLogTerm
        entries leaderCommit replica =
      ⟨.ok false,
        { replica.following term leaderId with
          store := replica.store.executeAll
            (persistRows term leaderId
              replica.commitIndex replica.lastApplied) },
        persistRows term leaderId
          replica.commitIndex replica.lastApplied⟩ := by
  rw [appendEntries_following online notOlder, if_pos]
  · simp [following]
  · refine ⟨by omega, ?_⟩
    rw [SqliteStore.logAt_eq_none contiguous (Or.inr beyond)]
    simp

/-- The previous entry of an append at the end of the log matches. -/
private theorem previous_matches
    {replica : RaftReplica} {prevLogTerm : Int}
    (contiguous :
      OrderedTable.Contiguous LogEntry.index replica.store.log)
    (previous :
      replica.termAt replica.store.log.length = prevLogTerm) :
    ¬ (0 < (replica.store.log.length : Int) ∧
      (replica.store.logAt replica.store.log.length).map LogEntry.term ≠
        some prevLogTerm) := by
  rintro ⟨positive, differs⟩
  obtain ⟨position, length⟩ :
      ∃ position, replica.store.log.length = position + 1 :=
    ⟨replica.store.log.length - 1, by omega⟩
  have inside : position < replica.store.log.length := by omega
  have found :
      replica.store.logAt replica.store.log.length =
        some replica.store.log[position] := by
    rw [length, Nat.cast_add, Nat.cast_one,
      SqliteStore.logAt_succ contiguous,
      List.getElem?_eq_getElem inside]
  unfold termAt at previous
  rw [if_neg (by omega), found] at previous
  rw [found] at differs
  simp [← previous] at differs

/-- Applying from `last_applied` to the end of the log. -/
theorem applyUntilMissing_rest
    {replica : RaftReplica} {applied : Nat}
    (knownLog : SqliteStore.KnownLog replica.store.log)
    (lastApplied : replica.lastApplied = applied)
    (within : applied ≤ replica.store.log.length) :
    applyUntilMissing (replica.lastApplied + 1)
        ((replica.store.log.length : Int) - replica.lastApplied).toNat
        replica =
      ⟨.ok (),
        { replica with
          lastApplied := replica.store.log.length
          store := replica.store.executeAll
            ((replica.store.log.drop applied).map LogEntry.statement) },
        (replica.store.log.drop applied).map LogEntry.statement⟩ := by
  have distance :
      ((replica.store.log.length : Int) - replica.lastApplied).toNat =
        replica.store.log.length - applied := by
    omega
  have wholeTail :
      (replica.store.log.drop applied).take
          (replica.store.log.length - applied) =
        replica.store.log.drop applied :=
    List.take_of_length_le (by rw [List.length_drop])
  have reached :
      replica.lastApplied + ((replica.store.log.drop applied).length : Int) =
        replica.store.log.length := by
    rw [List.length_drop]
    omega
  rw [distance, lastApplied,
    applyUntilMissing_apply replica applied _ knownLog.contiguous
      knownLog.known lastApplied
      (by omega),
    wholeTail, afterApplying, reached]

theorem advanceCommit_level
    {replica : RaftReplica} {leaderCommit : Int}
    (notAhead :
      min leaderCommit replica.store.lastLogIndex ≤ replica.commitIndex) :
    advanceCommit leaderCommit replica = ⟨.ok (), replica, []⟩ := by
  simp only [advanceCommit, Journaled.bind_apply, Journaled.read_apply,
    Outcome.andThen_ok, Journaled.ite_apply, if_neg (not_lt.mpr notAhead),
    Journaled.pure_apply, Outcome.prepend_nil]

/-- The replica appends the entry that follows its log. -/
theorem appendEntries_appended
    {replica : RaftReplica} {term : Int} {leaderId : Bytes}
    {prevLogTerm : Int} {entry : LogEntry} {leaderCommit : Int}
    (online : replica.online = true)
    (notOlder : replica.currentTerm ≤ term)
    (contiguous :
      OrderedTable.Contiguous LogEntry.index replica.store.log)
    (previous :
      replica.termAt replica.store.log.length = prevLogTerm)
    (nextIndex : entry.index = replica.store.log.length + 1)
    (notAhead : leaderCommit ≤ replica.commitIndex) :
    appendEntries term leaderId replica.store.log.length prevLogTerm
        [entry] leaderCommit replica =
      ⟨.ok true,
        { replica.following term leaderId with
          store := replica.store.executeAll
            (.appendLog entry ::
              persistRows term leaderId
                replica.commitIndex replica.lastApplied) },
        .appendLog entry ::
          persistRows term leaderId
            replica.commitIndex replica.lastApplied⟩ := by
  have absent : replica.store.logAt entry.index = none :=
    SqliteStore.logAt_eq_none contiguous (Or.inr (by omega))
  have reconciled :
      reconcile [entry] (replica.following term leaderId) =
        ⟨.ok (),
          { replica.following term leaderId with
            store := replica.store.execute (.appendLog entry) },
          [.appendLog entry]⟩ := by
    simp [reconcile, following, absent]
  rw [appendEntries_following online notOlder,
    if_neg (previous_matches contiguous previous), reconciled]
  simp only [Outcome.andThen_ok, Journaled.bind_apply]
  rw [advanceCommit_level (by exact min_le_of_left_le notAhead)]
  simp [following]

/-- A heartbeat at the end of the log commits and applies all of it. -/
theorem appendEntries_committed
    {replica : RaftReplica} {term : Int} {leaderId : Bytes}
    {prevLogTerm : Int} {applied : Nat}
    (online : replica.online = true)
    (notOlder : replica.currentTerm ≤ term)
    (wellFormed : SqliteStore.WellFormedLog replica.store.log)
    (previous :
      replica.termAt replica.store.log.length = prevLogTerm)
    (lastApplied : replica.lastApplied = applied)
    (caughtUp : replica.lastApplied = replica.commitIndex)
    (behind : applied < replica.store.log.length) :
    appendEntries term leaderId replica.store.log.length prevLogTerm
        [] replica.store.log.length replica =
      ⟨.ok true,
        { replica.following term leaderId with
          commitIndex := replica.store.log.length
          lastApplied := replica.store.log.length
          store := replica.store.executeAll
            ((replica.store.log.drop applied).map LogEntry.statement ++
              persistRows term leaderId
                replica.store.log.length replica.store.log.length) },
        (replica.store.log.drop applied).map LogEntry.statement ++
          persistRows term leaderId
            replica.store.log.length replica.store.log.length⟩ := by
  have applies :=
    applyUntilMissing_rest
      (show SqliteStore.KnownLog
        (replica.following term leaderId).store.log from
          wellFormed.knownLog)
      (show (replica.following term leaderId).lastApplied = applied from
        lastApplied)
      behind.le
  have commits : replica.commitIndex < (replica.store.log.length : Int) := by
    omega
  have newCommit :
      max replica.commitIndex (replica.store.log.length : Int) =
        replica.store.log.length :=
    max_eq_right commits.le
  simp only [following] at applies
  rw [appendEntries_following online notOlder,
    if_neg (previous_matches wellFormed.contiguous previous)]
  simp only [reconcile, advanceCommit, following, Journaled.pure_apply,
    Journaled.bind_apply, Journaled.read_apply, Journaled.ite_apply,
    Journaled.modify_apply, Outcome.andThen_ok,
    SqliteStore.lastLogIndex_eq wellFormed.contiguous, min_self,
    if_pos commits, applies, newCommit, persistState_apply,
    Outcome.prepend_mk, SqliteStore.executeAll_append, List.append_nil,
    List.nil_append]

/-- An online leader appends the next entry. -/
theorem appendLocal_apply
    {replica : RaftReplica} (command key value : Bytes)
    (online : replica.online = true) (leads : replica.role = .leader) :
    appendLocal command key value replica =
      ⟨.ok
          { index := replica.store.lastLogIndex + 1
            term := replica.currentTerm
            command := command
            key := key
            value := value },
        { replica with
          store := replica.store.execute
            (.appendLog
              { index := replica.store.lastLogIndex + 1
                term := replica.currentTerm
                command := command
                key := key
                value := value }) },
        [.appendLog
          { index := replica.store.lastLogIndex + 1
            term := replica.currentTerm
            command := command
            key := key
            value := value }]⟩ := by
  simp [appendLocal, online, leads]

/-- Committing up to the last entry applies the whole uncommitted tail. -/
theorem commitTo_apply
    {replica : RaftReplica} {applied : Nat}
    (online : replica.online = true)
    (wellFormed : SqliteStore.WellFormedLog replica.store.log)
    (lastApplied : replica.lastApplied = applied)
    (caughtUp : replica.lastApplied = replica.commitIndex)
    (within : applied ≤ replica.store.log.length) :
    commitTo replica.store.log.length replica =
      ⟨.ok (),
        { replica with
          commitIndex := replica.store.log.length
          lastApplied := replica.store.log.length
          store := replica.store.executeAll
            ((replica.store.log.drop applied).map LogEntry.statement ++
              persistRows replica.currentTerm replica.votedFor
                replica.store.log.length replica.store.log.length) },
        (replica.store.log.drop applied).map LogEntry.statement ++
          persistRows replica.currentTerm replica.votedFor
            replica.store.log.length replica.store.log.length⟩ := by
  have isOnline : ¬ replica.online = false := by
    rw [online]
    decide
  have newCommit :
      max replica.commitIndex (replica.store.log.length : Int) =
        replica.store.log.length :=
    max_eq_right (by omega)
  simp only [commitTo, Journaled.bind_apply, Journaled.read_apply,
    Journaled.ite_apply, Journaled.modify_apply, if_neg isOnline,
    Outcome.andThen_ok,
    SqliteStore.lastLogIndex_eq wellFormed.contiguous, min_self,
    applyUntilMissing_rest wellFormed.knownLog lastApplied within, newCommit,
    persistState_apply, Outcome.prepend_mk,
    SqliteStore.executeAll_append, List.nil_append]

@[simp]
theorem discardUncommitted_apply (replica : RaftReplica) :
    discardUncommitted replica =
      ⟨.ok (),
        { replica with
          store := replica.store.execute
            (.truncateLogFrom (replica.commitIndex + 1)) },
        [.truncateLogFrom (replica.commitIndex + 1)]⟩ :=
  rfl

/-- What a replica exports: the entries up to its commit index. -/
theorem exportSnapshot_eq
    {replica : RaftReplica} {committed tail : List LogEntry}
    (log : replica.store.log = committed ++ tail)
    (contiguous :
      OrderedTable.Contiguous LogEntry.index replica.store.log)
    (commit : replica.commitIndex = committed.length) :
    replica.exportSnapshot =
      { term := replica.currentTerm
        commitIndex := committed.length
        log := committed } := by
  unfold exportSnapshot
  rw [SqliteStore.logsFrom_one contiguous, commit, if_neg (by omega),
    Int.toNat_natCast, log, List.take_left']
  rfl

/-- The statements of `install_snapshot`. -/
def installStatements (term : Int) (entries : List LogEntry) :
    List Statement :=
  .clearAll ::
    (entries.map .appendLog ++
      (entries.map LogEntry.statement ++
        persistRows term [] entries.length entries.length))

/-- A replica that has installed a snapshot. -/
def afterInstall
    (replica : RaftReplica) (term : Int) (entries : List LogEntry) :
    RaftReplica :=
  { replica with
    currentTerm := term
    votedFor := []
    role := .follower
    commitIndex := entries.length
    lastApplied := entries.length
    store := replica.store.executeAll (installStatements term entries) }

private theorem forEach_appendLog
    (entries : List LogEntry) (replica : RaftReplica) :
    Journaled.forEach (fun entry => execute (.appendLog entry)) entries
        replica =
      ⟨.ok (),
        { replica with
          store := replica.store.executeAll (entries.map .appendLog) },
        entries.map .appendLog⟩ := by
  induction entries generalizing replica with
  | nil =>
      rfl
  | cons entry rest inductionHypothesis =>
      simp [Journaled.forEach, inductionHypothesis]

/-- A replica that has copied the log of a snapshot and applied nothing. -/
def copied (replica : RaftReplica) (snapshot : ReplicaSnapshot) :
    RaftReplica :=
  { replica with
    currentTerm := max replica.currentTerm snapshot.term
    votedFor := []
    role := .follower
    commitIndex := 0
    lastApplied := 0
    store := SqliteStore.empty.executeAll (snapshot.log.map .appendLog) }

/-- The tables of a replica that has copied a log. -/
theorem store_copied
    (replica : RaftReplica) {snapshot : ReplicaSnapshot}
    (contiguous :
      OrderedTable.Contiguous LogEntry.index snapshot.log) :
    (replica.copied snapshot).store.log =
        snapshot.log.map LogEntry.stored ∧
      (replica.copied snapshot).store.kv = (fun _ => none) ∧
      (replica.copied snapshot).store.metaTable = {} :=
  SqliteStore.executeAll_appendLogs SqliteStore.empty snapshot.log
    contiguous

/-- `install_snapshot` after the log is copied. -/
theorem installSnapshot_copied
    {replica : RaftReplica} {snapshot : ReplicaSnapshot}
    (online : replica.online = true)
    (contiguous :
      OrderedTable.Contiguous LogEntry.index snapshot.log) :
    installSnapshot snapshot replica =
      ((applyPresent 1
          (min snapshot.commitIndex snapshot.log.length).toNat
          (replica.copied snapshot)).andThen fun _ => do
            Journaled.modify fun replica =>
              { replica with
                commitIndex :=
                  min snapshot.commitIndex snapshot.log.length }
            persistState).prepend
        (.clearAll :: snapshot.log.map .appendLog) := by
  have log := (store_copied replica contiguous).1
  have lastIndex :
      (replica.copied snapshot).store.lastLogIndex =
        snapshot.log.length := by
    rw [SqliteStore.lastLogIndex_eq (by
      rw [log]
      exact LogEntry.contiguous_map_stored contiguous), log, List.length_map]
  simp only [copied] at lastIndex
  have clears : replica.store.execute .clearAll = SqliteStore.empty := rfl
  simp [installSnapshot, online, forEach_appendLog, clears, lastIndex,
    copied]

/-- The replica after a snapshot of known commands. -/
def afterSnapshot
    (replica : RaftReplica) (snapshot : ReplicaSnapshot) : RaftReplica :=
  { (replica.copied snapshot).afterApplying
      ((snapshot.log.map LogEntry.stored).take
        (min snapshot.commitIndex snapshot.log.length).toNat) with
    commitIndex := min snapshot.commitIndex snapshot.log.length }.persisted

/-- An online replica installs a snapshot of known commands. -/
theorem installSnapshot_known
    {replica : RaftReplica} {snapshot : ReplicaSnapshot}
    (online : replica.online = true)
    (contiguous :
      OrderedTable.Contiguous LogEntry.index snapshot.log)
    (known : ∀ entry ∈ snapshot.log, entry.Known) :
    installSnapshot snapshot replica =
      ⟨.ok (), replica.afterSnapshot snapshot,
        .clearAll ::
          (snapshot.log.map .appendLog ++
            (((snapshot.log.map LogEntry.stored).take
              (min snapshot.commitIndex snapshot.log.length).toNat).map
                LogEntry.statement ++
              persistRows (max replica.currentTerm snapshot.term) []
                (replica.afterSnapshot snapshot).commitIndex
                (replica.afterSnapshot snapshot).lastApplied))⟩ := by
  have log := (store_copied replica contiguous).1
  have knownLog : SqliteStore.KnownLog (replica.copied snapshot).store.log := by
    rw [log]
    exact SqliteStore.knownLog_map_stored contiguous known
  have bound :
      0 + (min snapshot.commitIndex snapshot.log.length).toNat ≤
        (replica.copied snapshot).store.log.length := by
    rw [log, List.length_map]
    omega
  have applies :=
    applyPresent_apply _ 0 _ knownLog.contiguous knownLog.known rfl bound
  rw [applyUntilMissing_apply _ 0 _ knownLog.contiguous knownLog.known rfl
    bound, log,
    List.drop_zero, Nat.cast_zero, zero_add] at applies
  rw [installSnapshot_copied online contiguous, applies]
  rfl

/-- An online replica installs a snapshot of committed entries. -/
theorem installSnapshot_apply
    {replica : RaftReplica} {term : Int} {entries : List LogEntry}
    (online : replica.online = true)
    (knownLog : SqliteStore.KnownLog entries) :
    installSnapshot
        { term := term, commitIndex := entries.length, log := entries }
        replica =
      ⟨.ok (),
        replica.afterInstall (max replica.currentTerm term) entries,
        installStatements (max replica.currentTerm term) entries⟩ := by
  rw [installSnapshot_known online knownLog.contiguous knownLog.known]
  simp only [afterSnapshot, afterApplying, copied, persisted, afterInstall,
    installStatements, knownLog.map_stored, min_self, Int.toNat_natCast,
    List.take_length, zero_add, SqliteStore.executeAll_cons,
    SqliteStore.executeAll_append]
  rfl

/-- The tables of an installed snapshot. -/
theorem executeAll_installStatements
    {entries : List LogEntry} (knownLog : SqliteStore.KnownLog entries)
    (store : SqliteStore) (term : Int) :
    (store.executeAll (installStatements term entries)).log = entries ∧
      (store.executeAll (installStatements term entries)).kv =
        replayLog entries ∧
      (store.executeAll (installStatements term entries)).metaTable =
        { currentTerm := some term
          votedFor := some []
          commitIndex := some entries.length
          lastApplied := some entries.length } := by
  obtain ⟨log, kv, _⟩ := SqliteStore.executeAll_appendLogs_empty knownLog
  have shape :
      store.executeAll (installStatements term entries) =
        ((SqliteStore.empty.executeAll (entries.map .appendLog)).executeAll
          (entries.map LogEntry.statement)).executeAll
          (persistRows term [] entries.length entries.length) := by
    rw [installStatements, SqliteStore.executeAll_cons,
      SqliteStore.executeAll_append, SqliteStore.executeAll_append]
    rfl
  rw [shape, SqliteStore.executeAll_statements,
    SqliteStore.executeAll_persistRows]
  refine ⟨log, ?_, rfl⟩
  change replayOnto _ _ = _
  rw [kv]
  rfl

/-- The statements of `load_state`: nothing when there is nothing to redo. -/
def loadStatements (store : SqliteStore) : List Statement :=
  if store.lastApplied < store.commitIndex then
    (store.committed.drop store.lastApplied.toNat).map LogEntry.statement ++
      persistRows store.currentTerm store.votedFor
        store.commitIndex store.commitIndex
  else
    []

/-- A replica after `load_state` on a well-formed database. -/
def loaded (id : Bytes) (store : SqliteStore) : RaftReplica where
  id := id
  store := store.executeAll (loadStatements store)
  currentTerm := store.currentTerm
  votedFor := store.votedFor
  commitIndex := store.commitIndex
  lastApplied := store.commitIndex

/-- The members that `load_state` reads from a database. -/
def readBack (id : Bytes) (store : SqliteStore) : RaftReplica :=
  { opened id store with
    currentTerm := store.currentTerm
    votedFor := store.votedFor
    commitIndex := store.commitIndex
    lastApplied := store.lastApplied }

theorem loadState_opened (id : Bytes) (store : SqliteStore) :
    loadState (opened id store) =
      if store.lastApplied < store.commitIndex then
        (applyPresent (store.lastApplied + 1)
          (store.commitIndex - store.lastApplied).toNat
          (readBack id store)).andThen fun _ => persistState
      else
        ⟨.ok (), readBack id store, []⟩ := by
  simp only [loadState, Journaled.bind_apply, Journaled.modify_apply,
    Outcome.andThen_ok, Journaled.read_apply, Journaled.ite_apply,
    Outcome.prepend_nil, Journaled.pure_apply]
  rfl

/-- The redo, as far as the log reaches. -/
theorem loadState_redoes
    {id : Bytes} {store : SqliteStore}
    (contiguous : OrderedTable.Contiguous LogEntry.index store.log)
    (known : ∀ entry ∈ store.log, entry.Known)
    (appliedNonneg : 0 ≤ store.lastApplied)
    (appliedLe : store.lastApplied ≤ store.commitIndex)
    (commitLe : store.commitIndex ≤ store.log.length) :
    loadState (opened id store) =
      ⟨.ok (), loaded id store, loadStatements store⟩ := by
  rw [loadState_opened]
  by_cases behind : store.lastApplied < store.commitIndex
  · rw [if_pos behind]
    generalize positionEq : store.lastApplied.toNat = position
    have appliedEq : store.lastApplied = position := by omega
    have within :
        position + (store.commitIndex.toNat - position) ≤
          store.log.length := by
      omega
    have present :=
      applyPresent_apply (readBack id store) position
        (store.commitIndex.toNat - position) contiguous known appliedEq
        within
    rw [applyUntilMissing_apply (readBack id store) position
      (store.commitIndex.toNat - position) contiguous known appliedEq
      within] at present
    have distance :
        (store.commitIndex - store.lastApplied).toNat =
          store.commitIndex.toNat - position := by
      omega
    have redoneEntries :
        (store.log.drop position).take
            (store.commitIndex.toNat - position) =
          store.committed.drop position := by
      unfold SqliteStore.committed
      rw [List.drop_take]
    have reached :
        store.lastApplied + ((store.committed.drop position).length : Int) =
          store.commitIndex := by
      unfold SqliteStore.committed
      rw [List.length_drop, List.length_take]
      omega
    have sameLog : (readBack id store).store.log = store.log := rfl
    rw [sameLog, redoneEntries] at present
    rw [distance, appliedEq, present]
    simp only [readBack, opened, Outcome.andThen_ok, persistState_apply,
      Outcome.prepend_mk, afterApplying, reached, loaded, loadStatements,
      if_pos behind, positionEq, SqliteStore.executeAll_append]
  · have level : store.lastApplied = store.commitIndex := by omega
    simp [readBack, loaded, loadStatements, opened, level]

theorem loadState_apply
    {id : Bytes} {store : SqliteStore} (wellFormed : store.WellFormed) :
    loadState (opened id store) =
      ⟨.ok (), loaded id store, loadStatements store⟩ :=
  loadState_redoes wellFormed.wellFormedLog.contiguous
    wellFormed.wellFormedLog.known wellFormed.appliedNonneg
    wellFormed.appliedLe wellFormed.commitLe

end RaftReplica

end ShardedKvStore

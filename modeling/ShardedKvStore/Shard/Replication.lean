import ShardedKvStore.Shard.Election
import ShardedKvStore.Shard.Writes

/-!
# Replicating a command

The write path of a shard with a leader.  When the leader has no uncommitted
tail, every online follower appends the row and acknowledges it.  When it has
one, the previous index is beyond every follower's log and all of them refuse.
The write is committed if the acknowledgements make a majority, and cut off
again otherwise.
-/

namespace ShardedKvStore

open Foundation
open SqliteStore

namespace RaftReplica

/-- `term_at` reads the log. -/
theorem termAt_natCast
    {replica : RaftReplica}
    (contiguous :
      OrderedTable.Contiguous LogEntry.index replica.store.log)
    (position : Nat) :
    replica.termAt position =
      if position = 0 then 0
      else ((replica.store.log[position - 1]?).map LogEntry.term).getD
        (-1) := by
  unfold termAt
  cases position with
  | zero =>
      simp
  | succ previous =>
      have nonzero : ¬ ((previous + 1 : Nat) : Int) = 0 := by omega
      rw [if_neg nonzero, Nat.cast_add, Nat.cast_one,
        logAt_succ contiguous, if_neg (Nat.succ_ne_zero previous),
        Nat.add_sub_cancel]
      cases replica.store.log[previous]? with
      | none =>
          rfl
      | some entry =>
          rfl

theorem termAt_congr
    {left right : RaftReplica}
    (leftContiguous :
      OrderedTable.Contiguous LogEntry.index left.store.log)
    (rightContiguous :
      OrderedTable.Contiguous LogEntry.index right.store.log)
    (isPrefix : left.store.log <+: right.store.log) :
    left.termAt left.store.log.length =
      right.termAt left.store.log.length := by
  rw [termAt_natCast leftContiguous, termAt_natCast rightContiguous]
  by_cases zero : left.store.log.length = 0
  · rw [if_pos zero, if_pos zero]
  · obtain ⟨rest, shape⟩ := isPrefix
    rw [if_neg zero, if_neg zero, ← shape,
      List.getElem?_append_left (by omega)]

end RaftReplica

namespace Shard

variable {count : Nat}

/-! ## The replication loop -/

/-- The replicas the loop does not skip. -/
def follows (shard : Shard count) (leader position : Fin count) : Bool :=
  decide
    (¬ ((shard.replicas position).id = (shard.replicas leader).id ∨
      (shard.replicas position).online = false))

theorem filter_follows (shard : Shard count) (leader : Fin count) :
    (List.finRange count).filter (shard.follows leader) =
      shard.otherOnline leader := by
  unfold otherOnline onlineReplicas
  rw [List.filter_filter]
  apply List.filter_congr
  intro position _
  simp [follows]

/-- When every follower is level with the leader and gives the same answer, the
loop overwrites the followers, and they have all acknowledged or none has. -/
theorem replicateTo_apply
    {shard : Shard count} {leader : Fin count} {entry : LogEntry}
    {prevIndex prevTerm : Int} (accepted : Bool)
    (target : Fin count → RaftReplica)
    (statements : Fin count → List Statement)
    {positions : List (Fin count)} (distinct : positions.Nodup)
    (level :
      ∀ position ∈ positions, shard.follows leader position = true →
        (shard.replicas position).commitIndex =
            (shard.replicas leader).commitIndex ∧
          (shard.replicas position).store.lastLogIndex =
            (shard.replicas leader).commitIndex)
    (answers :
      ∀ position ∈ positions, shard.follows leader position = true →
        RaftReplica.appendEntries
            (shard.replicas leader).currentTerm (shard.replicas leader).id
            prevIndex prevTerm [entry] (shard.replicas leader).commitIndex
            (shard.replicas position) =
          ⟨.ok accepted, target position, statements position⟩) :
    replicateTo leader entry prevIndex prevTerm positions shard =
      ⟨.ok
          (if accepted then positions.filter (shard.follows leader) else []),
        shard.overwrite (positions.filter (shard.follows leader)) target,
        blocks statements
          (positions.filter (shard.follows leader))⟩ := by
  induction positions generalizing shard with
  | nil =>
      simp only [replicateTo, List.filter_nil, overwrite_nil,
        Journaled.pure_apply, ite_self]
      rfl
  | cons position rest inductionHypothesis =>
      obtain ⟨notInRest, restDistinct⟩ := List.nodup_cons.mp distinct
      by_cases follower : shard.follows leader position = true
      · have notSkipped :
            ¬ ((shard.replicas position).id =
                (shard.replicas leader).id ∨
              (shard.replicas position).online = false) := by
          simpa [follows] using follower
        have different : leader ≠ position := fun same =>
          notSkipped (Or.inl (by rw [same]))
        have notBehind :
            ¬ ((shard.replicas position).commitIndex ≠
                (shard.replicas leader).commitIndex ∨
              (shard.replicas position).store.lastLogIndex ≠
                (shard.replicas leader).commitIndex) := by
          have isLevel := level position List.mem_cons_self follower
          simp [isLevel]
        have answer := answers position List.mem_cons_self follower
        have sent := onReplica_apply answer
        -- The leader and the remaining followers are as before.
        have leaderSame :
            (shard.withReplica position (target position)).replicas leader =
              shard.replicas leader :=
          withReplica_of_ne shard _ different
        have restSame (later : Fin count) (member : later ∈ rest) :
            (shard.withReplica position (target position)).replicas later =
              shard.replicas later :=
          withReplica_of_ne shard _ fun same =>
            notInRest (same ▸ member)
        have restFollows (later : Fin count) (member : later ∈ rest) :
            (shard.withReplica position (target position)).follows
                leader later =
              shard.follows leader later := by
          simp only [follows, leaderSame, restSame later member]
        have loop :
            replicateTo leader entry prevIndex prevTerm rest
                (shard.withReplica position (target position)) =
              _ :=
          inductionHypothesis restDistinct
            (by
              intro later member laterFollows
              rw [restFollows later member] at laterFollows
              rw [leaderSame, restSame later member]
              exact level later (List.mem_cons_of_mem position member)
                laterFollows)
            (by
              intro later member laterFollows
              rw [restFollows later member] at laterFollows
              rw [leaderSame, restSame later member]
              exact answers later (List.mem_cons_of_mem position member)
                laterFollows)
        rw [List.filter_congr restFollows] at loop
        have notInFiltered :
            position ∉ rest.filter (shard.follows leader) := fun member =>
          notInRest (List.mem_of_mem_filter member)
        rw [overwrite_cons notInFiltered] at loop
        simp only [replicateTo, Journaled.bind_apply, Journaled.read_apply,
          Outcome.andThen_ok, Journaled.ite_apply,
          if_neg notSkipped, if_neg notBehind, sent, loop,
          Journaled.pure_apply, Outcome.prepend_mk, List.append_nil,
          List.filter_cons_of_pos follower, blocks_cons]
        cases accepted with
        | false =>
            rfl
        | true =>
            rfl
      · have skipped :
            (shard.replicas position).id = (shard.replicas leader).id ∨
              (shard.replicas position).online = false := by
          by_contra notSkipped
          exact follower (decide_eq_true notSkipped)
        have loop :=
          inductionHypothesis restDistinct
            (fun later member =>
              level later (List.mem_cons_of_mem position member))
            (fun later member =>
              answers later (List.mem_cons_of_mem position member))
        simp only [replicateTo, Journaled.bind_apply, Journaled.read_apply,
          Outcome.andThen_ok, Outcome.prepend_nil, Journaled.ite_apply,
          if_pos skipped, loop, List.filter_cons_of_neg follower]

/-! ## The run of a write -/

/-- `replicate_command_locked` once a leader is there. -/
def replicateLed
    (leader : Fin count) (command key value : Bytes)
    (result : OperationResult) : ShardCall count OperationResult := do
  let quorum := majority count
  let entry ← onReplica leader (RaftReplica.appendLocal command key value)
  let prevIndex := entry.index - 1
  let shard ← Journaled.read
  let prevTerm := (shard.replicas leader).termAt prevIndex
  let acknowledged ← replicateTo leader entry prevIndex prevTerm
    (List.finRange count)
  if 1 + acknowledged.length < quorum then
    onReplica leader RaftReplica.discardUncommitted
    Journaled.forEach
      (fun follower => onReplica follower RaftReplica.discardUncommitted)
      acknowledged
    return { result with
      status := 503
      message := bytes "write rejected because a majority could not acknowledge the log entry" }
  onReplica leader (RaftReplica.commitTo entry.index)
  Journaled.forEach
    (fun follower => do
      let shard ← Journaled.read
      let _ ← onReplica follower
        (RaftReplica.appendEntries
          (shard.replicas leader).currentTerm (shard.replicas leader).id
          entry.index entry.term [] entry.index))
    acknowledged
  return { result with
    ok := true
    status := if command = deleteCommand then 200 else 201
    message :=
      if command = deleteCommand then bytes "deleted"
      else bytes "stored" }

/-- A write is an election, if one is needed, followed by the write path of the
leader. -/
theorem replicateCommand_led
    {shard settled : Shard count} {journal : List (ShardEvent count)}
    {leader : Fin count} (command key value : Bytes)
    (elects : ensureLeader shard = ⟨.ok true, settled, journal⟩)
    (found : settled.currentLeader = some leader) :
    replicateCommand command key value shard =
      (replicateLed leader command key value
        { shard := shard.shardId
          leader := (settled.replicas leader).id } settled).prepend
        journal := by
  unfold replicateCommand
  simp only [Journaled.bind_apply, Journaled.read_apply,
    Outcome.andThen_ok, elects, Outcome.prepend_nil,
    Bool.true_eq_false, if_false, found]
  rfl

section Write

variable (shard : Shard count) (leader : Fin count)

/-- The entry a leader appends for a command. -/
def proposal (command key value : Bytes) : LogEntry where
  index := (shard.replicas leader).store.lastLogIndex + 1
  term := (shard.replicas leader).currentTerm
  command := command
  key := key
  value := value

/-- The leader with the entry appended. -/
def appended (entry : LogEntry) : RaftReplica :=
  { shard.replicas leader with
    store := (shard.replicas leader).store.execute (.appendLog entry) }

/-- What a follower executes when the leader sends it the entry. -/
def sentStatements (entry : LogEntry) (position : Fin count) :
    List Statement :=
  (if (shard.replicas leader).store.uncommitted = [] then
    [.appendLog entry] else []) ++
    persistRows (shard.replicas leader).currentTerm
      (shard.replicas leader).id
      (shard.replicas position).commitIndex
      (shard.replicas position).lastApplied

/-- A follower after the leader sent it the entry. -/
def sent (entry : LogEntry) (position : Fin count) : RaftReplica :=
  { (shard.replicas position).following
      (shard.replicas leader).currentTerm (shard.replicas leader).id with
    store := (shard.replicas position).store.executeAll
      (shard.sentStatements leader entry position) }

/-- The followers that acknowledge an entry. -/
def acknowledging : List (Fin count) :=
  if (shard.replicas leader).store.uncommitted = [] then
    shard.otherOnline leader
  else
    []

/-- The shard after a write: the leader and the followers that acknowledged
have closed it, the ones that refused have recorded the leader. -/
def written
    (entry : LogEntry) (close : RaftReplica → RaftReplica) :
    Shard count :=
  { shard with
    replicas := fun position =>
      if position = leader then
        close (shard.appended leader entry)
      else if position ∈ shard.acknowledging leader then
        close (shard.sent leader entry position)
      else if position ∈ shard.otherOnline leader then
        shard.sent leader entry position
      else
        shard.replicas position }

/-- The events of a write. -/
def writeJournal
    (entry : LogEntry)
    (closeStatements : RaftReplica → List Statement) :
    List (ShardEvent count) :=
  .executed leader (.appendLog entry) ::
    (blocks (shard.sentStatements leader entry) (shard.otherOnline leader) ++
      ((closeStatements (shard.appended leader entry)).map
          (.executed leader) ++
        blocks
          (fun position =>
            closeStatements (shard.sent leader entry position))
          (shard.acknowledging leader)))

/-- A write holds no election. -/
theorem writeJournal_elections
    (entry : LogEntry)
    (closeStatements : RaftReplica → List Statement)
    (durable : Durable count) :
    (durable.after
        (shard.writeJournal leader entry closeStatements)).elections =
      durable.elections := by
  have shape :
      shard.writeJournal leader entry closeStatements =
        [Statement.appendLog entry].map (.executed leader) ++
          (blocks (shard.sentStatements leader entry)
              (shard.otherOnline leader) ++
            ((closeStatements (shard.appended leader entry)).map
                (.executed leader) ++
              blocks
                (fun position =>
                  closeStatements (shard.sent leader entry position))
                (shard.acknowledging leader))) :=
    rfl
  rw [shape, Durable.after_append, Durable.after_append,
    Durable.after_append, Durable.after_blocks_elections,
    Durable.after_executed]
  change (Durable.after _ (blocks _ _)).elections = _
  rw [Durable.after_blocks_elections, Durable.after_executed]

end Write

/-- What a replica executes to commit its whole log. -/
def commitStatements (replica : RaftReplica) : List Statement :=
  (replica.store.log.drop replica.commitIndex.toNat).map
      LogEntry.statement ++
    persistRows replica.currentTerm replica.votedFor
      replica.store.log.length replica.store.log.length

/-- A replica that has committed its whole log. -/
def committedAll (replica : RaftReplica) : RaftReplica :=
  { replica with
    commitIndex := replica.store.log.length
    lastApplied := replica.store.log.length
    store := replica.store.executeAll (commitStatements replica) }

/-- What a replica executes to cut off its uncommitted entries. -/
def discardStatements (replica : RaftReplica) : List Statement :=
  [.truncateLogFrom (replica.commitIndex + 1)]

/-- A replica that has cut off its uncommitted entries. -/
def cutOff (replica : RaftReplica) : RaftReplica :=
  { replica with
    store := replica.store.executeAll (discardStatements replica) }

section Led

variable {agreed : List LogEntry} {bound : Int} {shard : Shard count}
  {leader : Fin count}

theorem Coherent.index_proposal
    (coherent : Coherent agreed bound shard) (leader : Fin count)
    (command key value : Bytes) :
    (shard.proposal leader command key value).index =
      (shard.replicas leader).store.log.length + 1 := by
  unfold proposal
  rw [lastLogIndex_eq
    (coherent.wellFormed leader).wellFormedLog.contiguous]

theorem Coherent.log_appended
    (coherent : Coherent agreed bound shard) {entry : LogEntry}
    (nextIndex :
      entry.index = (shard.replicas leader).store.log.length + 1) :
    (shard.appended leader entry).store.log =
      (shard.replicas leader).store.log ++ [entry.stored] :=
  log_appendLog (coherent.wellFormed leader).wellFormedLog.contiguous
    nextIndex

/-- The log of a leader is the agreed log and its tail. -/
theorem Leads.log_eq (leads : Leads agreed bound shard leader) :
    (shard.replicas leader).store.log =
      agreed ++ (shard.replicas leader).store.uncommitted := by
  rw [← leads.complete, committed_append_uncommitted]

private theorem follower_level
    (coherent : Coherent agreed bound shard)
    (leads : Leads agreed bound shard leader) {position : Fin count}
    (online : (shard.replicas position).online = true)
    (different : position ≠ leader) :
    (shard.replicas position).commitIndex =
        (shard.replicas leader).commitIndex ∧
      (shard.replicas position).store.lastLogIndex =
        (shard.replicas leader).commitIndex := by
  obtain ⟨log, complete⟩ := leads.followers position different online
  have leaderCommit :
      (shard.replicas leader).commitIndex = agreed.length :=
    (coherent.inStep leader).commit.trans
      (coherent.agree.commitIndex_eq leads.complete)
  have followerCommit :
      (shard.replicas position).commitIndex = agreed.length :=
    (coherent.inStep position).commit.trans
      (coherent.agree.commitIndex_eq complete)
  refine ⟨followerCommit.trans leaderCommit.symm, ?_⟩
  rw [lastLogIndex_eq (coherent.wellFormed position).wellFormedLog.contiguous,
    log, leaderCommit]

/-- The answer of a follower: it acknowledges exactly when the leader has no
tail. -/
private theorem follower_answer
    (coherent : Coherent agreed bound shard)
    (leads : Leads agreed bound shard leader)
    {entry : LogEntry}
    (nextIndex :
      entry.index = (shard.replicas leader).store.log.length + 1)
    (extends_ :
      WellFormedLog
        ((shard.replicas leader).store.log ++ [entry.stored]))
    {position : Fin count}
    (online : (shard.replicas position).online = true)
    (different : position ≠ leader) :
    RaftReplica.appendEntries
        (shard.replicas leader).currentTerm (shard.replicas leader).id
        (entry.index - 1)
        ((shard.appended leader entry).termAt (entry.index - 1))
        [entry] (shard.replicas leader).commitIndex
        (shard.replicas position) =
      ⟨.ok (decide ((shard.replicas leader).store.uncommitted = [])),
        shard.sent leader entry position,
        shard.sentStatements leader entry position⟩ := by
  obtain ⟨log, _⟩ := leads.followers position different online
  have contiguous :=
    (coherent.wellFormed position).wellFormedLog.contiguous
  have notOlder :
      (shard.replicas position).currentTerm ≤
        (shard.replicas leader).currentTerm := by
    rw [leads.term]
    exact leads.highest position
  have prevIndex :
      entry.index - 1 =
        ((shard.replicas leader).store.log.length : Int) := by
    omega
  rw [prevIndex]
  by_cases noTail : (shard.replicas leader).store.uncommitted = []
  · have sameLog :
        (shard.replicas leader).store.log =
          (shard.replicas position).store.log := by
      rw [leads.log_eq, noTail, List.append_nil, log]
    have previous :=
      RaftReplica.termAt_congr contiguous
        (by
          rw [coherent.log_appended nextIndex]
          exact extends_.contiguous :
          OrderedTable.Contiguous LogEntry.index
            (shard.appended leader entry).store.log)
        (by
          rw [coherent.log_appended nextIndex, sameLog]
          exact List.prefix_append _ _)
    rw [sameLog] at nextIndex ⊢
    rw [RaftReplica.appendEntries_appended online notOlder contiguous
      previous nextIndex
      (follower_level coherent leads online different).1.ge]
    simp only [sent, sentStatements, noTail, if_true, decide_true,
      List.singleton_append]
  · have beyond :
        ((shard.replicas position).store.log.length : Int) <
          (shard.replicas leader).store.log.length := by
      have positive := List.length_pos_of_ne_nil noTail
      rw [log, leads.log_eq, List.length_append]
      push_cast
      omega
    rw [RaftReplica.appendEntries_refused online notOlder contiguous beyond]
    simp only [sent, sentStatements, noTail, if_false, decide_false,
      List.nil_append]

/-- The entry does not change who follows the leader. -/
private theorem follows_appended
    (shard : Shard count) (leader : Fin count) (entry : LogEntry) :
    (shard.withReplica leader (shard.appended leader entry)).follows leader =
      shard.follows leader := by
  funext position
  unfold follows
  rw [withReplica_self]
  by_cases same : position = leader
  · subst same
    rw [withReplica_self]
    rfl
  · rw [withReplica_of_ne shard _ same]
    rfl

/-- The replication loop of a leader. -/
private theorem replicateTo_led
    (coherent : Coherent agreed bound shard)
    (leads : Leads agreed bound shard leader)
    {entry : LogEntry}
    (nextIndex :
      entry.index = (shard.replicas leader).store.log.length + 1)
    (extends_ :
      WellFormedLog
        ((shard.replicas leader).store.log ++ [entry.stored])) :
    replicateTo leader entry (entry.index - 1)
        ((shard.appended leader entry).termAt (entry.index - 1))
        (List.finRange count)
        (shard.withReplica leader (shard.appended leader entry)) =
      ⟨.ok (shard.acknowledging leader),
        (shard.withReplica leader
          (shard.appended leader entry)).overwrite
            (shard.otherOnline leader) (shard.sent leader entry),
        blocks (shard.sentStatements leader entry)
          (shard.otherOnline leader)⟩ := by
  have followsSame := follows_appended shard leader entry
  have isFollower {position : Fin count}
      (follower : shard.follows leader position = true) :
      (shard.replicas position).online = true ∧ position ≠ leader := by
    refine coherent.mem_otherOnline.mp ?_
    rw [← filter_follows]
    exact List.mem_filter.mpr ⟨List.mem_finRange position, follower⟩
  refine (replicateTo_apply
    (decide ((shard.replicas leader).store.uncommitted = []))
    (shard.sent leader entry) (shard.sentStatements leader entry)
    (List.nodup_finRange count) ?_ ?_).trans ?_
  · intro position _ follower
    rw [followsSame] at follower
    obtain ⟨online, different⟩ := isFollower follower
    rw [withReplica_self, withReplica_of_ne shard _ different]
    exact follower_level coherent leads online different
  · intro position _ follower
    rw [followsSame] at follower
    obtain ⟨online, different⟩ := isFollower follower
    rw [withReplica_self, withReplica_of_ne shard _ different]
    exact follower_answer coherent leads nextIndex extends_ online
      different
  · rw [followsSame, filter_follows]
    unfold acknowledging
    simp only [decide_eq_true_eq]

/-- The state when the leader has closed a write. -/
private theorem written_eq
    (coherent : Coherent agreed bound shard) (entry : LogEntry)
    (close : RaftReplica → RaftReplica) :
    (((shard.withReplica leader (shard.appended leader entry)).overwrite
        (shard.otherOnline leader) (shard.sent leader entry)).withReplica
          leader (close (shard.appended leader entry))).overwrite
        (shard.acknowledging leader)
        (fun position => close (shard.sent leader entry position)) =
      shard.written leader entry close := by
  have notOther : leader ∉ shard.otherOnline leader := fun member =>
    (coherent.mem_otherOnline.mp member).2 rfl
  have notAcknowledging : leader ∉ shard.acknowledging leader := by
    unfold acknowledging
    split
    · exact notOther
    · exact List.not_mem_nil
  unfold written overwrite withReplica
  congr 1
  funext position
  by_cases isLeader : position = leader
  · subst isLeader
    simp [notAcknowledging]
  · simp [isLeader]

theorem acknowledging_subset
    (coherent : Coherent agreed bound shard) {position : Fin count}
    (member : position ∈ shard.acknowledging leader) :
    position ∈ shard.otherOnline leader ∧ position ≠ leader ∧
      (shard.replicas leader).store.uncommitted = [] := by
  unfold acknowledging at member
  split at member
  case isTrue noTail =>
    exact ⟨member, (coherent.mem_otherOnline.mp member).2, noTail⟩
  case isFalse =>
    exact absurd member List.not_mem_nil

theorem nodup_acknowledging (shard : Shard count) (leader : Fin count) :
    (shard.acknowledging leader).Nodup := by
  unfold acknowledging
  split
  · exact (nodup_onlineReplicas shard).filter _
  · exact List.nodup_nil

/-- The followers that acknowledged close the write as the leader did. -/
private theorem closes_overwrite
    (coherent : Coherent agreed bound shard) (entry : LogEntry)
    (close : RaftReplica → RaftReplica)
    (closeStatements : RaftReplica → List Statement)
    (body : Fin count → ShardCall count Unit)
    (closes :
      ∀ position ∈ shard.acknowledging leader, ∀ reached : Shard count,
        reached.replicas position = shard.sent leader entry position →
        reached.replicas leader = close (shard.appended leader entry) →
        body position reached =
          ⟨.ok (),
            reached.withReplica position
              (close (shard.sent leader entry position)),
            (closeStatements (shard.sent leader entry position)).map
              (.executed position)⟩) :
    Overwrites
      (((shard.withReplica leader (shard.appended leader entry)).overwrite
        (shard.otherOnline leader) (shard.sent leader entry)).withReplica
          leader (close (shard.appended leader entry)))
      (shard.acknowledging leader)
      (fun position => close (shard.sent leader entry position))
      (fun position =>
        closeStatements (shard.sent leader entry position))
      (fun _ => ()) body := by
  intro position member reached samePosition sameOthers
  obtain ⟨isOther, different, _⟩ := acknowledging_subset coherent member
  apply closes position member
  · rw [samePosition, withReplica_of_ne _ _ different,
      overwrite_of_mem _ _ isOther]
  · have outside : leader ∉ shard.acknowledging leader := fun inside =>
      (acknowledging_subset coherent inside).2.1 rfl
    rw [sameOthers leader outside, withReplica_self]

private theorem appendLocal_led
    (leads : Leads agreed bound shard leader)
    (command key value : Bytes) :
    onReplica leader (RaftReplica.appendLocal command key value) shard =
      ⟨.ok (shard.proposal leader command key value),
        shard.withReplica leader
          (shard.appended leader
            (shard.proposal leader command key value)),
        [.executed leader
          (.appendLog (shard.proposal leader command key value))]⟩ :=
  onReplica_apply <|
    RaftReplica.appendLocal_apply command key value leads.online leads.role

private theorem sending_leader
    (coherent : Coherent agreed bound shard) (entry : LogEntry) :
    ((shard.withReplica leader (shard.appended leader entry)).overwrite
        (shard.otherOnline leader) (shard.sent leader entry)).replicas
          leader =
      shard.appended leader entry := by
  have notOther : leader ∉ shard.otherOnline leader := fun member =>
    (coherent.mem_otherOnline.mp member).2 rfl
  rw [overwrite_of_not_mem _ _ notOther, withReplica_self]

/-- A leader counts the followers that are asked and do not acknowledge. -/
theorem failuresOf_led
    (coherent : Coherent agreed bound shard)
    (leads : Leads agreed bound shard leader)
    (command key value : Bytes)
    (extends_ :
      WellFormedLog
        ((shard.replicas leader).store.log ++
          [(shard.proposal leader command key value).stored])) :
    (failuresOf leader command key value shard).result =
      .ok
        ((shard.otherOnline leader).length -
          (shard.acknowledging leader).length) := by
  generalize entryEq :
    shard.proposal leader command key value = entry at *
  have nextIndex := coherent.index_proposal leader command key value
  rw [entryEq] at nextIndex
  have appends := appendLocal_led leads command key value
  rw [entryEq] at appends
  have replicates := replicateTo_led coherent leads nextIndex extends_
  have asked :
      (shard.withReplica leader
          (shard.appended leader entry)).askedFollowers leader =
        shard.otherOnline leader := by
    rw [← filter_follows, ← follows_appended]
    rfl
  unfold failuresOf
  simp only [Journaled.bind_apply, Journaled.read_apply, appends,
    Outcome.andThen_ok, Outcome.prepend_mk, withReplica_self, replicates,
    Journaled.pure_apply, asked]

/-- A write that a majority does not acknowledge. -/
theorem replicateLed_rejected
    (coherent : Coherent agreed bound shard)
    (leads : Leads agreed bound shard leader)
    (command key value : Bytes) (result : OperationResult)
    (extends_ :
      WellFormedLog
        ((shard.replicas leader).store.log ++
          [(shard.proposal leader command key value).stored]))
    (tooFew :
      1 + (shard.acknowledging leader).length < majority count) :
    replicateLed leader command key value result shard =
      ⟨.ok { result with
          status := 503
          message := bytes "write rejected because a majority could not acknowledge the log entry" },
        shard.written leader
          (shard.proposal leader command key value) cutOff,
        shard.writeJournal leader
          (shard.proposal leader command key value)
          discardStatements⟩ := by
  generalize entryEq :
    shard.proposal leader command key value = entry at *
  have nextIndex := coherent.index_proposal leader command key value
  rw [entryEq] at nextIndex
  have appends := appendLocal_led leads command key value
  rw [entryEq] at appends
  have replicates := replicateTo_led coherent leads nextIndex extends_
  have discards :
      onReplica leader RaftReplica.discardUncommitted
          ((shard.withReplica leader
            (shard.appended leader entry)).overwrite
              (shard.otherOnline leader) (shard.sent leader entry)) =
        ⟨.ok (),
          ((shard.withReplica leader
            (shard.appended leader entry)).overwrite
              (shard.otherOnline leader)
              (shard.sent leader entry)).withReplica leader
                (cutOff (shard.appended leader entry)),
          (discardStatements (shard.appended leader entry)).map
            (.executed leader)⟩ := by
    apply onReplica_apply
    rw [sending_leader coherent]
    rfl
  have closes :=
    forEach_overwrites (nodup_acknowledging shard leader)
      (closes_overwrite coherent entry cutOff discardStatements
        (fun follower =>
          onReplica follower RaftReplica.discardUncommitted)
        (by
          intro position _ reached samePosition _
          apply onReplica_apply
          rw [samePosition]
          rfl))
  rw [written_eq coherent] at closes
  unfold replicateLed
  simp only [Journaled.bind_apply, Journaled.read_apply, appends,
    Outcome.andThen_ok, Outcome.prepend_mk, withReplica_self, replicates,
    Journaled.ite_apply, if_pos tooFew, discards, closes,
    Journaled.pure_apply, List.append_nil, List.nil_append]
  rfl

/-- A follower that acknowledged has the leader's log. -/
theorem log_sent
    (coherent : Coherent agreed bound shard)
    (leads : Leads agreed bound shard leader)
    {entry : LogEntry}
    (nextIndex :
      entry.index = (shard.replicas leader).store.log.length + 1)
    {position : Fin count}
    (acknowledges : position ∈ shard.acknowledging leader) :
    (shard.sent leader entry position).store.log =
      (shard.replicas leader).store.log ++ [entry.stored] := by
  obtain ⟨isOther, different, noTail⟩ :=
    acknowledging_subset coherent acknowledges
  have online := (coherent.mem_otherOnline.mp isOther).1
  have log := (leads.followers position different online).1
  have sameLog :
      (shard.replicas leader).store.log =
        (shard.replicas position).store.log := by
    rw [leads.log_eq, noTail, List.append_nil, log]
  rw [sameLog] at nextIndex ⊢
  have contiguous :=
    (coherent.wellFormed position).wellFormedLog.contiguous
  rw [← log_appendLog contiguous nextIndex]
  unfold sent sentStatements
  simp only [if_pos noTail]
  rfl

private theorem lastApplied_eq
    (coherent : Coherent agreed bound shard) (position : Fin count) :
    (shard.replicas position).lastApplied =
      ((shard.replicas position).commitIndex.toNat : Int) := by
  have inStep := coherent.inStep position
  have commit := inStep.commit
  have nonneg := (coherent.wellFormed position).commitNonneg
  rw [inStep.caughtUp]
  omega

/-- The heartbeat commits the row on a follower that acknowledged it. -/
private theorem heartbeat
    (coherent : Coherent agreed bound shard)
    (leads : Leads agreed bound shard leader)
    {entry : LogEntry}
    (nextIndex :
      entry.index = (shard.replicas leader).store.log.length + 1)
    (extends_ :
      WellFormedLog
        ((shard.replicas leader).store.log ++ [entry.stored]))
    {position : Fin count}
    (acknowledges : position ∈ shard.acknowledging leader) :
    RaftReplica.appendEntries
        (shard.replicas leader).currentTerm (shard.replicas leader).id
        entry.index entry.term [] entry.index
        (shard.sent leader entry position) =
      ⟨.ok true, committedAll (shard.sent leader entry position),
        commitStatements (shard.sent leader entry position)⟩ := by
  obtain ⟨isOther, different, _⟩ :=
    acknowledging_subset coherent acknowledges
  have online : (shard.sent leader entry position).online = true :=
    (coherent.mem_otherOnline.mp isOther).1
  have log := log_sent coherent leads nextIndex acknowledges
  have wellFormed :
      WellFormedLog (shard.sent leader entry position).store.log := by
    rw [log]
    exact extends_
  have length :
      ((shard.sent leader entry position).store.log.length : Int) =
        entry.index := by
    rw [log, nextIndex, List.length_append, List.length_singleton]
    push_cast
    rfl
  have previous :
      (shard.sent leader entry position).termAt
          (shard.sent leader entry position).store.log.length =
        entry.term := by
    rw [RaftReplica.termAt_natCast wellFormed.contiguous, log]
    simp
  have inStep := coherent.inStep position
  have level := follower_level coherent leads
    (coherent.mem_otherOnline.mp isOther).1 different
  have leaderCommit :
      (shard.replicas leader).commitIndex ≤
        (shard.replicas leader).store.log.length := by
    rw [(coherent.inStep leader).commit]
    exact (coherent.wellFormed leader).commitLe
  have applied :
      (shard.sent leader entry position).lastApplied =
        ((shard.sent leader entry position).commitIndex.toNat : Int) :=
    lastApplied_eq coherent position
  have caughtUp :
      (shard.sent leader entry position).lastApplied =
        (shard.sent leader entry position).commitIndex :=
    inStep.caughtUp
  have behind :
      (shard.sent leader entry position).commitIndex.toNat <
        (shard.sent leader entry position).store.log.length := by
    change (shard.replicas position).commitIndex.toNat < _
    omega
  have commits :
      RaftReplica.appendEntries
          (shard.replicas leader).currentTerm (shard.replicas leader).id
          (shard.sent leader entry position).store.log.length entry.term []
          (shard.sent leader entry position).store.log.length
          (shard.sent leader entry position) =
        _ :=
    RaftReplica.appendEntries_committed online
      (le_refl (shard.sent leader entry position).currentTerm)
      wellFormed previous applied caughtUp behind
  rw [length] at commits
  rw [commits]
  unfold committedAll commitStatements
  rw [length]
  rfl

/-- The leader commits everything up to the row it appended. -/
private theorem commitTo_appended
    (coherent : Coherent agreed bound shard)
    (leads : Leads agreed bound shard leader)
    {entry : LogEntry}
    (nextIndex :
      entry.index = (shard.replicas leader).store.log.length + 1)
    (extends_ :
      WellFormedLog
        ((shard.replicas leader).store.log ++ [entry.stored])) :
    RaftReplica.commitTo entry.index (shard.appended leader entry) =
      ⟨.ok (), committedAll (shard.appended leader entry),
        commitStatements (shard.appended leader entry)⟩ := by
  have log := coherent.log_appended nextIndex
  have length :
      ((shard.appended leader entry).store.log.length : Int) =
        entry.index := by
    rw [log, nextIndex, List.length_append, List.length_singleton]
    push_cast
    rfl
  have inStep := coherent.inStep leader
  have commit := inStep.commit
  have commitLe := (coherent.wellFormed leader).commitLe
  have within :
      (shard.appended leader entry).commitIndex.toNat ≤
        (shard.appended leader entry).store.log.length := by
    change (shard.replicas leader).commitIndex.toNat ≤ _
    omega
  have applied :
      (shard.appended leader entry).lastApplied =
        ((shard.appended leader entry).commitIndex.toNat : Int) :=
    lastApplied_eq coherent leader
  have online : (shard.appended leader entry).online = true :=
    leads.online
  have whole :=
    RaftReplica.commitTo_apply online (by rw [log]; exact extends_)
      applied inStep.caughtUp within
  rw [length] at whole
  rw [whole]
  unfold committedAll commitStatements
  rw [length]

/-- A write that a majority acknowledges. -/
theorem replicateLed_committed
    (coherent : Coherent agreed bound shard)
    (leads : Leads agreed bound shard leader)
    (command key value : Bytes) (result : OperationResult)
    (extends_ :
      WellFormedLog
        ((shard.replicas leader).store.log ++
          [(shard.proposal leader command key value).stored]))
    (enough :
      ¬ 1 + (shard.acknowledging leader).length < majority count) :
    replicateLed leader command key value result shard =
      ⟨.ok { result with
          ok := true
          status := if command = deleteCommand then 200 else 201
          message :=
            if command = deleteCommand then bytes "deleted"
            else bytes "stored" },
        shard.written leader
          (shard.proposal leader command key value) committedAll,
        shard.writeJournal leader
          (shard.proposal leader command key value)
          commitStatements⟩ := by
  generalize entryEq :
    shard.proposal leader command key value = entry at *
  have nextIndex := coherent.index_proposal leader command key value
  rw [entryEq] at nextIndex
  have appends := appendLocal_led leads command key value
  rw [entryEq] at appends
  have replicates := replicateTo_led coherent leads nextIndex extends_
  have leaderCommits :
      onReplica leader (RaftReplica.commitTo entry.index)
          ((shard.withReplica leader
            (shard.appended leader entry)).overwrite
              (shard.otherOnline leader) (shard.sent leader entry)) =
        ⟨.ok (),
          ((shard.withReplica leader
            (shard.appended leader entry)).overwrite
              (shard.otherOnline leader)
              (shard.sent leader entry)).withReplica leader
                (committedAll (shard.appended leader entry)),
          (commitStatements (shard.appended leader entry)).map
            (.executed leader)⟩ := by
    apply onReplica_apply
    rw [sending_leader coherent]
    exact commitTo_appended coherent leads nextIndex extends_
  have closes :=
    forEach_overwrites (nodup_acknowledging shard leader)
      (closes_overwrite coherent entry committedAll commitStatements
        (fun follower => do
          let shard ← Journaled.read
          let _ ← onReplica follower
            (RaftReplica.appendEntries
              (shard.replicas leader).currentTerm
              (shard.replicas leader).id
              entry.index entry.term [] entry.index))
        (by
          intro position acknowledges reached samePosition sameLeader
          have called :
              onReplica position
                  (RaftReplica.appendEntries
                    (reached.replicas leader).currentTerm
                    (reached.replicas leader).id
                    entry.index entry.term [] entry.index) reached =
                ⟨.ok true,
                  reached.withReplica position
                    (committedAll (shard.sent leader entry position)),
                  (commitStatements
                    (shard.sent leader entry position)).map
                      (.executed position)⟩ := by
            apply onReplica_apply
            rw [sameLeader, samePosition]
            exact heartbeat coherent leads nextIndex extends_ acknowledges
          simp only [Journaled.bind_apply, Journaled.read_apply,
            Outcome.andThen_ok, called, Journaled.pure_apply,
            Outcome.prepend_mk, List.append_nil, List.nil_append]))
  rw [written_eq coherent] at closes
  unfold replicateLed
  simp only [Journaled.bind_apply, Journaled.read_apply, appends,
    Outcome.andThen_ok, Outcome.prepend_mk, withReplica_self, replicates,
    Journaled.ite_apply, if_neg enough, leaderCommits, closes,
    Journaled.pure_apply, List.append_nil, List.nil_append]
  rfl

end Led

end Shard

end ShardedKvStore

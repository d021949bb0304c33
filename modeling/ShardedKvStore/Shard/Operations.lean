import ShardedKvStore.Shard.Written

/-!
# The operations of a shard

Every operation starts with `ensure_leader_locked`.  `Prepared` says what it
leaves when there is a leader afterwards; the operations are then specified from
that state on.
-/

namespace ShardedKvStore.Shard

open Foundation
open SqliteStore

variable {count : Nat}

/-- The replica that leads an operation: the current leader, or else the
candidate of the election the operation starts with. -/
def leading (shard : Shard count) : Option (Fin count) :=
  match shard.currentLeader with
  | some leader => some leader
  | none => shard.candidate

/-- There is a leader, or a majority that can elect one. -/
def Available (shard : Shard count) : Prop :=
  shard.currentLeader.isSome = true ∨
    majority count ≤
      tally fun position => (shard.replicas position).online

/-- A crash that leaves the files as they are. -/
theorem crashPoint_refl
    {agreed : List LogEntry} {bound : Int} {durable : Durable count}
    (agree : DurableAgree agreed bound durable)
    (Row : LogEntry → Prop) (Torn : Prop) :
    CrashPoint Row Torn agreed durable durable :=
  ⟨agreed, bound, agree, List.prefix_refl _,
    fun _ _ => .evolved (.kept _)⟩

/-! ## Finding a leader -/

/-- `ensure_leader_locked` found or elected a leader. -/
structure Prepared
    (agreed : List LogEntry) (shard : Shard count) (elections : List Int)
    (bound : Int) (settled : Shard count) (leader : Fin count)
    (journal : List (ShardEvent count)) (elections' : List Int) :
    Prop where
  runs : ensureLeader shard = ⟨.ok true, settled, journal⟩
  operational : Operational agreed bound settled
  leads : Leads agreed bound settled leader
  agree : DurableAgree agreed bound ⟨settled.files, elections'⟩
  durable :
    Durable.after ⟨shard.files, elections⟩ journal =
      ⟨settled.files, elections'⟩
  evolves :
    ∀ position,
      Contents.Evolves agreed (shard.contents position)
        (settled.contents position)
  isLeading : shard.leading = some leader
  sameLeader : settled.contents leader = shard.contents leader
  online :
    ∀ position,
      (settled.replicas position).online =
        (shard.replicas position).online
  shardId : settled.shardId = shard.shardId
  crashSafe :
    ∀ Row Torn,
      CrashSafe Durable.perform
        (CrashPoint Row Torn agreed ⟨shard.files, elections⟩)
        ⟨shard.files, elections⟩ journal

section Prepare

variable {agreed : List LogEntry} {bound : Int} {shard : Shard count}
  {elections : List Int}

/-- A journal leads from the files before an operation to the files after it. -/
theorem durable_eq
    {Value : Type} {call : ShardCall count Value}
    (journals : Journals call) {outcome : Except KvError Value}
    {after : Shard count} {journal : List (ShardEvent count)}
    (runs : call shard = ⟨outcome, after, journal⟩)
    (elections : List Int) :
    Durable.after ⟨shard.files, elections⟩ journal =
      ⟨after.files,
        (Durable.after ⟨shard.files, elections⟩ journal).elections⟩ := by
  have mirrors := journals shard
  rw [runs] at mirrors
  have files := Durable.after_files ⟨shard.files, elections⟩ journal
  rw [← mirrors] at files
  rw [← files]

/-- A leader that is there is kept. -/
theorem ensureLeader_led
    {leader : Fin count} (found : shard.currentLeader = some leader) :
    ensureLeader shard = ⟨.ok true, shard, []⟩ := by
  unfold ensureLeader
  simp only [Journaled.bind_apply, Journaled.read_apply,
    Outcome.andThen_ok, Journaled.ite_apply, found, Option.isSome_some,
    if_true, Journaled.pure_apply, Outcome.prepend_mk, List.append_nil]

theorem Operational.prepared_of_leader
    (operational : Operational agreed bound shard) {leader : Fin count}
    (found : shard.currentLeader = some leader)
    (agree : DurableAgree agreed bound ⟨shard.files, elections⟩) :
    Prepared agreed shard elections bound shard leader [] elections where
  runs := ensureLeader_led found
  operational := operational
  leads := operational.leads_of_currentLeader found
  agree := agree
  durable := rfl
  evolves := fun _ => .kept _
  isLeading := by
    unfold leading
    rw [found]
  sameLeader := rfl
  online := fun _ => rfl
  shardId := rfl
  crashSafe := fun Row Torn =>
    crashSafe_nil.mpr (crashPoint_refl agree Row Torn)

theorem Electable.prepared
    (electable : Electable agreed bound shard)
    (agree : DurableAgree agreed bound ⟨shard.files, elections⟩) :
    ∃ settled leader journal,
      Prepared agreed shard elections shard.nextTerm settled leader
        journal (shard.nextTerm :: elections) := by
  obtain ⟨candidate, wins⟩ := electable.exists_wins
  have coherent := electable.coherent
  have runs := ensureLeader_elects electable wins
  have operational := electable.operational_elected wins
  have elects :=
    after_electionJournal shard agreed candidate ⟨shard.files, elections⟩
  have durable := durable_eq journals_ensureLeader runs elections
  rw [elects] at durable
  have agree' :
      DurableAgree agreed shard.nextTerm
        ⟨(shard.elected agreed candidate).files,
          shard.nextTerm :: elections⟩ :=
    agree.of_elected operational.coherent.agree coherent.bound_lt_nextTerm
      rfl
  refine ⟨shard.elected agreed candidate, candidate,
    shard.electionJournal agreed candidate,
    { runs := runs
      operational := operational
      leads := operational.leads_of_currentLeader ?_
      agree := agree'
      durable := durable
      evolves := coherent.evolves_elected candidate
      isLeading := ?_
      sameLeader := ?_
      online := settled_online_eq shard agreed candidate
      shardId := rfl
      crashSafe := electable.crashSafe_election wins agree }⟩
  · refine currentLeader_eq_some operational.coherent ?_ ?_
    · exact (settled_id shard agreed candidate candidate).symm
    · exact (settled_online_eq shard agreed candidate candidate).trans
        wins.online
  · unfold leading
    rw [electable.noLeader]
    exact wins.chosen
  · change (shard.settled agreed candidate candidate).store.contents = _
    rw [settled_candidate]
    exact (coherent.kept_voted candidate candidate).contents

/-- Without a leader a majority can elect one. -/
theorem Operational.electable
    (operational : Operational agreed bound shard)
    (noLeader : shard.currentLeader = none)
    (quorum :
      Foundation.majority count ≤
        tally fun position => (shard.replicas position).online) :
    Electable agreed bound shard where
  coherent := operational.coherent
  noLeader := noLeader
  quorum := quorum
  holder := operational.exists_online_holder quorum
  offlineTerms := fun position _ => operational.ownTerms position

/-- With a leader or a majority online there is a leader afterwards. -/
theorem Operational.prepared
    (operational : Operational agreed bound shard)
    (agree : DurableAgree agreed bound ⟨shard.files, elections⟩)
    (available : shard.Available) :
    ∃ bound' settled leader journal elections',
      Prepared agreed shard elections bound' settled leader journal
        elections' := by
  cases found : shard.currentLeader with
  | some leader =>
      exact ⟨bound, shard, leader, [], elections,
        operational.prepared_of_leader found agree⟩
  | none =>
      have quorum := available.resolve_left (by
        rw [found]
        exact Bool.false_ne_true)
      obtain ⟨settled, leader, journal, prepared⟩ :=
        (operational.electable found quorum).prepared agree
      exact ⟨_, settled, leader, journal, _, prepared⟩

/-- Without a leader and without a majority nothing happens. -/
theorem Operational.ensureLeader_fails
    (operational : Operational agreed bound shard)
    (notAvailable : ¬ shard.Available) :
    ensureLeader shard = ⟨.ok false, shard, []⟩ := by
  obtain ⟨isNone, notMajority⟩ := not_or.mp notAvailable
  have noName :=
    operational.leaderId_of_noLeader (by simpa using isNone)
  have minority := not_le.mp notMajority
  rw [← length_onlineReplicas] at minority
  have cleared : ({ shard with leaderId := [] } : Shard count) = shard := by
    rw [← noName]
  unfold ensureLeader setLeaderId
  simp only [Journaled.bind_apply, Journaled.read_apply,
    Outcome.andThen_ok, Journaled.ite_apply, if_neg isNone,
    if_pos minority, Journaled.modify_apply, cleared,
    Journaled.pure_apply, Outcome.prepend_mk, List.append_nil]

end Prepare

/-! ## Completed operations -/

/-- Whether the events so far leave the leading replica with an entry that is
applied but not committed. -/
def tornCommit (shard : Shard count) (events : List (ShardEvent count)) :
    Bool :=
  match shard.leading with
  | some leader => events.foldl (noteEvent leader) false
  | none => false

/-- How a completed operation changes the contents of the databases, and the
agreed log it leaves. -/
inductive Changes
    (Row : LogEntry → Prop) (agreed : List LogEntry)
    (before after : Fin count → Contents) : List LogEntry → Prop
  | kept
      (each :
        ∀ position, ∃ middle,
          Contents.Evolves agreed (before position) middle ∧
            (after position = middle ∨
              middle.committed = agreed ∧
                after position = middle.discard)) :
      Changes Row agreed before after agreed
  | committed (row : LogEntry) (tail : List LogEntry)
      (isRow : Row row)
      (each :
        ∀ position, ∃ middle,
          Contents.Evolves agreed (before position) middle ∧
            (after position = middle ∨
              middle.committed = agreed ∧ middle.tail = tail ∧
                after position = middle.commit row)) :
      Changes Row agreed before after (agreed ++ (tail ++ [row]))

/-- What elections, discards and commits keep, a completed operation keeps. -/
theorem Changes.preserves
    {Row : LogEntry → Prop} {agreed agreed' : List LogEntry}
    {before after : Fin count → Contents}
    (changes : Changes Row agreed before after agreed')
    (holds : Contents → Prop)
    (evolved :
      ∀ {contents contents'},
        Contents.Evolves agreed contents contents' →
          holds contents → holds contents')
    (discarded : ∀ {contents}, holds contents → holds contents.discard)
    (committed :
      ∀ {contents} row, holds contents → holds (contents.commit row))
    (position : Fin count) (atFirst : holds (before position)) :
    holds (after position) := by
  cases changes with
  | kept each =>
      obtain ⟨middle, evolves, same | ⟨_, discards⟩⟩ := each position
      · rw [same]
        exact evolved evolves atFirst
      · rw [discards]
        exact discarded (evolved evolves atFirst)
  | committed row tail _ each =>
      obtain ⟨middle, evolves, same | ⟨_, _, commits⟩⟩ := each position
      · rw [same]
        exact evolved evolves atFirst
      · rw [commits]
        exact committed row (evolved evolves atFirst)

/-- What a completed operation leaves, and what a crash may leave of it. -/
structure Completed
    (Row : LogEntry → Prop) (agreed : List LogEntry)
    (shard : Shard count) (elections : List Int)
    (journal : List (ShardEvent count)) (agreed' : List LogEntry)
    (bound' : Int) (after : Shard count) (elections' : List Int) :
    Prop where
  operational : Operational agreed' bound' after
  agree : DurableAgree agreed' bound' ⟨after.files, elections'⟩
  durable :
    Durable.after ⟨shard.files, elections⟩ journal =
      ⟨after.files, elections'⟩
  shardId : after.shardId = shard.shardId
  changes : Changes Row agreed shard.contents after.contents agreed'
  crash :
    ∀ cut,
      CrashPoint Row (shard.tornCommit (journal.take cut) = true) agreed
        ⟨shard.files, elections⟩
        (Durable.after ⟨shard.files, elections⟩ (journal.take cut))

/-- An operation that changes nothing. -/
theorem Operational.completed_refl
    {agreed : List LogEntry} {bound : Int} {shard : Shard count}
    {elections : List Int}
    (operational : Operational agreed bound shard)
    (agree : DurableAgree agreed bound ⟨shard.files, elections⟩)
    (Row : LogEntry → Prop) :
    Completed Row agreed shard elections [] agreed bound shard
      elections where
  operational := operational
  agree := agree
  durable := rfl
  shardId := rfl
  changes := .kept fun position => ⟨_, .kept _, Or.inl rfl⟩
  crash := by
    intro cut
    rw [List.take_nil]
    exact crashPoint_refl agree _ _

theorem Prepared.completed
    {agreed : List LogEntry} {bound : Int} {shard settled : Shard count}
    {elections elections' : List Int} {leader : Fin count}
    {journal : List (ShardEvent count)}
    (prepared :
      Prepared agreed shard elections bound settled leader journal
        elections')
    (Row : LogEntry → Prop) :
    Completed Row agreed shard elections journal agreed bound settled
      elections' where
  operational := prepared.operational
  agree := prepared.agree
  durable := prepared.durable
  shardId := prepared.shardId
  changes := .kept fun position =>
    ⟨_, prepared.evolves position, Or.inl rfl⟩
  crash := fun cut => prepared.crashSafe Row _ cut

/-! ## Writes -/

/-- The row records a command. -/
def Records (command key value : Bytes) (row : LogEntry) : Prop :=
  row.command = command ∧ row.key = cString key ∧ row.value = value

/-- The two commands of the write path. -/
def IsCommand (command : Bytes) : Prop :=
  command = putCommand ∨ command = deleteCommand

section Write

variable {agreed : List LogEntry} {bound : Int} {shard : Shard count}
  {leader : Fin count} {command key value : Bytes}

theorem records_proposal
    (isCommand : IsCommand command) (shard : Shard count)
    (leader : Fin count) (key value : Bytes) :
    Records command key value
      (shard.proposal leader command key value).stored := by
  refine ⟨?_, rfl, rfl⟩
  change cString command = command
  rcases isCommand with isPut | isDelete
  · rw [isPut, LogEntry.cString_putCommand]
  · rw [isDelete, LogEntry.cString_deleteCommand]

/-- The row of a new command extends the log of the leader. -/
theorem Leads.extends_proposal
    (leads : Leads agreed bound shard leader)
    (coherent : Coherent agreed bound shard)
    (isCommand : IsCommand command) (key value : Bytes) :
    WellFormedLog
      ((shard.replicas leader).store.log ++
        [(shard.proposal leader command key value).stored]) := by
  have term :
      (shard.proposal leader command key value).term = bound :=
    leads.term
  refine (coherent.wellFormed leader).wellFormedLog.append_one
    (coherent.index_proposal leader command key value)
    (LogEntry.stored_known isCommand) (LogEntry.stored_stored _) ?_ ?_
  · intro earlier member
    rw [LogEntry.stored_term, term]
    exact (coherent.file leader).termBound earlier member
  · rw [LogEntry.stored_term, term]
    exact coherent.agree.boundNonneg

private theorem length_otherOnline
    (coherent : Coherent agreed bound shard)
    (online : (shard.replicas leader).online = true) :
    1 + (shard.otherOnline leader).length =
      tally fun position => (shard.replicas position).online := by
  have distinct := nodup_onlineReplicas shard
  have member := mem_onlineReplicas.mpr online
  have erased :
      shard.otherOnline leader = shard.onlineReplicas.erase leader := by
    rw [distinct.erase_eq_filter]
    unfold otherOnline
    apply List.filter_congr
    intro position _
    by_cases same : position = leader
    · subst same
      simp
    · have differs :
          (shard.replicas position).id ≠ (shard.replicas leader).id :=
        fun sameId => same (coherent.id_injective sameId)
      simp [same, differs]
  have positive := List.length_pos_of_mem member
  rw [erased, List.length_erase_of_mem member, ← length_onlineReplicas]
  omega

/-- A leader gets its write committed exactly when a majority is online and it
has no tail, or is the only replica. -/
theorem Leads.enough_iff
    (leads : Leads agreed bound shard leader)
    (coherent : Coherent agreed bound shard) :
    ¬ 1 + (shard.acknowledging leader).length < majority count ↔
      (majority count ≤
          tally fun position => (shard.replicas position).online) ∧
        (count = 1 ∨
          (shard.replicas leader).store.uncommitted = []) := by
  have length := length_otherOnline coherent leads.online
  have atMost :=
    tally_le_size fun position => (shard.replicas position).online
  have leaderLt := leader.isLt
  unfold acknowledging majority
  by_cases noTail : (shard.replicas leader).store.uncommitted = []
  · rw [if_pos noTail]
    simp only [noTail, or_true, and_true]
    omega
  · rw [if_neg noTail]
    simp only [noTail, or_false, List.length_nil]
    omega

/-- The contents after a committed write. -/
theorem Leads.contents_committed
    (leads : Leads agreed bound shard leader)
    (coherent : Coherent agreed bound shard) {entry : LogEntry}
    (nextIndex :
      entry.index = (shard.replicas leader).store.log.length + 1)
    (enough :
      ¬ 1 + (shard.acknowledging leader).length < majority count)
    (position : Fin count) :
    (shard.written leader entry committedAll).contents position =
        shard.contents position ∨
      (shard.contents position).committed = agreed ∧
        (shard.contents position).tail =
          (shard.replicas leader).store.uncommitted ∧
        (shard.written leader entry committedAll).contents position =
          (shard.contents position).commit entry.stored := by
  by_cases isLeader : position = leader
  · subst isLeader
    exact Or.inr ⟨leads.complete, rfl,
      (coherent.advanced_leader nextIndex).contents
        (coherent.steady position)⟩
  · rcases leads.committed_files coherent nextIndex enough isLeader with
      ⟨_, log, complete, advanced⟩ | ⟨_, same⟩
    · have followerTail :
          (shard.replicas position).store.uncommitted = [] :=
        uncommitted_of_committed_eq_log (complete.trans log.symm)
      refine Or.inr ⟨complete, ?_,
        advanced.contents (coherent.steady position)⟩
      rw [noTail_of_enough enough isLeader]
      exact followerTail
    · left
      unfold contents
      rw [same]

/-- The contents after a rejected write. -/
theorem Leads.contents_rejected
    (leads : Leads agreed bound shard leader)
    (coherent : Coherent agreed bound shard) {entry : LogEntry}
    (nextIndex :
      entry.index = (shard.replicas leader).store.log.length + 1)
    (extends_ :
      WellFormedLog
        ((shard.replicas leader).store.log ++ [entry.stored]))
    (position : Fin count) :
    (shard.written leader entry cutOff).contents position =
        shard.contents position ∨
      (shard.contents position).committed = agreed ∧
        (shard.written leader entry cutOff).contents position =
          (shard.contents position).discard := by
  rcases leads.rejected_files coherent nextIndex extends_ position with
    ⟨complete, discarded⟩ | ⟨_, kept⟩
  · exact Or.inr
      ⟨complete, discarded.contents (coherent.steady position)⟩
  · exact Or.inl kept.contents

end Write

/-- The leading replica can get a write committed. -/
def Accepts (shard : Shard count) : Prop :=
  (majority count ≤
      tally fun position => (shard.replicas position).online) ∧
    (count = 1 ∨
      ∀ leader, shard.leading = some leader →
        (shard.replicas leader).store.uncommitted = [])

/-- The answer to a write and the agreed log it leaves. -/
inductive WriteAnswer
    (command key value : Bytes) (shard : Shard count)
    (agreed : List LogEntry) : OperationResult → List LogEntry → Prop
  | stored {result : OperationResult} {leader : Fin count}
      {row : LogEntry} :
      shard.Accepts → shard.leading = some leader →
      Records command key value row →
      result.ok = true →
      result.status = (if command = deleteCommand then 200 else 201) →
      WriteAnswer command key value shard agreed result
        (agreed ++
          ((shard.replicas leader).store.uncommitted ++ [row]))
  | rejected {result : OperationResult} :
      ¬ shard.Accepts → result.ok = false → result.status = 503 →
      WriteAnswer command key value shard agreed result agreed

theorem CrashPoint.mono
    {Row Row' : LogEntry → Prop} {Torn Torn' : Prop}
    {agreed : List LogEntry} {before after : Durable count}
    (crash : CrashPoint Row Torn agreed before after)
    (rows : ∀ row, Row row → Row' row)
    (tears : ∀ row, Row row → Torn → Torn') :
    CrashPoint Row' Torn' agreed before after := by
  obtain ⟨agreed', bound', agree, grows, holders⟩ := crash
  exact ⟨agreed', bound', agree, grows, fun position complete =>
    (holders position complete).mono rows tears⟩

section WriteSpec

variable {agreed : List LogEntry} {bound : Int}
  {shard settled : Shard count} {leader : Fin count}
  {elections elections' : List Int}
  {journal : List (ShardEvent count)} {command key value : Bytes}

/-- A crash after the election is a crash of the whole operation. -/
theorem Prepared.crashPoint
    (prepared :
      Prepared agreed shard elections bound settled leader journal
        elections')
    {Row : LogEntry → Prop} {Torn : Prop} {after : Durable count}
    (crash : CrashPoint Row Torn agreed ⟨settled.files, elections'⟩ after) :
    CrashPoint Row Torn agreed ⟨shard.files, elections⟩ after := by
  obtain ⟨agreed', bound', agree, grows, holders⟩ := crash
  exact ⟨agreed', bound', agree, grows, fun position complete =>
    (holders position complete).after_evolving
      (prepared.evolves position)⟩

theorem Prepared.tornCommit_eq
    (prepared :
      Prepared agreed shard elections bound settled leader journal
        elections')
    (events : List (ShardEvent count)) :
    shard.tornCommit events = events.foldl (noteEvent leader) false := by
  unfold tornCommit
  rw [prepared.isLeading]

theorem Prepared.sameTail
    (prepared :
      Prepared agreed shard elections bound settled leader journal
        elections') :
    (settled.replicas leader).store.uncommitted =
      (shard.replicas leader).store.uncommitted :=
  congrArg Contents.tail prepared.sameLeader

/-- What decides a write can be read off the shard before the election. -/
theorem Prepared.accepts_iff
    (prepared :
      Prepared agreed shard elections bound settled leader journal
        elections') :
    ¬ 1 + (settled.acknowledging leader).length < majority count ↔
      shard.Accepts := by
  rw [prepared.leads.enough_iff prepared.operational.coherent]
  unfold Accepts
  simp only [prepared.online, prepared.sameTail, prepared.isLeading,
    Option.some.injEq, forall_eq']

/-- Crash points of a write that follows an election. -/
private theorem crash_after_election
    (prepared :
      Prepared agreed shard elections bound settled leader journal
        elections')
    {writes : List (ShardEvent count)} {Row : LogEntry → Prop}
    (crashSafe :
      ∀ applied,
        CrashSafe (watch Durable.perform (noteEvent leader))
          (fun reached =>
            CrashPoint Row (reached.2 = true) agreed
              ⟨settled.files, elections'⟩ reached.1)
          (⟨settled.files, elections'⟩, applied) writes)
    (cut : Nat) :
    CrashPoint Row
      (shard.tornCommit ((journal ++ writes).take cut) = true) agreed
      ⟨shard.files, elections⟩
      (Durable.after ⟨shard.files, elections⟩
        ((journal ++ writes).take cut)) := by
  have safe :
      CrashSafe (watch Durable.perform (noteEvent leader))
        (fun reached =>
          CrashPoint Row (reached.2 = true) agreed
            ⟨shard.files, elections⟩ reached.1)
        (⟨shard.files, elections⟩, false) (journal ++ writes) := by
    rw [crashSafe_append]
    constructor
    · intro earlier
      rw [foldl_watch]
      exact prepared.crashSafe Row _ earlier
    · rw [foldl_watch]
      change CrashSafe _ _ (Durable.after ⟨shard.files, elections⟩ _, _) _
      rw [prepared.durable]
      exact (crashSafe _).mono fun _ crash => prepared.crashPoint crash
  have reached := safe cut
  rw [foldl_watch] at reached
  rw [prepared.tornCommit_eq]
  exact reached

/-- A write that too few replicas acknowledge. -/
theorem Prepared.rejects
    (prepared :
      Prepared agreed shard elections bound settled leader journal
        elections')
    (isCommand : IsCommand command) (key value : Bytes)
    (tooFew :
      1 + (settled.acknowledging leader).length < majority count) :
    replicateCommand command key value shard =
      ⟨.ok
        { shard := shard.shardId
          leader := (settled.replicas leader).id
          status := 503
          message := bytes "write rejected because a majority could not acknowledge the log entry" },
        settled.written leader
          (settled.proposal leader command key value) cutOff,
        journal ++
          settled.writeJournal leader
            (settled.proposal leader command key value)
            discardStatements⟩ := by
  have coherent := prepared.operational.coherent
  have extends_ :=
    prepared.leads.extends_proposal coherent isCommand key value
  rw [replicateCommand_led command key value prepared.runs
      (prepared.operational.currentLeader_eq prepared.leads),
    replicateLed_rejected coherent prepared.leads command key value _
      extends_ tooFew,
    Outcome.prepend_mk]

/-- A write that enough replicas acknowledge. -/
theorem Prepared.commits
    (prepared :
      Prepared agreed shard elections bound settled leader journal
        elections')
    (isCommand : IsCommand command) (key value : Bytes)
    (enough :
      ¬ 1 + (settled.acknowledging leader).length < majority count) :
    replicateCommand command key value shard =
      ⟨.ok
        { shard := shard.shardId
          leader := (settled.replicas leader).id
          ok := true
          status := if command = deleteCommand then 200 else 201
          message :=
            if command = deleteCommand then bytes "deleted"
            else bytes "stored" },
        settled.written leader
          (settled.proposal leader command key value) committedAll,
        journal ++
          settled.writeJournal leader
            (settled.proposal leader command key value)
            commitStatements⟩ := by
  have coherent := prepared.operational.coherent
  have extends_ :=
    prepared.leads.extends_proposal coherent isCommand key value
  rw [replicateCommand_led command key value prepared.runs
      (prepared.operational.currentLeader_eq prepared.leads),
    replicateLed_committed coherent prepared.leads command key value _
      extends_ enough,
    Outcome.prepend_mk]

/-- A write with a leader. -/
private theorem Prepared.write
    (prepared :
      Prepared agreed shard elections bound settled leader journal
        elections')
    (isCommand : IsCommand command) (key value : Bytes) :
    ∃ result writes agreed' after,
      replicateCommand command key value shard =
          ⟨.ok result, after, journal ++ writes⟩ ∧
        Completed (Records command key value) agreed shard elections
          (journal ++ writes) agreed' bound after elections' ∧
        (∀ position,
          (after.replicas position).online =
            (shard.replicas position).online) ∧
        WriteAnswer command key value shard agreed result agreed' := by
  have operational := prepared.operational
  have coherent := operational.coherent
  have leads := prepared.leads
  have extends_ := leads.extends_proposal coherent isCommand key value
  have nextIndex := coherent.index_proposal leader command key value
  have newest :
      (settled.proposal leader command key value).term = bound :=
    leads.term
  have records := records_proposal isCommand settled leader key value
  have durable {result : OperationResult} {after : Shard count}
      {writes : List (ShardEvent count)}
      (whole :
        replicateCommand command key value shard =
          ⟨.ok result, after, journal ++ writes⟩)
      (noElection :
        (Durable.after ⟨settled.files, elections'⟩ writes).elections =
          elections') :
      Durable.after ⟨shard.files, elections⟩ (journal ++ writes) =
        ⟨after.files, elections'⟩ := by
    have reached :=
      durable_eq (journals_replicateCommand command key value) whole
        elections
    have sameElections :
        (Durable.after ⟨shard.files, elections⟩
          (journal ++ writes)).elections = elections' := by
      rw [Durable.after_append, prepared.durable, noElection]
    rw [sameElections] at reached
    exact reached
  by_cases tooFew :
      1 + (settled.acknowledging leader).length < majority count
  · have runs := prepared.rejects isCommand key value tooFew
    have crashes :=
      leads.crashSafe_rejected coherent nextIndex extends_ elections'
    have after :=
      operational.written_rejected leads nextIndex extends_ newest
    refine ⟨_, _, agreed, _, runs, ?_, ?_, ?_⟩
    · refine
        { operational := after
          agree := prepared.agree.of_sameElections
            after.coherent.agree rfl
          durable := durable runs crashes.finish.1
          shardId := prepared.shardId
          changes := .kept fun position =>
            ⟨_, prepared.evolves position,
              leads.contents_rejected coherent nextIndex extends_
                position⟩
          crash := crash_after_election prepared fun applied => ?_ }
      refine (crashes.watched (noteEvent leader) applied).mono ?_
      rintro ⟨reached, note⟩ ⟨sameElections, each⟩
      refine CrashPoint.mono (crashPoint_of_undecided prepared.agree
        coherent.steady extends_ newest.le sameElections
        fun position => (each position).mono False.elim) ?_
        fun _ _ => id
      rintro row rfl
      exact records
    · intro position
      rw [closes_cutOff.written_online coherent, prepared.online]
    · refine .rejected ?_ rfl rfl
      rw [← prepared.accepts_iff]
      exact not_not_intro tooFew
  · have runs := prepared.commits isCommand key value tooFew
    have crashes (applied : Bool) :=
      leads.crashSafe_committed coherent nextIndex extends_ newest tooFew
        prepared.agree applied
    have after :=
      operational.written_committed leads nextIndex extends_ newest tooFew
    refine ⟨_, _,
      agreed ++
        ((settled.replicas leader).store.uncommitted ++
          [(settled.proposal leader command key value).stored]),
      _, runs, ?_, ?_, ?_⟩
    · refine
        { operational := after
          agree := prepared.agree.of_sameElections
            after.coherent.agree rfl
          durable := durable runs (writeJournal_elections _ _ _ _ _)
          shardId := prepared.shardId
          changes := .committed _ _ records fun position =>
            ⟨_, prepared.evolves position,
              leads.contents_committed coherent nextIndex tooFew
                position⟩
          crash := crash_after_election prepared fun applied => ?_ }
      refine (crashes applied).mono fun reached crash =>
        crash.mono ?_ fun _ _ => id
      rintro row rfl
      exact records
    · intro position
      rw [closes_committedAll.written_online coherent, prepared.online]
    · rw [prepared.sameTail]
      exact .stored (prepared.accepts_iff.mp tooFew) prepared.isLeading
        records rfl rfl

/-- A write without a leader and without a majority. -/
theorem Operational.replicateCommand_unavailable
    (operational : Operational agreed bound shard)
    (notAvailable : ¬ shard.Available) (command key value : Bytes) :
    replicateCommand command key value shard =
      ⟨.ok
        { shard := shard.shardId
          status := 503
          message := bytes "no quorum available" },
        shard, []⟩ := by
  have fails := operational.ensureLeader_fails notAvailable
  unfold replicateCommand
  simp only [Journaled.bind_apply, Journaled.read_apply,
    Outcome.andThen_ok, fails, Journaled.ite_apply, if_true,
    Journaled.pure_apply, Outcome.prepend_mk, List.append_nil]

/-- The specification of a write. -/
theorem Operational.write_spec
    (operational : Operational agreed bound shard)
    (agree : DurableAgree agreed bound ⟨shard.files, elections⟩)
    (isCommand : IsCommand command) (key value : Bytes) :
    ∃ result journal agreed' bound' after elections',
      replicateCommand command key value shard =
          ⟨.ok result, after, journal⟩ ∧
        Completed (Records command key value) agreed shard elections
          journal agreed' bound' after elections' ∧
        (∀ position,
          (after.replicas position).online =
            (shard.replicas position).online) ∧
        WriteAnswer command key value shard agreed result agreed' := by
  by_cases available : shard.Available
  · obtain ⟨bound', settled, leader, journal, elections', prepared⟩ :=
      operational.prepared agree available
    obtain ⟨result, writes, agreed', after, spec⟩ :=
      prepared.write isCommand key value
    exact ⟨result, journal ++ writes, agreed', bound', after, elections',
      spec⟩
  · exact ⟨_, [], agreed, bound, shard, elections,
      operational.replicateCommand_unavailable available command key
        value,
      operational.completed_refl agree _, fun _ => rfl,
      .rejected (fun accepts => available (Or.inr accepts.1)) rfl rfl⟩

end WriteSpec

end ShardedKvStore.Shard

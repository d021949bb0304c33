import ShardedKvStore.Raft

/-!
# Replica calls mirror the database

Every call of a replica changes its database by the statements of its journal
and by nothing else.  A crash after a prefix of the journal therefore leaves the
database that prefix makes, and a completed call leaves the one the whole
journal makes.
-/

namespace ShardedKvStore.RaftReplica

open Foundation

/-! ## Views of a replica -/

/-- A statement on the `kv` or `raft_log` table. -/
def OnData : Statement → Prop
  | .setMeta _ => False
  | .clearAll => False
  | _ => True

/-- A view of a replica that statements on the data change by `perform` and that
does not depend on what is committed and applied. -/
structure Follows {View : Type}
    (view : RaftReplica → View) (perform : View → Statement → View) :
    Prop where
  statement :
    ∀ statement, OnData statement → ∀ replica : RaftReplica,
      view { replica with store := replica.store.execute statement } =
        perform (view replica) statement
  lastApplied :
    ∀ (replica : RaftReplica) (index : Int),
      view { replica with lastApplied := index } = view replica
  commitIndex :
    ∀ (replica : RaftReplica) (index : Int),
      view { replica with commitIndex := index } = view replica

namespace Follows

variable {View : Type} {view : RaftReplica → View}
  {perform : View → Statement → View} (follows : Follows view perform)

include follows

theorem mirrors_execute
    {statement : Statement} (onData : OnData statement) :
    Mirrors view perform (execute statement) :=
  mirrors_perform (follows.statement statement onData)

theorem mirrors_applyEntry (entry : LogEntry) :
    Mirrors view perform (applyEntry entry) := by
  refine mirrors_ite (follows.mirrors_execute trivial) ?_
  exact mirrors_ite (follows.mirrors_execute trivial) (mirrors_fail _)

theorem mirrors_applyUntilMissing (index : Int) (count : Nat) :
    Mirrors view perform (applyUntilMissing index count) := by
  induction count generalizing index with
  | zero =>
      exact mirrors_pure ()
  | succ remaining inductionHypothesis =>
      refine mirrors_bind mirrors_read fun replica => ?_
      split
      · exact mirrors_pure ()
      · refine mirrors_bind (follows.mirrors_applyEntry _) fun _ => ?_
        refine mirrors_bind (mirrors_modify fun replica =>
          follows.lastApplied replica index) fun _ => ?_
        exact inductionHypothesis (index + 1)

theorem mirrors_applyPresent (index : Int) (count : Nat) :
    Mirrors view perform (applyPresent index count) := by
  induction count generalizing index with
  | zero =>
      exact mirrors_pure ()
  | succ remaining inductionHypothesis =>
      refine mirrors_bind mirrors_read fun replica => ?_
      split
      · exact inductionHypothesis (index + 1)
      · refine mirrors_bind (follows.mirrors_applyEntry _) fun _ => ?_
        refine mirrors_bind (mirrors_modify fun replica =>
          follows.lastApplied replica index) fun _ => ?_
        exact inductionHypothesis (index + 1)

theorem mirrors_reconcile (entries : List LogEntry) :
    Mirrors view perform (reconcile entries) := by
  induction entries with
  | nil =>
      exact mirrors_pure ()
  | cons entry rest inductionHypothesis =>
      refine mirrors_bind mirrors_read fun replica => ?_
      have appendRest :
          Mirrors view perform (do
            let replica ← Journaled.read
            if (replica.store.logAt entry.index).isNone then
              execute (.appendLog entry)
            reconcile rest) := by
        refine mirrors_bind mirrors_read fun replica => ?_
        exact mirrors_ite
          (mirrors_bind (follows.mirrors_execute trivial) fun _ =>
            inductionHypothesis)
          inductionHypothesis
      split
      · exact mirrors_ite
          (mirrors_bind (follows.mirrors_execute trivial) fun _ =>
            appendRest)
          appendRest
      · exact appendRest

theorem mirrors_advanceCommit (leaderCommit : Int) :
    Mirrors view perform (advanceCommit leaderCommit) := by
  refine mirrors_bind mirrors_read fun replica => ?_
  refine mirrors_ite ?_ (mirrors_pure _)
  refine mirrors_bind (follows.mirrors_applyUntilMissing _ _) fun _ => ?_
  exact mirrors_modify fun replica => follows.commitIndex replica _

end Follows

/-! ## The database -/

/-- The database of a replica changes only by the journaled statements. -/
abbrev Journals {Value : Type} (call : ReplicaCall Value) : Prop :=
  Mirrors RaftReplica.store SqliteStore.execute call

theorem follows_store :
    Follows RaftReplica.store SqliteStore.execute :=
  ⟨fun _ _ _ => rfl, fun _ _ => rfl, fun _ _ => rfl⟩

theorem journals_execute (statement : Statement) :
    Journals (execute statement) :=
  mirrors_perform fun _ => rfl

theorem journals_setOnline (online : Bool) : Journals (setOnline online) :=
  mirrors_modify fun _ => rfl

theorem journals_setRole (role : Role) : Journals (setRole role) :=
  mirrors_modify fun _ => rfl

theorem journals_persistState : Journals persistState := by
  refine mirrors_bind mirrors_read fun replica => ?_
  refine mirrors_bind (journals_execute _) fun _ => ?_
  refine mirrors_bind (journals_execute _) fun _ => ?_
  refine mirrors_bind (journals_execute _) fun _ => ?_
  exact journals_execute _

theorem journals_requestVote
    (term : Int) (candidateId : Bytes) (lastIndex lastTerm : Int) :
    Journals (requestVote term candidateId lastIndex lastTerm) := by
  refine mirrors_bind mirrors_read fun replica => ?_
  refine mirrors_ite (mirrors_pure _) ?_
  refine mirrors_ite
    (mirrors_bind (mirrors_modify fun _ => rfl) fun _ => ?_) ?_
  all_goals
    refine mirrors_bind mirrors_read fun replica => ?_
    refine mirrors_ite ?_ ?_
    · refine mirrors_bind (mirrors_modify fun _ => rfl) fun _ => ?_
      exact mirrors_bind journals_persistState fun _ => mirrors_pure _
    · exact mirrors_bind journals_persistState fun _ => mirrors_pure _

theorem journals_appendEntries
    (term : Int) (leaderId : Bytes) (prevLogIndex prevLogTerm : Int)
    (entries : List LogEntry) (leaderCommit : Int) :
    Journals
      (appendEntries term leaderId prevLogIndex prevLogTerm
        entries leaderCommit) := by
  refine mirrors_bind mirrors_read fun replica => ?_
  refine mirrors_ite (mirrors_pure _) ?_
  refine mirrors_ite
    (mirrors_bind (mirrors_modify fun _ => rfl) fun _ => ?_) ?_
  all_goals
    refine mirrors_bind (mirrors_modify fun _ => rfl) fun _ => ?_
    refine mirrors_ite ?_ ?_
    · exact mirrors_bind journals_persistState fun _ => mirrors_pure _
    · refine mirrors_bind (follows_store.mirrors_reconcile _) fun _ => ?_
      refine mirrors_bind (follows_store.mirrors_advanceCommit _) fun _ => ?_
      exact mirrors_bind journals_persistState fun _ => mirrors_pure _

theorem journals_appendLocal (command key value : Bytes) :
    Journals (appendLocal command key value) := by
  refine mirrors_bind mirrors_read fun replica => ?_
  refine mirrors_ite (mirrors_fail _) ?_
  exact mirrors_bind (journals_execute _) fun _ => mirrors_pure _

theorem journals_commitTo (index : Int) : Journals (commitTo index) := by
  refine mirrors_bind mirrors_read fun replica => ?_
  refine mirrors_ite (mirrors_pure _) ?_
  refine mirrors_bind (follows_store.mirrors_applyUntilMissing _ _) fun _ => ?_
  refine mirrors_bind (mirrors_modify fun _ => rfl) fun _ => ?_
  exact journals_persistState

theorem journals_discardUncommitted : Journals discardUncommitted :=
  mirrors_bind mirrors_read fun _ => journals_execute _

theorem journals_installSnapshot (snapshot : ReplicaSnapshot) :
    Journals (installSnapshot snapshot) := by
  refine mirrors_bind mirrors_read fun replica => ?_
  refine mirrors_ite (mirrors_pure _) ?_
  refine mirrors_bind (journals_execute _) fun _ => ?_
  refine mirrors_bind (mirrors_modify fun _ => rfl) fun _ => ?_
  refine mirrors_bind
    (mirrors_forEach (fun _ => journals_execute _) _) fun _ => ?_
  refine mirrors_bind mirrors_read fun replica => ?_
  refine mirrors_bind (follows_store.mirrors_applyPresent _ _) fun _ => ?_
  refine mirrors_bind (mirrors_modify fun _ => rfl) fun _ => ?_
  exact journals_persistState

theorem journals_loadState : Journals loadState := by
  refine mirrors_bind (mirrors_modify fun _ => rfl) fun _ => ?_
  refine mirrors_bind mirrors_read fun replica => ?_
  refine mirrors_ite ?_ (mirrors_pure _)
  exact mirrors_bind (follows_store.mirrors_applyPresent _ _) fun _ =>
    journals_persistState

end ShardedKvStore.RaftReplica

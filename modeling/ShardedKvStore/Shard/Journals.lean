import ShardedKvStore.Raft.Journals
import ShardedKvStore.Shard

/-!
# Shard operations mirror the files

Every operation of a shard changes the databases of its replicas by the events
of its journal and by nothing else.

`Durable` is what a crash leaves: the files, and the history of the elections
that were won.  A journal made of one block of statements for each of several
replicas is crash safe when every block is, for its own replica.
-/

namespace ShardedKvStore.Shard

open Foundation

variable {count : Nat}

/-! ## Files -/

/-- The files of a shard change only by the journaled events. -/
abbrev Journals {Value : Type} (call : ShardCall count Value) : Prop :=
  Mirrors Shard.files performOnFiles call

theorem foldl_performOnFiles_executed
    (files : Files count) (position : Fin count)
    (statements : List Statement) :
    (statements.map (ShardEvent.executed position)).foldl
        performOnFiles files =
      Function.update files position
        ((files position).executeAll statements) := by
  induction statements generalizing files with
  | nil =>
      simp
  | cons statement rest inductionHypothesis =>
      rw [List.map_cons, List.foldl_cons, inductionHypothesis]
      simp [performOnFiles]

theorem files_update
    (shard : Shard count) (position : Fin count) (replica : RaftReplica) :
    files
        { shard with
          replicas := Function.update shard.replicas position replica } =
      Function.update shard.files position replica.store := by
  funext tested
  by_cases same : tested = position
  · subst same
    simp [files]
  · simp [files, same]

theorem journals_onReplica
    {Value : Type} {call : ReplicaCall Value} (position : Fin count)
    (mirrors : RaftReplica.Journals call) :
    Journals (onReplica position call) := by
  intro shard
  unfold onReplica
  rw [files_update, foldl_performOnFiles_executed]
  exact congrArg _ (mirrors (shard.replicas position))

theorem journals_setLeaderId (leaderId : Bytes) :
    Journals (setLeaderId leaderId : ShardCall count Unit) :=
  mirrors_modify fun _ => rfl

theorem journals_collectVotes
    (term : Int) (candidateId : Bytes) (lastIndex lastTerm : Int)
    (voters : List (Fin count)) :
    Journals (collectVotes term candidateId lastIndex lastTerm voters) := by
  induction voters with
  | nil =>
      exact mirrors_pure 0
  | cons voter rest inductionHypothesis =>
      refine mirrors_bind
        (journals_onReplica voter
          (RaftReplica.journals_requestVote _ _ _ _)) fun _ => ?_
      exact mirrors_bind inductionHypothesis fun _ => mirrors_pure _

theorem journals_syncFollower (follower leader : Fin count) :
    Journals (syncFollower follower leader) := by
  refine mirrors_bind mirrors_read fun shard => ?_
  exact mirrors_ite
    (journals_onReplica follower (RaftReplica.journals_installSnapshot _))
    (mirrors_pure _)

theorem journals_ensureLeader :
    Journals (ensureLeader : ShardCall count Bool) := by
  refine mirrors_bind mirrors_read fun shard => ?_
  refine mirrors_ite (mirrors_pure _) ?_
  refine mirrors_ite
    (mirrors_bind (journals_setLeaderId _) fun _ => mirrors_pure _) ?_
  split
  · exact mirrors_pure _
  · refine mirrors_bind
      (journals_onReplica _ (RaftReplica.journals_setRole _)) fun _ => ?_
    refine mirrors_bind (journals_collectVotes _ _ _ _ _) fun votes => ?_
    refine mirrors_ite ?_ ?_
    · refine mirrors_bind
        (journals_onReplica _ (RaftReplica.journals_setRole _)) fun _ => ?_
      exact mirrors_bind (journals_setLeaderId _) fun _ => mirrors_pure _
    · refine mirrors_bind
        (mirrors_forEach
          (fun position =>
            journals_onReplica position (RaftReplica.journals_setRole _)) _)
        fun _ => ?_
      refine mirrors_bind
        (journals_onReplica _ (RaftReplica.journals_setRole _)) fun _ => ?_
      refine mirrors_bind (mirrors_perform fun _ => rfl) fun _ => ?_
      exact mirrors_bind
        (mirrors_forEach (fun _ => journals_syncFollower _ _) _)
        fun _ => mirrors_pure _

theorem journals_replicateTo
    (leader : Fin count) (entry : LogEntry) (prevIndex prevTerm : Int)
    (followers : List (Fin count)) :
    Journals (replicateTo leader entry prevIndex prevTerm followers) := by
  induction followers with
  | nil =>
      exact mirrors_pure _
  | cons follower rest inductionHypothesis =>
      refine mirrors_bind mirrors_read fun shard => ?_
      refine mirrors_ite inductionHypothesis ?_
      have send
          (term : Int) (leaderId : Bytes) (leaderCommit : Int) :
          Journals (do
            let accepted ← onReplica follower
              (RaftReplica.appendEntries term leaderId prevIndex prevTerm
                [entry] leaderCommit)
            let acknowledged ←
              replicateTo leader entry prevIndex prevTerm rest
            return if accepted then follower :: acknowledged
              else acknowledged) := by
        refine mirrors_bind
          (journals_onReplica follower
            (RaftReplica.journals_appendEntries _ _ _ _ _ _)) fun _ => ?_
        exact mirrors_bind inductionHypothesis fun _ => mirrors_pure _
      exact mirrors_ite
        (mirrors_bind (journals_syncFollower _ _) fun _ => send _ _ _)
        (send _ _ _)

theorem journals_replicateCommand (command key value : Bytes) :
    Journals
      (replicateCommand command key value :
        ShardCall count OperationResult) := by
  refine mirrors_bind mirrors_read fun started => ?_
  refine mirrors_bind journals_ensureLeader fun electable => ?_
  refine mirrors_ite (mirrors_pure _) ?_
  refine mirrors_bind mirrors_read fun shard => ?_
  split
  · exact mirrors_pure _
  · refine mirrors_bind
      (journals_onReplica _ (RaftReplica.journals_appendLocal _ _ _))
      fun entry => ?_
    refine mirrors_bind mirrors_read fun shard => ?_
    refine mirrors_bind (journals_replicateTo _ _ _ _ _)
      fun acknowledged => ?_
    refine mirrors_ite ?_ ?_
    · refine mirrors_bind
        (journals_onReplica _ RaftReplica.journals_discardUncommitted)
        fun _ => ?_
      exact mirrors_bind
        (mirrors_forEach
          (fun position => journals_onReplica position
            RaftReplica.journals_discardUncommitted) _)
        fun _ => mirrors_pure _
    · refine mirrors_bind
        (journals_onReplica _ (RaftReplica.journals_commitTo _))
        fun _ => ?_
      refine mirrors_bind (mirrors_forEach (fun position => ?_) _)
        fun _ => mirrors_pure _
      refine mirrors_bind mirrors_read fun shard => ?_
      exact mirrors_bind
        (journals_onReplica _
          (RaftReplica.journals_appendEntries _ _ _ _ _ _))
        fun _ => mirrors_pure _

theorem journals_get (key : Bytes) :
    Journals (get key : ShardCall count OperationResult) := by
  refine mirrors_bind mirrors_read fun started => ?_
  refine mirrors_bind journals_ensureLeader fun electable => ?_
  refine mirrors_ite (mirrors_pure _) ?_
  refine mirrors_bind mirrors_read fun shard => ?_
  split
  · exact mirrors_pure _
  · split
    · exact mirrors_pure _
    · exact mirrors_pure _

theorem journals_failReplica (failed : Bytes) :
    Journals (failReplica failed : ShardCall count Bool) := by
  refine mirrors_bind mirrors_read fun shard => ?_
  split
  · exact mirrors_pure _
  · refine mirrors_bind
      (journals_onReplica _ (RaftReplica.journals_setOnline _)) fun _ => ?_
    exact mirrors_ite
      (mirrors_bind (journals_setLeaderId _) fun _ => mirrors_pure _)
      (mirrors_pure _)

theorem journals_recoverReplica (wanted : Bytes) :
    Journals (recoverReplica wanted : ShardCall count Bool) := by
  refine mirrors_bind mirrors_read fun shard => ?_
  split
  · exact mirrors_pure _
  · refine mirrors_bind
      (journals_onReplica _ (RaftReplica.journals_setOnline _)) fun _ => ?_
    refine mirrors_bind journals_ensureLeader fun electable => ?_
    refine mirrors_ite ?_ (mirrors_pure _)
    refine mirrors_bind mirrors_read fun shard => ?_
    split
    · exact mirrors_pure _
    · exact mirrors_ite
        (mirrors_bind (journals_syncFollower _ _) fun _ => mirrors_pure _)
        (mirrors_pure _)

theorem journals_constructor :
    Journals (constructor : ShardCall count Unit) := by
  refine mirrors_ite (mirrors_bind (mirrors_fail _) fun _ => ?_) ?_
  all_goals
    refine mirrors_bind
      (mirrors_forEach
        (fun position =>
          journals_onReplica position RaftReplica.journals_loadState) _)
      fun _ => ?_
    exact mirrors_bind journals_ensureLeader fun _ => mirrors_pure _

/-! ## What a crash leaves -/

/-- The files a crash leaves, and the terms of the elections won so far, latest
first. -/
structure Durable (count : Nat) where
  files : Files count
  elections : List Int

/-- The effect of an event on the files and the history. -/
def Durable.perform (durable : Durable count) :
    ShardEvent count → Durable count
  | .executed position statement =>
      { durable with
        files := performOnFiles durable.files
          (.executed position statement) }
  | .elected _ term =>
      { durable with elections := term :: durable.elections }

/-- The effect of a journal. -/
def Durable.after (durable : Durable count)
    (journal : List (ShardEvent count)) : Durable count :=
  journal.foldl Durable.perform durable

theorem Durable.after_files
    (durable : Durable count) (journal : List (ShardEvent count)) :
    (durable.after journal).files =
      journal.foldl performOnFiles durable.files := by
  induction journal generalizing durable with
  | nil =>
      rfl
  | cons event rest inductionHypothesis =>
      change ((durable.perform event).after rest).files = _
      rw [inductionHypothesis]
      cases event <;> rfl

theorem Durable.after_executed
    (durable : Durable count) (position : Fin count)
    (statements : List Statement) :
    durable.after (statements.map (ShardEvent.executed position)) =
      { durable with
        files := Function.update durable.files position
          ((durable.files position).executeAll statements) } := by
  induction statements generalizing durable with
  | nil =>
      simp [Durable.after]
  | cons statement rest inductionHypothesis =>
      change (durable.perform (.executed position statement)).after _ = _
      rw [inductionHypothesis]
      simp [Durable.perform, performOnFiles]

theorem Durable.after_append
    (durable : Durable count) (first second : List (ShardEvent count)) :
    durable.after (first ++ second) = (durable.after first).after second :=
  List.foldl_append

/-- One block of statements for each of several replicas. -/
def blocks
    (statements : Fin count → List Statement)
    (positions : List (Fin count)) : List (ShardEvent count) :=
  positions.flatMap fun position =>
    (statements position).map (ShardEvent.executed position)

theorem blocks_cons
    (statements : Fin count → List Statement)
    (position : Fin count) (rest : List (Fin count)) :
    blocks statements (position :: rest) =
      (statements position).map (ShardEvent.executed position) ++
        blocks statements rest :=
  rfl

/-- A block is crash safe when its statements are, for its own replica. -/
theorem crashSafe_executed
    (Local : Fin count → SqliteStore → Prop) {durable : Durable count}
    {position : Fin count} {statements : List Statement}
    (now : ∀ tested, Local tested (durable.files tested))
    (block :
      CrashSafe SqliteStore.execute (Local position)
        (durable.files position) statements) :
    CrashSafe Durable.perform
      (fun reached =>
        reached.elections = durable.elections ∧
          ∀ tested, Local tested (reached.files tested))
      durable (statements.map (ShardEvent.executed position)) := by
  intro cut
  change
    (durable.after _).elections = _ ∧ ∀ tested, Local tested
      ((durable.after _).files tested)
  rw [← List.map_take, Durable.after_executed]
  refine ⟨rfl, ?_⟩
  intro tested
  by_cases same : tested = position
  · subst same
    simp only [Function.update_self]
    exact block cut
  · simp only [Function.update_of_ne same]
    exact now tested

/-- Blocks for distinct replicas are crash safe when each one is. -/
theorem crashSafe_blocks
    (Local : Fin count → SqliteStore → Prop) {durable : Durable count}
    {statements : Fin count → List Statement}
    {positions : List (Fin count)} (distinct : positions.Nodup)
    (now : ∀ tested, Local tested (durable.files tested))
    (each :
      ∀ position ∈ positions,
        CrashSafe SqliteStore.execute (Local position)
          (durable.files position) (statements position)) :
    CrashSafe Durable.perform
      (fun reached =>
        reached.elections = durable.elections ∧
          ∀ tested, Local tested (reached.files tested))
      durable (blocks statements positions) := by
  induction positions generalizing durable with
  | nil =>
      exact crashSafe_nil.mpr ⟨rfl, now⟩
  | cons position rest inductionHypothesis =>
      obtain ⟨notInRest, restDistinct⟩ := List.nodup_cons.mp distinct
      have block :=
        crashSafe_executed Local now (each position List.mem_cons_self)
      rw [blocks_cons, crashSafe_append]
      refine ⟨block, ?_⟩
      change CrashSafe _ _ (durable.after _) _
      have afterBlock :
          ∀ tested, Local tested ((durable.after _).files tested) :=
        block.finish.2
      rw [Durable.after_executed] at afterBlock ⊢
      refine inductionHypothesis restDistinct afterBlock ?_
      intro later inRest
      have different : later ≠ position := fun same =>
        notInRest (same ▸ inRest)
      simp only [Function.update_of_ne different]
      exact each later (List.mem_cons_of_mem position inRest)

/-- The files after blocks for distinct replicas. -/
theorem Durable.after_blocks_files
    (durable : Durable count) (statements : Fin count → List Statement)
    {positions : List (Fin count)} (distinct : positions.Nodup)
    (tested : Fin count) :
    (durable.after (blocks statements positions)).files tested =
      if tested ∈ positions then
        (durable.files tested).executeAll (statements tested)
      else
        durable.files tested := by
  induction positions generalizing durable with
  | nil =>
      rfl
  | cons position rest inductionHypothesis =>
      obtain ⟨notInRest, restDistinct⟩ := List.nodup_cons.mp distinct
      rw [blocks_cons, Durable.after_append,
        inductionHypothesis _ restDistinct, Durable.after_executed]
      by_cases same : tested = position
      · subst same
        simp [notInRest]
      · simp [same]

/-- Statements leave the history of elections alone. -/
theorem Durable.after_blocks_elections
    (durable : Durable count) (statements : Fin count → List Statement)
    (positions : List (Fin count)) :
    (durable.after (blocks statements positions)).elections =
      durable.elections := by
  induction positions generalizing durable with
  | nil =>
      rfl
  | cons position rest inductionHypothesis =>
      rw [blocks_cons, Durable.after_append, inductionHypothesis,
        Durable.after_executed]

end ShardedKvStore.Shard

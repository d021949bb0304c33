import ShardedKvStore.Shard.Agreement

/-!
# Coherent shards and loops over replicas

A shard is `Coherent` when its replicas have the identifiers of the constructor,
their members agree with their databases, and the databases agree on a committed
log.  The loops of the shard operations change each replica once; their effect is
`overwrite`, and their journal is `blocks`.
-/

namespace ShardedKvStore.Shard

open Foundation
open SqliteStore

variable {count : Nat}

theorem replicaId_injective
    (shardId : Nat) {left right : Nat}
    (same : replicaId shardId left = replicaId shardId right) :
    left = right :=
  toDecimal_injective (List.append_cancel_left same)

theorem replicaId_ne_nil (shardId index : Nat) :
    replicaId shardId index ≠ [] := by
  simp [replicaId, bytes]

/-- The replicas, their members and their databases fit together. -/
structure Coherent
    (agreed : List LogEntry) (bound : Int) (shard : Shard count) :
    Prop where
  ids :
    ∀ position,
      (shard.replicas position).id = replicaId shard.shardId position
  inStep : ∀ position, (shard.replicas position).InStep
  agree : FilesAgree agreed bound shard.files

namespace Coherent

variable {agreed : List LogEntry} {bound : Int} {shard : Shard count}

theorem id_injective
    (coherent : Coherent agreed bound shard) {left right : Fin count}
    (same : (shard.replicas left).id = (shard.replicas right).id) :
    left = right := by
  rw [coherent.ids, coherent.ids] at same
  exact Fin.ext (replicaId_injective shard.shardId same)

theorem id_ne_nil
    (coherent : Coherent agreed bound shard) (position : Fin count) :
    (shard.replicas position).id ≠ [] := by
  rw [coherent.ids]
  exact replicaId_ne_nil _ _

theorem file
    (coherent : Coherent agreed bound shard) (position : Fin count) :
    ReplicaFile agreed bound (shard.replicas position).store :=
  coherent.agree.each position

theorem wellFormed
    (coherent : Coherent agreed bound shard) (position : Fin count) :
    (shard.replicas position).store.WellFormed :=
  (coherent.file position).wellFormed

end Coherent

/-! ## Single replicas -/

/-- Put a replica at a position. -/
def withReplica
    (shard : Shard count) (position : Fin count) (replica : RaftReplica) :
    Shard count :=
  { shard with
    replicas := Function.update shard.replicas position replica }

@[simp]
theorem withReplica_self
    (shard : Shard count) (position : Fin count) (replica : RaftReplica) :
    (shard.withReplica position replica).replicas position = replica :=
  Function.update_self _ _ _

theorem withReplica_of_ne
    (shard : Shard count) {position tested : Fin count}
    (replica : RaftReplica) (different : tested ≠ position) :
    (shard.withReplica position replica).replicas tested =
      shard.replicas tested :=
  Function.update_of_ne different _ _

@[simp]
theorem withReplica_leaderId
    (shard : Shard count) (position : Fin count) (replica : RaftReplica) :
    (shard.withReplica position replica).leaderId = shard.leaderId :=
  rfl

@[simp]
theorem withReplica_shardId
    (shard : Shard count) (position : Fin count) (replica : RaftReplica) :
    (shard.withReplica position replica).shardId = shard.shardId :=
  rfl

theorem onReplica_apply
    {Value : Type} {call : ReplicaCall Value} {shard : Shard count}
    {position : Fin count} {value : Value} {replica : RaftReplica}
    {statements : List Statement}
    (called :
      call (shard.replicas position) = ⟨.ok value, replica, statements⟩) :
    onReplica position call shard =
      ⟨.ok value, shard.withReplica position replica,
        statements.map (.executed position)⟩ := by
  unfold onReplica
  rw [called]
  rfl

/-- Copying the committed entries of a leader into an online replica. -/
theorem syncFollower_installs
    {shard : Shard count} {follower leader : Fin count}
    {committed tail : List LogEntry}
    (online : (shard.replicas follower).online = true)
    (log : (shard.replicas leader).store.log = committed ++ tail)
    (knownLog : KnownLog (committed ++ tail))
    (commit : (shard.replicas leader).commitIndex = committed.length) :
    syncFollower follower leader shard =
      ⟨.ok (),
        shard.withReplica follower
          ((shard.replicas follower).afterInstall
            (max (shard.replicas follower).currentTerm
              (shard.replicas leader).currentTerm) committed),
        (RaftReplica.installStatements
          (max (shard.replicas follower).currentTerm
            (shard.replicas leader).currentTerm) committed).map
              (.executed follower)⟩ := by
  have exported :=
    RaftReplica.exportSnapshot_eq log (by rw [log]; exact knownLog.contiguous)
      commit
  unfold syncFollower
  simp only [Journaled.bind_apply, Journaled.read_apply,
    Outcome.andThen_ok, Outcome.prepend_nil, Journaled.ite_apply,
    if_pos online, exported]
  exact onReplica_apply
    (RaftReplica.installSnapshot_apply online
      (knownLog.of_prefix (List.prefix_append committed tail)))

/-! ## Loops over distinct replicas -/

/-- Membership in a list of positions is decided in one way everywhere. -/
instance decidableMemPositions
    (position : Fin count) (positions : List (Fin count)) :
    Decidable (position ∈ positions) :=
  List.instDecidableMemOfLawfulBEq position positions

/-- Put new replicas at several positions. -/
def overwrite
    (shard : Shard count) (positions : List (Fin count))
    (target : Fin count → RaftReplica) : Shard count :=
  { shard with
    replicas := fun position =>
      if position ∈ positions then target position
      else shard.replicas position }

theorem overwrite_nil
    (shard : Shard count) (target : Fin count → RaftReplica) :
    shard.overwrite [] target = shard := by
  simp [overwrite]

theorem overwrite_of_mem
    (shard : Shard count) {positions : List (Fin count)}
    (target : Fin count → RaftReplica) {position : Fin count}
    (member : position ∈ positions) :
    (shard.overwrite positions target).replicas position =
      target position :=
  if_pos member

theorem overwrite_of_not_mem
    (shard : Shard count) {positions : List (Fin count)}
    (target : Fin count → RaftReplica) {position : Fin count}
    (outside : position ∉ positions) :
    (shard.overwrite positions target).replicas position =
      shard.replicas position :=
  if_neg outside

theorem overwrite_cons
    {shard : Shard count} {position : Fin count} {rest : List (Fin count)}
    {target : Fin count → RaftReplica} (notInRest : position ∉ rest) :
    (shard.withReplica position (target position)).overwrite rest target =
      shard.overwrite (position :: rest) target := by
  unfold overwrite withReplica
  congr 1
  funext tested
  by_cases same : tested = position
  · subst same
    simp [notInRest]
  · simp [same]

/-- A body that puts `target` at its own position, whatever the loop has done
to the other ones. -/
def Overwrites
    {Value : Type} (shard : Shard count) (positions : List (Fin count))
    (target : Fin count → RaftReplica)
    (statements : Fin count → List Statement)
    (value : Fin count → Value)
    (body : Fin count → ShardCall count Value) : Prop :=
  ∀ position ∈ positions, ∀ reached : Shard count,
    reached.replicas position = shard.replicas position →
    (∀ other, other ∉ positions →
      reached.replicas other = shard.replicas other) →
    body position reached =
      ⟨.ok (value position),
        reached.withReplica position (target position),
        (statements position).map (.executed position)⟩

/-- The loop after its first round. -/
theorem Overwrites.rest
    {Value : Type} {shard : Shard count}
    {position : Fin count} {rest : List (Fin count)}
    {target : Fin count → RaftReplica}
    {statements : Fin count → List Statement}
    {value : Fin count → Value}
    {body : Fin count → ShardCall count Value}
    (overwrites :
      Overwrites shard (position :: rest) target statements value body)
    (notInRest : position ∉ rest) :
    Overwrites (shard.withReplica position (target position)) rest
      target statements value body := by
  intro later inRest reached sameLater sameOthers
  have different : later ≠ position := fun same =>
    notInRest (same ▸ inRest)
  apply overwrites later (List.mem_cons_of_mem position inRest)
  · rw [sameLater, withReplica_of_ne shard _ different]
  · intro other outside
    obtain ⟨notPosition, notRest⟩ : other ≠ position ∧ other ∉ rest := by
      simpa using outside
    rw [sameOthers other notRest, withReplica_of_ne shard _ notPosition]

theorem Overwrites.first
    {Value : Type} {shard : Shard count}
    {position : Fin count} {rest : List (Fin count)}
    {target : Fin count → RaftReplica}
    {statements : Fin count → List Statement}
    {value : Fin count → Value}
    {body : Fin count → ShardCall count Value}
    (overwrites :
      Overwrites shard (position :: rest) target statements value body) :
    body position shard =
      ⟨.ok (value position), shard.withReplica position (target position),
        (statements position).map (.executed position)⟩ :=
  overwrites position List.mem_cons_self shard rfl fun _ _ => rfl

theorem forEach_overwrites
    {shard : Shard count} {positions : List (Fin count)}
    {target : Fin count → RaftReplica}
    {statements : Fin count → List Statement}
    {body : Fin count → ShardCall count Unit}
    (distinct : positions.Nodup)
    (overwrites :
      Overwrites shard positions target statements (fun _ => ()) body) :
    Journaled.forEach body positions shard =
      ⟨.ok (), shard.overwrite positions target,
        blocks statements positions⟩ := by
  induction positions generalizing shard with
  | nil =>
      rw [overwrite_nil]
      rfl
  | cons position rest inductionHypothesis =>
      obtain ⟨notInRest, restDistinct⟩ := List.nodup_cons.mp distinct
      simp only [Journaled.forEach, Journaled.bind_apply,
        overwrites.first, Outcome.andThen_ok,
        inductionHypothesis restDistinct (overwrites.rest notInRest),
        Outcome.prepend_mk, overwrite_cons notInRest, blocks_cons]

/-- Every vote of the loop is granted. -/
theorem collectVotes_overwrites
    {shard : Shard count} {voters : List (Fin count)}
    {target : Fin count → RaftReplica}
    {statements : Fin count → List Statement}
    {term : Int} {candidateId : Bytes} {lastIndex lastTerm : Int}
    (distinct : voters.Nodup)
    (overwrites :
      Overwrites shard voters target statements (fun _ => true)
        (fun voter => onReplica voter
          (RaftReplica.requestVote term candidateId lastIndex lastTerm))) :
    collectVotes term candidateId lastIndex lastTerm voters shard =
      ⟨.ok voters.length, shard.overwrite voters target,
        blocks statements voters⟩ := by
  induction voters generalizing shard with
  | nil =>
      rw [overwrite_nil]
      rfl
  | cons voter rest inductionHypothesis =>
      obtain ⟨notInRest, restDistinct⟩ := List.nodup_cons.mp distinct
      simp only [collectVotes, Journaled.bind_apply,
        overwrites.first, Outcome.andThen_ok,
        inductionHypothesis restDistinct (overwrites.rest notInRest),
        Journaled.pure_apply, Outcome.prepend_mk, List.append_nil,
        overwrite_cons notInRest, blocks_cons, if_true,
        List.length_cons, Nat.add_comm 1]

/-! ## Online replicas and terms -/

theorem mem_onlineReplicas {shard : Shard count} {position : Fin count} :
    position ∈ shard.onlineReplicas ↔
      (shard.replicas position).online = true := by
  simp [onlineReplicas, List.mem_filter]

theorem nodup_onlineReplicas (shard : Shard count) :
    shard.onlineReplicas.Nodup :=
  (List.nodup_finRange count).filter _

theorem length_onlineReplicas (shard : Shard count) :
    shard.onlineReplicas.length =
      tally fun position => (shard.replicas position).online :=
  (tally_eq_length_filter _).symm

private theorem foldl_max_bounds
    {Item : Type} (value : Item → Int) (items : List Item) (start : Int) :
    start ≤ items.foldl (fun largest item => max largest (value item)) start ∧
      ∀ item ∈ items,
        value item ≤
          items.foldl (fun largest item => max largest (value item))
            start := by
  induction items generalizing start with
  | nil =>
      simp
  | cons head tail inductionHypothesis =>
      obtain ⟨fromStart, fromTail⟩ :=
        inductionHypothesis (max start (value head))
      refine ⟨(le_max_left _ _).trans fromStart, ?_⟩
      intro item member
      rcases List.mem_cons.mp member with same | inTail
      · rw [same]
        exact (le_max_right _ _).trans fromStart
      · exact fromTail item inTail

theorem currentTerm_lt_nextTerm
    (shard : Shard count) (position : Fin count) :
    (shard.replicas position).currentTerm < shard.nextTerm := by
  have bound :=
    (foldl_max_bounds
      (fun tested : Fin count => (shard.replicas tested).currentTerm + 1)
      (List.finRange count) 1).2 position (List.mem_finRange position)
  unfold nextTerm
  omega

/-! ## Finding replicas -/

theorem currentLeader_eq_some
    {agreed : List LogEntry} {bound : Int} {shard : Shard count}
    (coherent : Coherent agreed bound shard) {leader : Fin count}
    (named : shard.leaderId = (shard.replicas leader).id)
    (online : (shard.replicas leader).online = true) :
    shard.currentLeader = some leader := by
  unfold currentLeader
  cases found :
      (List.finRange count).find? (fun position =>
        decide ((shard.replicas position).id = shard.leaderId ∧
          (shard.replicas position).online = true)) with
  | none =>
      have absent := List.find?_eq_none.mp found leader
        (List.mem_finRange leader)
      simp [named, online] at absent
  | some position =>
      have matched := List.find?_some found
      simp only [decide_eq_true_eq] at matched
      rw [coherent.id_injective (matched.1.trans named)]

theorem currentLeader_named
    {shard : Shard count} {leader : Fin count}
    (found : shard.currentLeader = some leader) :
    shard.leaderId = (shard.replicas leader).id ∧
      (shard.replicas leader).online = true := by
  have matched := List.find?_some found
  simp only [decide_eq_true_eq] at matched
  exact ⟨matched.1.symm, matched.2⟩

theorem currentLeader_eq_none_of_nil
    {agreed : List LogEntry} {bound : Int} {shard : Shard count}
    (coherent : Coherent agreed bound shard)
    (noName : shard.leaderId = []) :
    shard.currentLeader = none := by
  cases found : shard.currentLeader with
  | none =>
      rfl
  | some leader =>
      have named := (currentLeader_named found).1
      rw [noName] at named
      exact absurd named.symm (coherent.id_ne_nil leader)

theorem findReplica_id
    {shard : Shard count} {wanted : Bytes} {position : Fin count}
    (found : shard.findReplica wanted = some position) :
    (shard.replicas position).id = wanted := by
  simpa using List.find?_some found

end ShardedKvStore.Shard

import ShardedKvStore.Foundation.MaxElement
import ShardedKvStore.Foundation.Quorum
import ShardedKvStore.Foundation.Runs
import ShardedKvStore.Raft

/-!
# One shard: a group of replicas with a leader

`Shard` owns `count` replicas, addressed by their position in `replicas_`.  Its
member functions are journaled computations: an event is a statement executed
by one replica, or the moment an election makes its candidate the leader.
-/

namespace ShardedKvStore

open Foundation

/-- `Shard`. -/
structure Shard (count : Nat) where
  shardId : Nat
  replicas : Fin count → RaftReplica
  leaderId : Bytes := []

/-- An event of a shard operation. -/
inductive ShardEvent (count : Nat) where
  /-- a replica executed a writing statement -/
  | executed (replica : Fin count) (statement : Statement)
  /-- `leader_id_` was set by a successful election for the term -/
  | elected (replica : Fin count) (term : Int)
  deriving DecidableEq, Repr

/-- An election was won, which `ensure_leader_locked` counts. -/
def ShardEvent.isElection {count : Nat} : ShardEvent count → Bool
  | .executed _ _ => false
  | .elected _ _ => true

/-- An operation of a shard. -/
abbrev ShardCall (count : Nat) (Value : Type) : Type :=
  Journaled (ShardEvent count) (Shard count) KvError Value

/-- `"s" + shard + "-r" + i`. -/
def replicaId (shardId index : Nat) : Bytes :=
  bytes "s" ++ toDecimal shardId ++ bytes "-r" ++ toDecimal index

namespace Shard

variable {count : Nat}

/-- Call a member function of one replica. -/
def onReplica {Value : Type}
    (position : Fin count) (call : ReplicaCall Value) :
    ShardCall count Value :=
  fun shard =>
    let outcome := call (shard.replicas position)
    { result := outcome.result
      state :=
        { shard with
          replicas := Function.update shard.replicas position outcome.state }
      journal := outcome.journal.map (.executed position) }

/-- Set `leader_id_`. -/
def setLeaderId (leaderId : Bytes) : ShardCall count Unit :=
  Journaled.modify fun shard => { shard with leaderId := leaderId }

/-- `current_leader_locked`. -/
def currentLeader (shard : Shard count) : Option (Fin count) :=
  (List.finRange count).find? fun position =>
    (shard.replicas position).id = shard.leaderId ∧
      (shard.replicas position).online = true

/-- The positions of the online replicas, in order. -/
def onlineReplicas (shard : Shard count) : List (Fin count) :=
  (List.finRange count).filter fun position =>
    (shard.replicas position).online

/-- The comparison given to `std::max_element`. -/
def lessUpToDate (shard : Shard count) (left right : Fin count) : Bool :=
  let a := shard.replicas left
  let b := shard.replicas right
  if a.commitIndex ≠ b.commitIndex then
    a.commitIndex < b.commitIndex
  else if a.store.lastLogTerm ≠ b.store.lastLogTerm then
    a.store.lastLogTerm < b.store.lastLogTerm
  else
    a.store.lastLogIndex < b.store.lastLogIndex

/-- The candidate of an election: the most up-to-date online replica. -/
def candidate (shard : Shard count) : Option (Fin count) :=
  maxElement shard.lessUpToDate shard.onlineReplicas

/-- The term of the next election: above every replica's, offline ones
included. -/
def nextTerm (shard : Shard count) : Int :=
  (List.finRange count).foldl
    (fun term position =>
      max term ((shard.replicas position).currentTerm + 1))
    1

/-- The vote loop: the number of granted votes. -/
def collectVotes
    (term : Int) (candidateId : Bytes)
    (candidateLastIndex candidateLastTerm : Int) :
    List (Fin count) → ShardCall count Nat
  | [] => pure 0
  | voter :: rest => do
      let granted ← onReplica voter
        (RaftReplica.requestVote term candidateId
          candidateLastIndex candidateLastTerm)
      let votes ←
        collectVotes term candidateId candidateLastIndex candidateLastTerm rest
      return (if granted then 1 else 0) + votes

/-- `sync_follower_locked`. -/
def syncFollower (follower leader : Fin count) : ShardCall count Unit := do
  let shard ← Journaled.read
  if (shard.replicas follower).online = true then
    onReplica follower
      (RaftReplica.installSnapshot (shard.replicas leader).exportSnapshot)

/-- `ensure_leader_locked`. -/
def ensureLeader : ShardCall count Bool := do
  let shard ← Journaled.read
  if shard.currentLeader.isSome then
    return true
  let quorum := majority count
  let online := shard.onlineReplicas
  if online.length < quorum then
    setLeaderId []
    return false
  match shard.candidate with
  | none => return false
  | some candidate =>
      let nextTerm := shard.nextTerm
      onReplica candidate (RaftReplica.setRole .candidate)
      let candidateId := (shard.replicas candidate).id
      let candidateLastIndex := (shard.replicas candidate).store.lastLogIndex
      let candidateLastTerm := (shard.replicas candidate).store.lastLogTerm
      let votes ← collectVotes nextTerm candidateId
        candidateLastIndex candidateLastTerm online
      if votes < quorum then
        onReplica candidate (RaftReplica.setRole .follower)
        setLeaderId []
        return false
      Journaled.forEach
        (fun position => onReplica position (RaftReplica.setRole .follower))
        (List.finRange count)
      onReplica candidate (RaftReplica.setRole .leader)
      Journaled.perform (.elected candidate nextTerm) fun shard =>
        { shard with leaderId := candidateId }
      Journaled.forEach (fun position => syncFollower position candidate)
        (online.filter fun position =>
          (shard.replicas position).id ≠ candidateId)
      return true

/-- The replication loop: the followers that acknowledged the entry. -/
def replicateTo
    (leader : Fin count) (entry : LogEntry) (prevIndex prevTerm : Int) :
    List (Fin count) → ShardCall count (List (Fin count))
  | [] => pure []
  | follower :: rest => do
      let shard ← Journaled.read
      if (shard.replicas follower).id = (shard.replicas leader).id ∨
          (shard.replicas follower).online = false then
        replicateTo leader entry prevIndex prevTerm rest
      else
        if (shard.replicas follower).commitIndex ≠
              (shard.replicas leader).commitIndex ∨
            (shard.replicas follower).store.lastLogIndex ≠
              (shard.replicas leader).commitIndex then
          syncFollower follower leader
        let accepted ← onReplica follower
          (RaftReplica.appendEntries
            (shard.replicas leader).currentTerm (shard.replicas leader).id
            prevIndex prevTerm [entry] (shard.replicas leader).commitIndex)
        let acknowledged ← replicateTo leader entry prevIndex prevTerm rest
        return if accepted then follower :: acknowledged else acknowledged

/-- `replicate_command_locked`. -/
def replicateCommand (command key value : Bytes) :
    ShardCall count OperationResult := do
  let started ← Journaled.read
  let result : OperationResult := { shard := started.shardId }
  let electable ← ensureLeader
  if electable = false then
    return { result with
      status := 503
      message := bytes "no quorum available" }
  let shard ← Journaled.read
  match shard.currentLeader with
  | none =>
      return { result with
        status := 503
        message := bytes "leader unavailable" }
  | some leader =>
      let result := { result with leader := (shard.replicas leader).id }
      let quorum := majority count
      let entry ← onReplica leader
        (RaftReplica.appendLocal command key value)
      let prevIndex := entry.index - 1
      let shard ← Journaled.read
      let prevTerm := (shard.replicas leader).termAt prevIndex
      let acknowledged ← replicateTo leader entry prevIndex prevTerm
        (List.finRange count)
      if 1 + acknowledged.length < quorum then
        onReplica leader RaftReplica.discardUncommitted
        Journaled.forEach
          (fun follower =>
            onReplica follower RaftReplica.discardUncommitted)
          acknowledged
        return { result with
          status := 503
          message := bytes "write rejected because a majority could not acknowledge the log entry" }
      onReplica leader (RaftReplica.commitTo entry.index)
      Journaled.forEach
        (fun follower => do
          let shard ← Journaled.read
          let _ ← onReplica follower
            (RaftReplica.appendEntries
              (shard.replicas leader).currentTerm (shard.replicas leader).id
              entry.index entry.term [] entry.index))
        acknowledged
      return { result with
        ok := true
        status := if command = deleteCommand then 200 else 201
        message :=
          if command = deleteCommand then bytes "deleted"
          else bytes "stored" }

/-- The followers that the replication loop asks. -/
def askedFollowers (shard : Shard count) (leader : Fin count) :
    List (Fin count) :=
  (List.finRange count).filter fun follower =>
    ¬ ((shard.replicas follower).id = (shard.replicas leader).id ∨
      (shard.replicas follower).online = false)

/-- How often a leader counts a failed replication: once for every follower that was
asked and did not acknowledge the entry. -/
def failuresOf (leader : Fin count) (command key value : Bytes) :
    ShardCall count Nat := do
  let entry ← onReplica leader (RaftReplica.appendLocal command key value)
  let prevIndex := entry.index - 1
  let shard ← Journaled.read
  let prevTerm := (shard.replicas leader).termAt prevIndex
  let acknowledged ← replicateTo leader entry prevIndex prevTerm
    (List.finRange count)
  return (shard.askedFollowers leader).length - acknowledged.length

/-- How often `replicate_command_locked` counts a failed replication. -/
def replicationFailures (command key value : Bytes) :
    ShardCall count Nat := do
  let electable ← ensureLeader
  if electable = false then
    return 0
  let shard ← Journaled.read
  match shard.currentLeader with
  | none => return 0
  | some leader => failuresOf leader command key value

/-- `put`. -/
def put (key value : Bytes) : ShardCall count OperationResult :=
  replicateCommand putCommand key value

/-- `erase`. -/
def erase (key : Bytes) : ShardCall count OperationResult :=
  replicateCommand deleteCommand key []

/-- `get`. -/
def get (key : Bytes) : ShardCall count OperationResult := do
  let started ← Journaled.read
  let result : OperationResult := { shard := started.shardId }
  let electable ← ensureLeader
  if electable = false then
    return { result with
      status := 503
      message := bytes "no quorum available for leader election" }
  let shard ← Journaled.read
  match shard.currentLeader with
  | none =>
      return { result with
        status := 503
        message := bytes "leader unavailable" }
  | some leader =>
      let result := { result with leader := (shard.replicas leader).id }
      match (shard.replicas leader).get key with
      | none =>
          return { result with
            status := 404
            message := bytes "key not found" }
      | some value =>
          return { result with
            ok := true
            status := 200
            message := bytes "ok"
            value := value }

/-- The first replica with an identifier. -/
def findReplica (shard : Shard count) (wanted : Bytes) :
    Option (Fin count) :=
  (List.finRange count).find? fun position =>
    (shard.replicas position).id = wanted

/-- `fail_replica`. -/
def failReplica (failed : Bytes) : ShardCall count Bool := do
  let shard ← Journaled.read
  match shard.findReplica failed with
  | none => return false
  | some position =>
      onReplica position (RaftReplica.setOnline false)
      if shard.leaderId = failed then
        setLeaderId []
      return true

/-- `recover_replica`. -/
def recoverReplica (wanted : Bytes) : ShardCall count Bool := do
  let shard ← Journaled.read
  match shard.findReplica wanted with
  | none => return false
  | some recovered =>
      onReplica recovered (RaftReplica.setOnline true)
      let electable ← ensureLeader
      if electable = true then
        let shard ← Journaled.read
        match shard.currentLeader with
        | none => pure ()
        | some leader =>
            if (shard.replicas leader).id ≠ (shard.replicas recovered).id then
              syncFollower recovered leader
      return true

/-- `elect_leader`. -/
def electLeader : ShardCall count Bool :=
  ensureLeader

/-! ## Construction and files -/

/-- The databases of a shard. -/
abbrev Files (count : Nat) : Type :=
  Fin count → SqliteStore

/-- The files of a running shard. -/
def files (shard : Shard count) : Files count :=
  fun position => (shard.replicas position).store

/-- The members of a shard whose replicas have been opened but not loaded. -/
def opened (shardId : Nat) (files : Files count) : Shard count where
  shardId := shardId
  replicas := fun position =>
    RaftReplica.opened (replicaId shardId position) (files position)

/-- The body of the constructor, on opened replicas. -/
def constructor : ShardCall count Unit := do
  if count < 1 then
    Journaled.fail .replicaCount
  Journaled.forEach
    (fun position => onReplica position RaftReplica.loadState)
    (List.finRange count)
  let _ ← electLeader

/-- `Shard::Shard` on the given files. -/
def construct (shardId : Nat) (files : Files count) :
    Outcome (ShardEvent count) (Shard count) KvError Unit :=
  constructor (opened shardId files)

/-- The effect of an event on the files. -/
def performOnFiles (files : Files count) : ShardEvent count → Files count
  | .executed position statement =>
      Function.update files position ((files position).execute statement)
  | .elected _ _ => files

end Shard

end ShardedKvStore

import ShardedKvStore.Foundation.Journal
import ShardedKvStore.Store

/-!
# One Raft replica

`RaftReplica` is the volatile state of a replica together with its database.
Every member function is a journaled computation whose events are the writing
statements it executes, so a crash inside a call is a cut of its journal.
-/

namespace ShardedKvStore

open Foundation

/-- `Role`. -/
inductive Role where
  | follower
  | candidate
  | leader
  deriving DecidableEq, Repr

/-- `ReplicaSnapshot`. -/
structure ReplicaSnapshot where
  term : Int := 0
  commitIndex : Int := 0
  log : List LogEntry := []
  deriving DecidableEq, Repr

/-- `RaftReplica`: the members, with the database they are mirrored in. -/
structure RaftReplica where
  id : Bytes
  store : SqliteStore
  role : Role := .follower
  online : Bool := true
  currentTerm : Int := 0
  votedFor : Bytes := []
  commitIndex : Int := 0
  lastApplied : Int := 0

/-- A call of a replica. -/
abbrev ReplicaCall (Value : Type) : Type :=
  Journaled Statement RaftReplica KvError Value

namespace RaftReplica

/-- Execute one writing statement. -/
def execute (statement : Statement) : ReplicaCall Unit :=
  Journaled.perform statement fun replica =>
    { replica with store := replica.store.execute statement }

/-- `set_online`: going offline also gives up the role. -/
def setOnline (online : Bool) : ReplicaCall Unit :=
  Journaled.modify fun replica =>
    { replica with
      online := online
      role := if online then replica.role else .follower }

/-- `set_role`. -/
def setRole (role : Role) : ReplicaCall Unit :=
  Journaled.modify fun replica => { replica with role := role }

/-- `term_at`. -/
def termAt (replica : RaftReplica) (index : Int) : Int :=
  if index = 0 then
    0
  else
    match replica.store.logAt index with
    | some entry => entry.term
    | none => -1

/-- `persist_state`: four separate statements. -/
def persistState : ReplicaCall Unit := do
  let replica ← Journaled.read
  execute (.setMeta (.currentTerm replica.currentTerm))
  execute (.setMeta (.votedFor replica.votedFor))
  execute (.setMeta (.commitIndex replica.commitIndex))
  execute (.setMeta (.lastApplied replica.lastApplied))

/-- `apply_entry`. -/
def applyEntry (entry : LogEntry) : ReplicaCall Unit :=
  if entry.command = putCommand then
    execute (.put entry.key entry.value)
  else if entry.command = deleteCommand then
    execute (.erase entry.key)
  else
    Journaled.fail (.unknownRaftCommand entry.command)

/-- The loop of `append_entries` and `commit_to`: apply `count` entries from
`index` on, stopping at the first that is missing. -/
def applyUntilMissing (index : Int) : Nat → ReplicaCall Unit
  | 0 => pure ()
  | count + 1 => do
      let replica ← Journaled.read
      match replica.store.logAt index with
      | none => pure ()
      | some entry =>
          applyEntry entry
          Journaled.modify fun replica => { replica with lastApplied := index }
          applyUntilMissing (index + 1) count

/-- The loop of `install_snapshot` and `load_state`: apply those of the
`count` entries from `index` on that are present. -/
def applyPresent (index : Int) : Nat → ReplicaCall Unit
  | 0 => pure ()
  | count + 1 => do
      let replica ← Journaled.read
      match replica.store.logAt index with
      | none => applyPresent (index + 1) count
      | some entry =>
          applyEntry entry
          Journaled.modify fun replica => { replica with lastApplied := index }
          applyPresent (index + 1) count

/-- `request_vote`. -/
def requestVote
    (term : Int) (candidateId : Bytes)
    (candidateLastIndex candidateLastTerm : Int) :
    ReplicaCall Bool := do
  let replica ← Journaled.read
  if replica.online = false ∨ term < replica.currentTerm then
    return false
  if replica.currentTerm < term then
    Journaled.modify fun replica =>
      { replica with currentTerm := term, votedFor := [], role := .follower }
  let replica ← Journaled.read
  let ownLastTerm := replica.store.lastLogTerm
  let ownLastIndex := replica.store.lastLogIndex
  if (ownLastTerm < candidateLastTerm ∨
        (candidateLastTerm = ownLastTerm ∧
          ownLastIndex ≤ candidateLastIndex)) ∧
      (replica.votedFor = [] ∨ replica.votedFor = candidateId) then
    Journaled.modify fun replica => { replica with votedFor := candidateId }
    persistState
    return true
  else
    persistState
    return false

/-- The loop of `append_entries` over the received entries. -/
def reconcile : List LogEntry → ReplicaCall Unit
  | [] => pure ()
  | entry :: rest => do
      let replica ← Journaled.read
      match replica.store.logAt entry.index with
      | some existing =>
          if existing.term ≠ entry.term then
            execute (.truncateLogFrom entry.index)
      | none => pure ()
      let replica ← Journaled.read
      if (replica.store.logAt entry.index).isNone then
        execute (.appendLog entry)
      reconcile rest

/-- The commit part of `append_entries`. -/
def advanceCommit (leaderCommit : Int) : ReplicaCall Unit := do
  let replica ← Journaled.read
  let newCommit := min leaderCommit replica.store.lastLogIndex
  if replica.commitIndex < newCommit then
    applyUntilMissing (replica.lastApplied + 1)
      (newCommit - replica.lastApplied).toNat
    Journaled.modify fun replica =>
      { replica with commitIndex := max replica.commitIndex newCommit }

/-- `append_entries`. -/
def appendEntries
    (term : Int) (leaderId : Bytes) (prevLogIndex prevLogTerm : Int)
    (entries : List LogEntry) (leaderCommit : Int) :
    ReplicaCall Bool := do
  let replica ← Journaled.read
  if replica.online = false ∨ term < replica.currentTerm then
    return false
  if replica.currentTerm < term then
    Journaled.modify fun replica =>
      { replica with currentTerm := term, votedFor := [] }
  Journaled.modify fun replica =>
    { replica with role := .follower, votedFor := leaderId }
  if 0 < prevLogIndex ∧
      (replica.store.logAt prevLogIndex).map LogEntry.term ≠
        some prevLogTerm then
    persistState
    return false
  reconcile entries
  advanceCommit leaderCommit
  persistState
  return true

/-- `append_local`. -/
def appendLocal (command key value : Bytes) : ReplicaCall LogEntry := do
  let replica ← Journaled.read
  if replica.online = false ∨ replica.role ≠ .leader then
    Journaled.fail .appendLocalRequiresLeader
  else
    let entry : LogEntry :=
      { index := replica.store.lastLogIndex + 1
        term := replica.currentTerm
        command := command
        key := key
        value := value }
    execute (.appendLog entry)
    return entry

/-- `commit_to`. -/
def commitTo (index : Int) : ReplicaCall Unit := do
  let replica ← Journaled.read
  if replica.online = false then
    return ()
  let target := min index replica.store.lastLogIndex
  applyUntilMissing (replica.lastApplied + 1)
    (target - replica.lastApplied).toNat
  Journaled.modify fun replica =>
    { replica with commitIndex := max replica.commitIndex target }
  persistState

/-- `discard_uncommitted`. -/
def discardUncommitted : ReplicaCall Unit := do
  let replica ← Journaled.read
  execute (.truncateLogFrom (replica.commitIndex + 1))

/-- `get`. -/
def get (replica : RaftReplica) (key : Bytes) : Option Bytes :=
  if replica.online then replica.store.get key else none

/-- `export_snapshot`: the log is cut to `commit_index` entries.  A negative
index, cast to `size_t`, exceeds every size and cuts nothing. -/
def exportSnapshot (replica : RaftReplica) : ReplicaSnapshot where
  term := replica.currentTerm
  commitIndex := replica.commitIndex
  log :=
    if replica.commitIndex < 0 then
      replica.store.logsFrom 1
    else
      (replica.store.logsFrom 1).take replica.commitIndex.toNat

/-- `install_snapshot`. -/
def installSnapshot (snapshot : ReplicaSnapshot) : ReplicaCall Unit := do
  let replica ← Journaled.read
  if replica.online = false then
    return ()
  execute .clearAll
  Journaled.modify fun replica =>
    { replica with
      currentTerm := max replica.currentTerm snapshot.term
      votedFor := []
      role := .follower
      commitIndex := 0
      lastApplied := 0 }
  Journaled.forEach (fun entry => execute (.appendLog entry)) snapshot.log
  let replica ← Journaled.read
  let target := min snapshot.commitIndex replica.store.lastLogIndex
  applyPresent 1 target.toNat
  Journaled.modify fun replica => { replica with commitIndex := target }
  persistState

/-- `load_state`: a missing row leaves the member as it is. -/
def loadState : ReplicaCall Unit := do
  Journaled.modify fun replica =>
    { replica with
      currentTerm :=
        replica.store.metaTable.currentTerm.getD replica.currentTerm
      votedFor :=
        (replica.store.metaTable.votedFor.map cString).getD replica.votedFor
      commitIndex :=
        replica.store.metaTable.commitIndex.getD replica.commitIndex
      lastApplied :=
        replica.store.metaTable.lastApplied.getD replica.lastApplied }
  let replica ← Journaled.read
  if replica.lastApplied < replica.commitIndex then
    applyPresent (replica.lastApplied + 1)
      (replica.commitIndex - replica.lastApplied).toNat
    persistState

/-- The members of a replica before `load_state`. -/
def opened (id : Bytes) (store : SqliteStore) : RaftReplica where
  id := id
  store := store

end RaftReplica

end ShardedKvStore

import ShardedKvStore.Foundation.Runs
import ShardedKvStore.Foundation.Triples
import ShardedKvStore.Raft.Calls
import ShardedKvStore.Raft.Journals

/-!
# Votes of one replica

A replica is called in any order with any arguments, and restarted from its
database.  `request_vote` grants at most one candidate a vote in a term as long
as nothing takes the vote of the current term out of `voted_for_` again.  Three
calls can: `append_entries` writes its leader over it, `install_snapshot` clears
it, and a restart reads back what `c_str()` kept of it.
-/

namespace ShardedKvStore

open Foundation

/-- A granted vote. -/
structure Vote where
  term : Int
  candidate : Bytes
  deriving DecidableEq, Repr

/-- The granted votes are of earlier terms, or for the candidate on record. -/
def Remembers (votes : List Vote) (term : Int) (votedFor : Bytes) : Prop :=
  ∀ vote ∈ votes,
    vote.term < term ∨ vote.term = term ∧ vote.candidate = votedFor

theorem Remembers.of_newer
    {votes : List Vote} {term newer : Int} {votedFor : Bytes}
    (remembers : Remembers votes term votedFor) (later : term < newer)
    (candidate : Bytes) :
    Remembers votes newer candidate := by
  intro vote member
  left
  rcases remembers vote member with earlier | ⟨same, _⟩
  · exact earlier.trans later
  · exact same.trans_lt later

/-- The candidates are named by non-empty C strings, and each term has one. -/
structure OneVotePerTerm (votes : List Vote) : Prop where
  named : ∀ vote ∈ votes, vote.candidate ≠ [] ∧ NulFree vote.candidate
  unique :
    ∀ first ∈ votes, ∀ second ∈ votes,
      first.term = second.term → first.candidate = second.candidate

/-- Without a candidate on record no vote was granted in the term. -/
theorem Remembers.of_noVote
    {votes : List Vote} {term : Int}
    (remembers : Remembers votes term []) (one : OneVotePerTerm votes)
    (candidate : Bytes) :
    Remembers votes term candidate := by
  intro vote member
  rcases remembers vote member with earlier | ⟨_, nobody⟩
  · exact Or.inl earlier
  · exact absurd nobody (one.named vote member).1

theorem Remembers.grant
    {votes : List Vote} {term : Int} {candidate : Bytes}
    (remembers : Remembers votes term candidate) :
    Remembers (votes ++ [⟨term, candidate⟩]) term candidate := by
  intro vote member
  rcases List.mem_append.mp member with earlier | last
  · exact remembers vote earlier
  · rw [List.mem_singleton.mp last]
    exact Or.inr ⟨rfl, rfl⟩

theorem OneVotePerTerm.grant
    {votes : List Vote} {term : Int} {candidate : Bytes}
    (one : OneVotePerTerm votes)
    (named : candidate ≠ [] ∧ NulFree candidate)
    (remembers : Remembers votes term candidate) :
    OneVotePerTerm (votes ++ [⟨term, candidate⟩]) where
  named := by
    intro vote member
    rcases List.mem_append.mp member with earlier | last
    · exact one.named vote earlier
    · rw [List.mem_singleton.mp last]
      exact named
  unique := by
    have sameTerm {vote : Vote} (member : vote ∈ votes)
        (same : vote.term = term) : vote.candidate = candidate := by
      rcases remembers vote member with earlier | ⟨_, recorded⟩
      · exact absurd same earlier.ne
      · exact recorded
    intro first firstMember second secondMember same
    rcases List.mem_append.mp firstMember with earlier | last
    · rcases List.mem_append.mp secondMember with earlier' | last'
      · exact one.unique first earlier second earlier' same
      · rw [List.mem_singleton.mp last'] at same ⊢
        exact sameTerm earlier same
    · rw [List.mem_singleton.mp last] at same ⊢
      rcases List.mem_append.mp secondMember with earlier' | last'
      · exact (sameTerm earlier' same.symm).symm
      · rw [List.mem_singleton.mp last']

namespace RaftReplica

/-- Members and database both remember the granted votes. -/
structure KeepsVotes (votes : List Vote) (replica : RaftReplica) : Prop where
  members : Remembers votes replica.currentTerm replica.votedFor
  database :
    Remembers votes replica.store.currentTerm replica.store.votedFor

/-! ## Calls that leave the vote alone -/

/-- The part of a replica that votes depend on. -/
def voteView (replica : RaftReplica) : Int × Bytes × MetaTable :=
  (replica.currentTerm, replica.votedFor, replica.store.metaTable)

theorem follows_voteView :
    Follows voteView (fun view _ => view) where
  statement := by
    intro statement onData replica
    cases statement with
    | put =>
        rfl
    | erase =>
        rfl
    | appendLog =>
        rfl
    | truncateLogFrom =>
        rfl
    | setMeta =>
        exact onData.elim
    | clearAll =>
        exact onData.elim
  lastApplied := fun _ _ => rfl
  commitIndex := fun _ _ => rfl

section Calls

variable {votes : List Vote}

theorem KeepsVotes.congr
    {before after : RaftReplica}
    (keeps : KeepsVotes votes before)
    (same : voteView after = voteView before) :
    KeepsVotes votes after := by
  simp only [voteView, Prod.mk.injEq] at same
  obtain ⟨term, votedFor, rows⟩ := same
  refine ⟨?_, ?_⟩
  · rw [term, votedFor]
    exact keeps.members
  · unfold SqliteStore.currentTerm SqliteStore.votedFor
    rw [rows]
    exact keeps.database

/-- A call that leaves the view alone keeps the votes. -/
theorem triple_of_sameView
    (votes : List Vote) {Value : Type} {call : ReplicaCall Value}
    (leaves : Mirrors voteView (fun view _ => view) call) :
    Triple (KeepsVotes votes) call (fun _ => KeepsVotes votes)
      (KeepsVotes votes) := by
  have unchanged (view : Int × Bytes × MetaTable)
      (statements : List Statement) :
      statements.foldl (fun view _ => view) view = view := by
    induction statements with
    | nil =>
        rfl
    | cons _ rest inductionHypothesis =>
        exact inductionHypothesis
  intro replica keeps
  have same := leaves replica
  rw [unchanged] at same
  split
  · exact keeps.congr same
  · exact keeps.congr same

/-- `persist_state` writes down what the members remember. -/
theorem triple_persistState
    (one : OneVotePerTerm votes) {failed : RaftReplica → Prop} :
    Triple
      (fun replica =>
        Remembers votes replica.currentTerm replica.votedFor)
      persistState (fun _ => KeepsVotes votes) failed := by
  intro replica remembers
  refine ⟨remembers, ?_⟩
  change Remembers votes replica.currentTerm
    replica.persisted.store.votedFor
  rw [votedFor_persisted]
  intro vote member
  refine (remembers vote member).imp_right ?_
  rintro ⟨same, candidate⟩
  rw [← candidate, cString_of_nulFree (one.named vote member).2]
  exact ⟨same, rfl⟩

theorem triple_commitTo (one : OneVotePerTerm votes) (index : Int) :
    Triple (KeepsVotes votes) (commitTo index)
      (fun _ => KeepsVotes votes) (KeepsVotes votes) := by
  refine triple_bind_read fun replica keeps => ?_
  refine triple_ite (fun _ => ?_) fun _ => ?_
  · rintro _ rfl
    exact keeps
  · have applies :=
      triple_of_sameView votes
        (follows_voteView.mirrors_applyUntilMissing
          (replica.lastApplied + 1)
          (min index replica.store.lastLogIndex -
            replica.lastApplied).toNat)
    refine triple_bind (applies.strengthen fun _ same => same ▸ keeps)
      fun _ => ?_
    refine triple_bind (triple_modify _ fun _ keeps => ?_) fun _ =>
      triple_persistState one
    exact keeps.members

/-- The rule of `request_vote`.  Past the refusals the members are in the
requested term, as `inTerm` says; both answers then persist them. -/
theorem triple_requestVote_of
    {pre failed : RaftReplica → Prop} {post : Bool → RaftReplica → Prop}
    {term : Int} {candidateId : Bytes} {lastIndex lastTerm : Int}
    (inTerm : RaftReplica → Prop)
    (refused : ∀ replica, pre replica → post false replica)
    (newer :
      ∀ replica, pre replica → replica.currentTerm < term →
        inTerm
          { replica with
            currentTerm := term, votedFor := [], role := .follower })
    (same :
      ∀ replica, pre replica → replica.currentTerm = term → inTerm replica)
    (grants :
      ∀ replica, inTerm replica →
        (replica.votedFor = [] ∨ replica.votedFor = candidateId) →
          Triple
            (fun reached =>
              reached = { replica with votedFor := candidateId })
            persistState (fun _ => post true) failed)
    (denies : Triple inTerm persistState (fun _ => post false) failed) :
    Triple pre (requestVote term candidateId lastIndex lastTerm)
      post failed := by
  refine triple_bind_read fun replica start => ?_
  refine triple_ite (fun _ => ?_) fun accepted => ?_
  · rintro _ rfl
    exact refused _ start
  · have answers :
        Triple inTerm
          (do
            let replica ← Journaled.read
            let ownLastTerm := replica.store.lastLogTerm
            let ownLastIndex := replica.store.lastLogIndex
            if (ownLastTerm < lastTerm ∨
                  (lastTerm = ownLastTerm ∧ ownLastIndex ≤ lastIndex)) ∧
                (replica.votedFor = [] ∨
                  replica.votedFor = candidateId) then
              Journaled.modify fun replica =>
                { replica with votedFor := candidateId }
              persistState
              return true
            else
              persistState
              return false)
          post failed := by
      refine triple_bind_read fun reached entered => ?_
      refine triple_ite (fun ⟨_, free⟩ => ?_) fun _ => ?_
      · refine triple_bind (triple_modify _ ?_) fun _ =>
          triple_bind (grants reached entered free) fun _ =>
            triple_pure fun _ granted => granted
        rintro _ rfl
        rfl
      · refine triple_bind (denies.strengthen ?_) fun _ =>
          triple_pure fun _ denied => denied
        rintro _ rfl
        exact entered
    refine triple_ite (fun isNewer => ?_) fun notNewer => ?_
    · refine triple_bind (triple_modify inTerm ?_) fun _ => answers
      rintro _ rfl
      exact newer _ start isNewer
    · refine answers.strengthen ?_
      rintro _ rfl
      exact same _ start (by omega)

/-- A granted vote is the first of its term, or repeats the earlier one. -/
theorem triple_requestVote
    (one : OneVotePerTerm votes) (term : Int) {candidateId : Bytes}
    (named : candidateId ≠ [] ∧ NulFree candidateId)
    (lastIndex lastTerm : Int) :
    Triple (KeepsVotes votes)
      (requestVote term candidateId lastIndex lastTerm)
      (fun granted replica =>
        if granted = true then
          OneVotePerTerm (votes ++ [⟨term, candidateId⟩]) ∧
            KeepsVotes (votes ++ [⟨term, candidateId⟩]) replica
        else
          KeepsVotes votes replica)
      (fun _ => False) := by
  refine triple_requestVote_of
    (fun reached =>
      reached.currentTerm = term ∧
        Remembers votes reached.currentTerm reached.votedFor)
    (fun _ keeps => keeps) ?_ ?_ ?_ ?_
  · intro replica keeps newer
    exact ⟨rfl, keeps.members.of_newer newer []⟩
  · intro replica keeps sameTerm
    exact ⟨sameTerm, keeps.members⟩
  · rintro replica ⟨inTerm, remembers⟩ free
    have grants : Remembers votes term candidateId := by
      rw [inTerm] at remembers
      rcases free with nobody | same
      · rw [nobody] at remembers
        exact remembers.of_noVote one candidateId
      · rwa [same] at remembers
    have one' := one.grant named grants
    have written :
        Remembers (votes ++ [⟨term, candidateId⟩]) replica.currentTerm
          candidateId := by
      rw [inTerm]
      exact grants.grant
    have persists :
        Triple _ persistState
          (fun _ => KeepsVotes (votes ++ [⟨term, candidateId⟩]))
          (fun _ => False) :=
      triple_persistState one'
    rintro _ rfl
    exact ⟨one', persists _ written⟩
  · exact (triple_persistState one).strengthen fun _ entered => entered.2

/-- A received leader of the current term does not replace a recorded vote for
another. -/
def SameLeader
    (term : Int) (leaderId : Bytes) (replica : RaftReplica) : Prop :=
  replica.online = true → term = replica.currentTerm →
    replica.votedFor = [] ∨ leaderId = replica.votedFor

theorem triple_appendEntries
    (one : OneVotePerTerm votes) (term : Int) (leaderId : Bytes)
    (prevLogIndex prevLogTerm : Int) (entries : List LogEntry)
    (leaderCommit : Int) :
    Triple
      (fun replica =>
        KeepsVotes votes replica ∧ SameLeader term leaderId replica)
      (appendEntries term leaderId prevLogIndex prevLogTerm entries
        leaderCommit)
      (fun _ => KeepsVotes votes) (KeepsVotes votes) := by
  refine triple_bind_read fun replica ⟨keeps, sameLeader⟩ => ?_
  refine triple_ite (fun _ => ?_) fun accepted => ?_
  · rintro _ rfl
    exact keeps
  · obtain ⟨online, notOlder⟩ := not_or.mp accepted
    have saves :
        Triple (KeepsVotes votes) persistState
          (fun _ => KeepsVotes votes) (KeepsVotes votes) :=
      (triple_persistState one).strengthen fun _ keeps => keeps.members
    -- Both branches record the leader in the new term and go on from there.
    have records :
        Triple
          (fun state =>
            Remembers votes state.currentTerm leaderId ∧
              Remembers votes state.store.currentTerm
                state.store.votedFor)
          (do
            Journaled.modify fun replica =>
              { replica with role := .follower, votedFor := leaderId }
            if 0 < prevLogIndex ∧
                (replica.store.logAt prevLogIndex).map LogEntry.term ≠
                  some prevLogTerm then
              persistState
              return false
            reconcile entries
            advanceCommit leaderCommit
            persistState
            return true)
          (fun _ => KeepsVotes votes) (KeepsVotes votes) := by
      refine triple_bind
        (triple_modify _ fun _ both => KeepsVotes.mk both.1 both.2)
        fun _ => ?_
      refine triple_ite (fun _ => ?_) fun _ => ?_
      · exact triple_bind saves fun _ => triple_pure fun _ keeps => keeps
      · refine triple_bind
          (triple_of_sameView votes
            (follows_voteView.mirrors_reconcile _)) fun _ => ?_
        refine triple_bind
          (triple_of_sameView votes
            (follows_voteView.mirrors_advanceCommit _)) fun _ => ?_
        exact triple_bind saves fun _ => triple_pure fun _ keeps => keeps
    refine triple_ite (fun newer => ?_) fun notNewer => ?_
    · refine triple_bind (triple_modify _ ?_) fun _ => records
      rintro _ rfl
      exact ⟨keeps.members.of_newer newer leaderId, keeps.database⟩
    · refine records.strengthen ?_
      rintro _ rfl
      refine ⟨?_, keeps.database⟩
      rcases sameLeader (by simpa using online) (by omega) with
        nobody | same
      · have members := keeps.members
        rw [nobody] at members
        exact members.of_noVote one leaderId
      · rw [same]
        exact keeps.members

/-- A received snapshot has commands that can be applied, and a newer term unless
there is no vote to lose. -/
def NewerSnapshot
    (snapshot : ReplicaSnapshot) (replica : RaftReplica) : Prop :=
  replica.online = true →
    (∀ entry ∈ snapshot.log, entry.stored.Known) ∧
      (replica.votedFor = [] ∨ replica.currentTerm < snapshot.term)

/-- The members remember the votes, and every entry of the log can be applied. -/
def Rebuilding (votes : List Vote) (replica : RaftReplica) : Prop :=
  Remembers votes replica.currentTerm replica.votedFor ∧
    ∀ entry ∈ replica.store.log, entry.Known

theorem triple_applyPresent (index : Int) (count : Nat) :
    Triple (Rebuilding votes) (applyPresent index count)
      (fun _ => Rebuilding votes) (KeepsVotes votes) := by
  induction count generalizing index with
  | zero =>
      exact triple_pure fun _ rebuilding => rebuilding
  | succ remaining inductionHypothesis =>
      refine triple_bind_read fun replica ⟨remembers, known⟩ => ?_
      split
      · refine (inductionHypothesis (index + 1)).strengthen ?_
        rintro _ rfl
        exact ⟨remembers, known⟩
      case h_2 entry found =>
        have member : entry ∈ replica.store.log :=
          List.mem_of_find?_eq_some found
        have applies :
            Triple (fun state => state = replica) (applyEntry entry)
              (fun _ => Rebuilding votes) (KeepsVotes votes) := by
          rintro _ rfl
          rw [applyEntry_apply (known entry member)]
          refine ⟨remembers, ?_⟩
          rw [SqliteStore.execute_statement]
          exact known
        refine triple_bind applies fun _ => ?_
        refine triple_bind (triple_modify _ fun _ rebuilding => ?_) fun _ =>
          inductionHypothesis (index + 1)
        exact rebuilding

theorem triple_installSnapshot
    (one : OneVotePerTerm votes) (snapshot : ReplicaSnapshot) :
    Triple
      (fun replica =>
        KeepsVotes votes replica ∧ NewerSnapshot snapshot replica)
      (installSnapshot snapshot)
      (fun _ => KeepsVotes votes) (KeepsVotes votes) := by
  refine triple_bind_read fun replica ⟨keeps, newer⟩ => ?_
  refine triple_ite (fun _ => ?_) fun online => ?_
  · rintro _ rfl
    exact keeps
  · obtain ⟨known, free⟩ := newer (by simpa using online)
    have cleared :
        Triple (fun state => state = replica) (execute .clearAll)
          (fun _ state =>
            state.currentTerm = replica.currentTerm ∧
              state.store.log = [])
          (KeepsVotes votes) := by
      rintro _ rfl
      exact ⟨rfl, rfl⟩
    have remembers :
        Remembers votes (max replica.currentTerm snapshot.term) [] := by
      by_cases advances : replica.currentTerm < snapshot.term
      · rw [max_eq_right advances.le]
        exact keeps.members.of_newer advances []
      · rw [max_eq_left (not_lt.mp advances)]
        have members := keeps.members
        rwa [free.resolve_right advances] at members
    refine triple_bind cleared fun _ => ?_
    refine triple_bind
      (triple_modify (Rebuilding votes)
        fun state ⟨sameTerm, noLog⟩ => ?_) fun _ => ?_
    · refine ⟨?_, ?_⟩
      · rw [sameTerm]
        exact remembers
      · change ∀ entry ∈ state.store.log, _
        rw [noLog]
        exact fun _ member => absurd member List.not_mem_nil
    · refine triple_bind
        (triple_forEach fun entry member => ?_) fun _ => ?_
      · refine triple_perform fun state rebuilding => ⟨rebuilding.1, ?_⟩
        intro tested inLog
        rcases OrderedTable.mem_insertRow inLog with same | earlier
        · rw [same]
          exact known entry member
        · exact rebuilding.2 tested earlier
      · refine triple_bind_read fun state rebuilding => ?_
        refine triple_bind
          ((triple_applyPresent _ _).strengthen ?_) fun _ => ?_
        · rintro _ rfl
          exact rebuilding
        · refine triple_bind (triple_modify _ fun _ rebuilding => ?_)
            fun _ => triple_persistState one
          exact rebuilding.1

/-- A restarted replica takes the vote of its database. -/
theorem triple_loadState
    (one : OneVotePerTerm votes) {replica : RaftReplica}
    (keeps : KeepsVotes votes replica) :
    Triple (fun state => state = opened replica.id replica.store)
      loadState (fun _ => KeepsVotes votes) (KeepsVotes votes) := by
  refine triple_bind
    (triple_modify (KeepsVotes votes) fun state isOpened => ?_) fun _ => ?_
  · rw [isOpened]
    exact ⟨keeps.database, keeps.database⟩
  · refine triple_bind_read fun loaded keeps => ?_
    refine triple_ite (fun _ => ?_) fun _ => ?_
    · have applies :=
        triple_of_sameView votes
          (follows_voteView.mirrors_applyPresent
            (loaded.lastApplied + 1)
            (loaded.commitIndex - loaded.lastApplied).toNat)
      refine triple_bind (applies.strengthen fun _ same => same ▸ keeps)
        fun _ => ?_
      exact (triple_persistState one).strengthen fun _ keeps =>
        keeps.members
    · rintro _ rfl
      exact keeps

end Calls

end RaftReplica

/-! ## Runs of one replica -/

/-- The calls a replica may receive, and a restart. -/
inductive ReplicaRequest where
  | requestVote
      (term : Int) (candidateId : Bytes) (lastIndex lastTerm : Int)
  | appendEntries
      (term : Int) (leaderId : Bytes) (prevLogIndex prevLogTerm : Int)
      (entries : List LogEntry) (leaderCommit : Int)
  | installSnapshot (snapshot : ReplicaSnapshot)
  | commitTo (index : Int)
  | discardUncommitted
  | setOnline (online : Bool)
  | setRole (role : Role)
  | restart
  deriving DecidableEq, Repr

namespace ReplicaRequest

/-- Serve a request; the value says whether it granted a vote. -/
def serve : ReplicaRequest → ReplicaCall Bool
  | .requestVote term candidateId lastIndex lastTerm =>
      RaftReplica.requestVote term candidateId lastIndex lastTerm
  | .appendEntries term leaderId prevLogIndex prevLogTerm entries
      leaderCommit => do
      let _ ← RaftReplica.appendEntries term leaderId prevLogIndex
        prevLogTerm entries leaderCommit
      return false
  | .installSnapshot snapshot => do
      RaftReplica.installSnapshot snapshot
      return false
  | .commitTo index => do
      RaftReplica.commitTo index
      return false
  | .discardUncommitted => do
      RaftReplica.discardUncommitted
      return false
  | .setOnline online => do
      RaftReplica.setOnline online
      return false
  | .setRole role => do
      RaftReplica.setRole role
      return false
  | .restart => do
      Journaled.modify fun replica =>
        RaftReplica.opened replica.id replica.store
      RaftReplica.loadState
      return false

/-- Candidates have non-empty identifiers. -/
def Named : ReplicaRequest → Prop
  | .requestVote _ candidateId _ _ => candidateId ≠ []
  | _ => True

/-- The request does not take a recorded vote away: candidates are named by
C strings, a leader of the current term is the candidate that has the vote, and
a snapshot has a newer term and commands that can be applied. -/
def KeepsVote : ReplicaRequest → RaftReplica → Prop
  | .requestVote _ candidateId _ _, _ => NulFree candidateId
  | .appendEntries term leaderId _ _ _ _, replica =>
      replica.SameLeader term leaderId
  | .installSnapshot snapshot, replica => replica.NewerSnapshot snapshot
  | _, _ => True

end ReplicaRequest

/-- A request with the answer to it. -/
abbrev ReplicaLabel : Type :=
  ReplicaRequest × Except KvError Bool

/-- The steps of a replica.  A call may throw and leave the replica where it
stopped; a restart that throws leaves no replica to go on with. -/
inductive ReplicaStep :
    RaftReplica → ReplicaLabel → RaftReplica → Prop
  | served (replica : RaftReplica) (request : ReplicaRequest) :
      request.Named →
      (request = .restart → (request.serve replica).result = .ok false) →
      ReplicaStep replica (request, (request.serve replica).result)
        (request.serve replica).state

/-- A step by a request that does not take a recorded vote away. -/
def VoteKeepingStep
    (replica : RaftReplica) (label : ReplicaLabel) (next : RaftReplica) :
    Prop :=
  ReplicaStep replica label next ∧ label.1.KeepsVote replica

/-- The votes granted in a run. -/
def grantedVotes (labels : List ReplicaLabel) : List Vote :=
  labels.filterMap fun label =>
    match label with
    | (.requestVote term candidateId _ _, .ok true) =>
        some ⟨term, candidateId⟩
    | _ => none

theorem grantedVotes_append (labels : List ReplicaLabel) (label : ReplicaLabel) :
    grantedVotes (labels ++ [label]) =
      grantedVotes labels ++ grantedVotes [label] :=
  List.filterMap_append

section Serve

variable {votes : List Vote} {replica : RaftReplica}

/-- A call that keeps the votes, with its answer left out. -/
private theorem keepsVotes_of_triple
    {Value : Type} {call : ReplicaCall Value} {pre : RaftReplica → Prop}
    (triple :
      Triple pre call (fun _ => RaftReplica.KeepsVotes votes)
        (RaftReplica.KeepsVotes votes))
    (start : pre replica) :
    ((do
      let _ ← call
      return false : ReplicaCall Bool) replica).state.KeepsVotes votes := by
  have whole :
      Triple pre
        (do
          let _ ← call
          return false : ReplicaCall Bool)
        (fun _ => RaftReplica.KeepsVotes votes)
        (RaftReplica.KeepsVotes votes) :=
    triple_bind triple fun _ => triple_pure fun _ keeps => keeps
  exact whole.always start

/-- A request that is not a vote keeps the granted votes. -/
theorem keepsVotes_serve
    (one : OneVotePerTerm votes) {request : ReplicaRequest}
    (noVote : ∀ label, grantedVotes [(request, label)] = [])
    (keeps : replica.KeepsVotes votes)
    (keepsVote : request.KeepsVote replica) :
    (request.serve replica).state.KeepsVotes votes := by
  cases request with
  | requestVote term candidateId lastIndex lastTerm =>
      exact absurd (noVote (.ok true)) (List.cons_ne_nil _ _)
  | appendEntries term leaderId prevLogIndex prevLogTerm entries
      leaderCommit =>
      exact keepsVotes_of_triple
        (RaftReplica.triple_appendEntries one term leaderId prevLogIndex
          prevLogTerm entries leaderCommit) ⟨keeps, keepsVote⟩
  | installSnapshot snapshot =>
      exact keepsVotes_of_triple
        (RaftReplica.triple_installSnapshot one snapshot)
        ⟨keeps, keepsVote⟩
  | commitTo index =>
      exact keepsVotes_of_triple
        (RaftReplica.triple_commitTo one index) keeps
  | discardUncommitted =>
      exact keeps.congr rfl
  | setOnline online =>
      exact keeps.congr rfl
  | setRole role =>
      exact keeps.congr rfl
  | restart =>
      exact keepsVotes_of_triple
        (RaftReplica.triple_loadState one keeps) rfl

/-- A vote keeps the granted votes and is added to them when it is granted. -/
private theorem keepsVotes_requestVote
    (one : OneVotePerTerm votes) {term : Int} {candidateId : Bytes}
    (named : candidateId ≠ [] ∧ NulFree candidateId)
    (lastIndex lastTerm : Int) (keeps : replica.KeepsVotes votes) :
    OneVotePerTerm
        (votes ++
          grantedVotes
            [(.requestVote term candidateId lastIndex lastTerm,
              (RaftReplica.requestVote term candidateId lastIndex lastTerm
                replica).result)]) ∧
      (RaftReplica.requestVote term candidateId lastIndex lastTerm
        replica).state.KeepsVotes
          (votes ++
            grantedVotes
              [(.requestVote term candidateId lastIndex lastTerm,
                (RaftReplica.requestVote term candidateId lastIndex lastTerm
                  replica).result)]) := by
  have voted :=
    RaftReplica.triple_requestVote one term named lastIndex lastTerm
      replica keeps
  generalize
    RaftReplica.requestVote term candidateId lastIndex lastTerm replica =
      outcome at voted ⊢
  obtain ⟨answer, next, journal⟩ := outcome
  cases answer with
  | error failure =>
      exact voted.elim
  | ok granted =>
      cases granted with
      | true =>
          exact voted
      | false =>
          have noVote :
              grantedVotes
                  [(.requestVote term candidateId lastIndex lastTerm,
                    .ok false)] = [] :=
            rfl
          rw [noVote, List.append_nil]
          exact ⟨one, voted⟩

/-- A step keeps what is remembered of the votes, with a new one added when it
was granted. -/
theorem VoteKeepingStep.keepsVotes
    {label : ReplicaLabel} {next : RaftReplica}
    (step : VoteKeepingStep replica label next)
    (one : OneVotePerTerm votes) (keeps : replica.KeepsVotes votes) :
    OneVotePerTerm (votes ++ grantedVotes [label]) ∧
      next.KeepsVotes (votes ++ grantedVotes [label]) := by
  obtain ⟨served, keepsVote⟩ := step
  cases served with
  | served request named _ =>
    by_cases noVote : ∀ label, grantedVotes [(request, label)] = []
    · rw [noVote, List.append_nil]
      exact ⟨one, keepsVotes_serve one noVote keeps keepsVote⟩
    · cases request with
      | requestVote term candidateId lastIndex lastTerm =>
          exact keepsVotes_requestVote one ⟨named, keepsVote⟩ lastIndex
            lastTerm keeps
      | _ =>
          exact absurd (fun _ => rfl) noVote

end Serve

/-- In a run that takes no recorded vote away a replica grants at most one
candidate a vote in a term. -/
theorem at_most_one_vote_per_term
    {start : RaftReplica → Prop} {labels : List ReplicaLabel}
    {replica : RaftReplica}
    (run : Run start VoteKeepingStep labels replica) :
    ∀ first ∈ grantedVotes labels, ∀ second ∈ grantedVotes labels,
      first.term = second.term → first.candidate = second.candidate := by
  have kept :
      OneVotePerTerm (grantedVotes labels) ∧
        replica.KeepsVotes (grantedVotes labels) := by
    induction run with
    | initial _ =>
        refine ⟨⟨?_, ?_⟩, ⟨?_, ?_⟩⟩
        all_goals
          exact fun _ member => absurd member List.not_mem_nil
    | extend _ stepped inductionHypothesis =>
        rw [grantedVotes_append]
        exact stepped.keepsVotes inductionHypothesis.1
          inductionHypothesis.2
  exact kept.1.unique

/-- A new replica, on an empty database. -/
def newReplica : RaftReplica :=
  RaftReplica.opened (bytes "r") SqliteStore.empty

theorem ReplicaStep.vote
    (replica : RaftReplica) (term : Int) {candidateId : Bytes}
    (named : candidateId ≠ []) :
    ReplicaStep replica
      (.requestVote term candidateId 0 0,
        (RaftReplica.requestVote term candidateId 0 0 replica).result)
      (RaftReplica.requestVote term candidateId 0 0 replica).state :=
  .served replica (.requestVote term candidateId 0 0) named
    fun isRestart => by cases isRestart

/-- A snapshot of the same term between two requests lets a replica vote for
two candidates. -/
theorem two_votes_in_one_term :
    ∃ labels replica,
      Run (fun state => state = newReplica) ReplicaStep labels replica ∧
        grantedVotes labels =
          [⟨1, bytes "a"⟩, ⟨1, bytes "b"⟩] := by
  have nothing :
      Run (fun state => state = newReplica) ReplicaStep [] newReplica :=
    .initial rfl
  have voted := nothing.extend (.vote _ 1 (List.cons_ne_nil 97 []))
  have cleared := voted.extend
    (.served _ (.installSnapshot { term := 1 }) trivial
      fun isRestart => by cases isRestart)
  have votedAgain := cleared.extend (.vote _ 1 (List.cons_ne_nil 98 []))
  exact ⟨_, _, votedAgain, by decide +kernel⟩

/-- A replica that votes, restarts, refuses another candidate in the same term
and votes for it in the next. -/
theorem one_vote_per_term_across_restart :
    ∃ labels replica,
      Run (fun state => state = newReplica) VoteKeepingStep labels
          replica ∧
        grantedVotes labels = [⟨1, bytes "a"⟩, ⟨2, bytes "b"⟩] ∧
        ∀ first ∈ grantedVotes labels, ∀ second ∈ grantedVotes labels,
          first.term = second.term →
            first.candidate = second.candidate := by
  have nothing :
      Run (fun state => state = newReplica) VoteKeepingStep []
        newReplica :=
    .initial rfl
  have voted := nothing.extend
    ⟨.vote _ 1 (List.cons_ne_nil 97 []),
      (by decide : NulFree (bytes "a"))⟩
  have restarted := voted.extend
    ⟨.served _ .restart trivial fun _ => by decide +kernel, trivial⟩
  have refused := restarted.extend
    ⟨.vote _ 1 (List.cons_ne_nil 98 []),
      (by decide : NulFree (bytes "b"))⟩
  have votedNext := refused.extend
    ⟨.vote _ 2 (List.cons_ne_nil 98 []),
      (by decide : NulFree (bytes "b"))⟩
  exact ⟨_, _, votedNext, by decide +kernel,
    at_most_one_vote_per_term votedNext⟩

end ShardedKvStore

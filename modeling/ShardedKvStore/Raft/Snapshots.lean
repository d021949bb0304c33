import ShardedKvStore.Foundation.Triples
import ShardedKvStore.Raft.Calls
import ShardedKvStore.Raft.Journals

/-!
# Stopping inside a snapshot installation

`install_snapshot` clears the database in one transaction and fills it by
statements of their own: the entries, the applied rows, and the four rows of
`meta`.  A stop after any of them leaves a database of which `load_state` makes
a replica.  That is the replica from before the call or the one a completed call
leaves only where almost nothing is installed: the cleared database has term
zero, whatever term the replica was in.
-/

namespace ShardedKvStore.RaftReplica

open Foundation

/-- What a replica keeps across a restart. -/
structure Remains where
  currentTerm : Int := 0
  votedFor : Bytes := []
  commitIndex : Int := 0
  lastApplied : Int := 0
  log : List LogEntry := []
  kv : Bytes → Option Bytes := fun _ => none

/-- The part of a replica that is kept. -/
def remains (replica : RaftReplica) : Remains where
  currentTerm := replica.currentTerm
  votedFor := replica.votedFor
  commitIndex := replica.commitIndex
  lastApplied := replica.lastApplied
  log := replica.store.log
  kv := replica.store.kv

/-- What is kept of the replica that `load_state` makes of a database. -/
def reconstructed (id : Bytes) (store : SqliteStore) :
    Except KvError Remains :=
  (loadState (opened id store)).result.map fun _ =>
    (loadState (opened id store)).state.remains

/-- Without anything to redo the replica is what the database says. -/
theorem reconstructed_idle
    {id : Bytes} {store : SqliteStore}
    (idle : ¬ store.lastApplied < store.commitIndex) :
    reconstructed id store =
      .ok
        { currentTerm := store.currentTerm
          votedFor := store.votedFor
          commitIndex := store.commitIndex
          lastApplied := store.lastApplied
          log := store.log
          kv := store.kv } := by
  unfold reconstructed
  rw [loadState_opened, if_neg idle]
  rfl

/-- Applying entries leaves the members and the tables that are not applied
to. -/
structure SameButApplied (before after : RaftReplica) : Prop where
  currentTerm : after.currentTerm = before.currentTerm
  votedFor : after.votedFor = before.votedFor
  commitIndex : after.commitIndex = before.commitIndex
  log : after.store.log = before.store.log

theorem sameButApplied_applyPresent
    (before : RaftReplica) (index : Int) (count : Nat) :
    Triple (SameButApplied before) (applyPresent index count)
      (fun _ => SameButApplied before) (SameButApplied before) := by
  have statements {statement : Statement}
      (sameLog :
        ∀ store : SqliteStore, (store.execute statement).log = store.log) :
      Triple (SameButApplied before) (execute statement)
        (fun _ => SameButApplied before) (SameButApplied before) :=
    triple_perform fun state same =>
      ⟨same.currentTerm, same.votedFor, same.commitIndex,
        (sameLog state.store).trans same.log⟩
  induction count generalizing index with
  | zero =>
      exact triple_pure fun _ same => same
  | succ remaining inductionHypothesis =>
      refine triple_bind_read fun replica same => ?_
      split
      · refine (inductionHypothesis (index + 1)).strengthen ?_
        rintro _ rfl
        exact same
      case h_2 entry _ =>
        have applies :
            Triple (SameButApplied before) (applyEntry entry)
              (fun _ => SameButApplied before) (SameButApplied before) := by
          refine triple_ite (fun _ => statements fun _ => rfl) fun _ => ?_
          exact triple_ite (fun _ => statements fun _ => rfl)
            fun _ _ unchanged => unchanged
        refine triple_bind (applies.strengthen ?_) fun _ => ?_
        · rintro _ rfl
          exact same
        · refine triple_bind (triple_modify _ fun _ same => ?_) fun _ =>
            inductionHypothesis (index + 1)
          exact ⟨same.currentTerm, same.votedFor, same.commitIndex,
            same.log⟩

/-- A reconstructed replica has the term, the commit index and the log of its
database. -/
theorem reconstructed_ok
    {id : Bytes} {store : SqliteStore} {found : Remains}
    (loads : reconstructed id store = .ok found) :
    found.currentTerm = store.currentTerm ∧
      found.commitIndex = store.commitIndex ∧ found.log = store.log := by
  by_cases behind : store.lastApplied < store.commitIndex
  · unfold reconstructed at loads
    rw [loadState_opened, if_pos behind] at loads
    have same :=
      (sameButApplied_applyPresent (readBack id store)
        (store.lastApplied + 1)
        (store.commitIndex - store.lastApplied).toNat).always
          ⟨rfl, rfl, rfl, rfl⟩
    generalize applyPresent (store.lastApplied + 1)
      (store.commitIndex - store.lastApplied).toNat (readBack id store) =
        outcome at loads same
    obtain ⟨result, after, journal⟩ := outcome
    cases result with
    | error failure =>
        cases loads
    | ok value =>
        obtain rfl : after.persisted.remains = found :=
          Except.ok.inj loads
        exact ⟨same.currentTerm, same.commitIndex, same.log⟩
  · rw [reconstructed_idle behind] at loads
    obtain rfl := Except.ok.inj loads
    exact ⟨rfl, rfl, rfl⟩

/-! ## The statements of an installation -/

section Install

variable {replica : RaftReplica} {snapshot : ReplicaSnapshot}
  (online : replica.online = true)
  (contiguous : OrderedTable.Contiguous LogEntry.index snapshot.log)

include online contiguous

/-- An installation that applies nothing. -/
theorem installSnapshot_unapplied
    (none : min snapshot.commitIndex snapshot.log.length ≤ 0) :
    installSnapshot snapshot replica =
      ⟨.ok (),
        { replica.copied snapshot with
          commitIndex :=
            min snapshot.commitIndex snapshot.log.length }.persisted,
        .clearAll ::
          (snapshot.log.map .appendLog ++
            persistRows (max replica.currentTerm snapshot.term) []
              (min snapshot.commitIndex snapshot.log.length) 0)⟩ := by
  rw [installSnapshot_copied online contiguous,
    Int.toNat_of_nonpos none]
  rfl

/-- What an installation that applies nothing leaves. -/
theorem reconstructed_unapplied
    (none : min snapshot.commitIndex snapshot.log.length ≤ 0) :
    reconstructed replica.id
        (installSnapshot snapshot replica).state.store =
      .ok
        { currentTerm := max replica.currentTerm snapshot.term
          commitIndex := min snapshot.commitIndex snapshot.log.length
          log := snapshot.log.map LogEntry.stored } := by
  obtain ⟨log, kv, _⟩ := store_copied replica contiguous
  rw [installSnapshot_unapplied online contiguous none,
    reconstructed_idle (by exact not_lt.mpr none)]
  change
    Except.ok
      (Remains.mk (max replica.currentTerm snapshot.term) []
        (min snapshot.commitIndex snapshot.log.length) 0
        (replica.copied snapshot).store.log
        (replica.copied snapshot).store.kv) = _
  rw [log, kv]

/-- The statements start with the clearing and the copies. -/
theorem journal_installSnapshot :
    ∃ rest,
      (installSnapshot snapshot replica).journal =
        .clearAll :: (snapshot.log.map .appendLog ++ rest) := by
  rw [installSnapshot_copied online contiguous]
  exact ⟨_, rfl⟩

/-- The database of a completed installation. -/
theorem installSnapshot_completed
    (completed : (installSnapshot snapshot replica).result = .ok ()) :
    (installSnapshot snapshot replica).state.store.currentTerm =
        max replica.currentTerm snapshot.term ∧
      (installSnapshot snapshot replica).state.store.commitIndex =
        min snapshot.commitIndex snapshot.log.length ∧
      (installSnapshot snapshot replica).state.store.log =
        snapshot.log.map LogEntry.stored := by
  have same :=
    (sameButApplied_applyPresent (replica.copied snapshot) 1
      (min snapshot.commitIndex snapshot.log.length).toNat).always
        ⟨rfl, rfl, rfl, rfl⟩
  rw [installSnapshot_copied online contiguous] at completed ⊢
  generalize applyPresent 1
    (min snapshot.commitIndex snapshot.log.length).toNat
    (replica.copied snapshot) = outcome at completed same ⊢
  obtain ⟨result, after, journal⟩ := outcome
  cases result with
  | error failure =>
      cases completed
  | ok value =>
      exact ⟨same.currentTerm, rfl,
        same.log.trans (store_copied replica contiguous).1⟩

end Install

/-- A stopped installation: a restart finds the replica from before the call or
the one of a completed call, and neither term nor commit index goes back behind
both. -/
structure StopsAtomically
    (replica : RaftReplica) (snapshot : ReplicaSnapshot)
    (stopped : SqliteStore) : Prop where
  oldOrNew :
    reconstructed replica.id stopped =
        reconstructed replica.id replica.store ∨
      (installSnapshot snapshot replica).result = .ok () ∧
        reconstructed replica.id stopped =
          reconstructed replica.id
            (installSnapshot snapshot replica).state.store
  term :
    replica.store.currentTerm ≤ snapshot.term →
      replica.store.currentTerm ≤ stopped.currentTerm
  commit :
    replica.store.commitIndex ≤ snapshot.commitIndex →
      replica.store.commitIndex ≤ stopped.commitIndex

/-- An installation that may stop after every statement. -/
def InstallsAtomically
    (replica : RaftReplica) (snapshot : ReplicaSnapshot) : Prop :=
  CrashSafe SqliteStore.execute (replica.StopsAtomically snapshot)
    replica.store (installSnapshot snapshot replica).journal

/-- An installation that leaves an empty database, without a term to lose. -/
def InstallsNothing
    (replica : RaftReplica) (snapshot : ReplicaSnapshot) : Prop :=
  snapshot.log = [] ∧ 0 ≤ snapshot.commitIndex ∧
    max replica.currentTerm snapshot.term = 0 ∧
    (replica.store.commitIndex ≤ 0 ∨
      snapshot.commitIndex < replica.store.commitIndex)

/-- An installation on an empty database that changes it in one step. -/
def InstallsOnBlank
    (replica : RaftReplica) (snapshot : ReplicaSnapshot) : Prop :=
  reconstructed replica.id replica.store = .ok {} ∧
    (snapshot.log = [] ∧
        (0 ≤ snapshot.commitIndex ∨
          max replica.currentTerm snapshot.term = 0) ∨
      snapshot.log.length = 1 ∧ snapshot.commitIndex = 0 ∧
        max replica.currentTerm snapshot.term = 0)

section Atomic

variable {replica : RaftReplica} {snapshot : ReplicaSnapshot}
  (contiguous : OrderedTable.Contiguous LogEntry.index snapshot.log)

include contiguous

/-- A stop that is not the old replica is the new one. -/
theorem InstallsAtomically.completed
    (online : replica.online = true)
    (atomically : replica.InstallsAtomically snapshot)
    {cut : Nat} {found : Remains}
    (stops :
      reconstructed replica.id
          (replica.store.executeAll
            ((installSnapshot snapshot replica).journal.take cut)) =
        .ok found)
    (isNew : reconstructed replica.id replica.store ≠ .ok found) :
    found.currentTerm = max replica.currentTerm snapshot.term ∧
      found.commitIndex = min snapshot.commitIndex snapshot.log.length ∧
      found.log = snapshot.log.map LogEntry.stored := by
  rcases (atomically cut).oldOrNew with isOld | ⟨completed, same⟩
  · exact absurd (isOld.symm.trans stops) isNew
  · obtain ⟨term, commit, log⟩ :=
      installSnapshot_completed online contiguous completed
    obtain ⟨sameTerm, sameCommit, sameLog⟩ :=
      reconstructed_ok (same.symm.trans stops)
    exact ⟨sameTerm.trans term, sameCommit.trans commit,
      sameLog.trans log⟩

/-- The database that was cleared and not yet filled has to be the old one or
the new one. -/
theorem InstallsAtomically.nothing_or_blank
    (online : replica.online = true)
    (atomically : replica.InstallsAtomically snapshot) :
    replica.InstallsNothing snapshot ∨
      replica.InstallsOnBlank snapshot := by
  obtain ⟨rest, journal⟩ := journal_installSnapshot online contiguous
  have cleared :
      reconstructed replica.id
          (replica.store.executeAll
            ((installSnapshot snapshot replica).journal.take 1)) =
        .ok {} := by
    rw [journal]
    exact reconstructed_idle (lt_irrefl (0 : Int))
  by_cases blank : reconstructed replica.id replica.store = .ok {}
  · refine Or.inr ⟨blank, ?_⟩
    cases log : snapshot.log with
    | nil =>
        left
        refine ⟨rfl, ?_⟩
        -- The stop after the term was written and before the commit index.
        have termWritten :
            reconstructed replica.id
                (replica.store.executeAll
                  ((installSnapshot snapshot replica).journal.take 2)) =
              .ok
                { currentTerm :=
                    max replica.currentTerm snapshot.term } := by
          rw [installSnapshot_unapplied online contiguous
            (by rw [log]; exact min_le_right _ _), log]
          exact reconstructed_idle (lt_irrefl (0 : Int))
        by_cases noTerm : max replica.currentTerm snapshot.term = 0
        · exact Or.inr noTerm
        · have new :=
            atomically.completed contiguous online termWritten (by
              rw [blank]
              intro same
              exact noTerm
                (congrArg Remains.currentTerm (Except.ok.inj same)).symm)
          have commit := new.2.1
          rw [log] at commit
          change 0 = min snapshot.commitIndex 0 at commit
          exact Or.inl (by omega)
    | cons first others =>
        right
        have copiedFirst :
            reconstructed replica.id
                (replica.store.executeAll
                  ((installSnapshot snapshot replica).journal.take 2)) =
              .ok { log := [first.stored] } := by
          rw [journal, log]
          exact reconstructed_idle (lt_irrefl (0 : Int))
        obtain ⟨term, commit, rows⟩ :=
          atomically.completed contiguous online copiedFirst (by
            rw [blank]
            intro same
            cases congrArg Remains.log (Except.ok.inj same))
        rw [log] at commit rows
        have single : others = [] := by
          simpa using rows
        rw [single] at commit ⊢
        change 0 = min snapshot.commitIndex 1 at commit
        exact ⟨rfl, by omega, term.symm⟩
  · left
    obtain ⟨term, commit, rows⟩ :=
      atomically.completed contiguous online cleared blank
    have log : snapshot.log = [] := List.map_eq_nil_iff.mp rows.symm
    have commitKept := (atomically 1).commit
    rw [journal] at commitKept
    change _ → _ ≤ (0 : Int) at commitKept
    rw [log] at commit
    change 0 = min snapshot.commitIndex 0 at commit
    exact ⟨log, by omega, term.symm, by omega⟩

end Atomic

section Sufficient

variable {replica : RaftReplica} {snapshot : ReplicaSnapshot}

theorem stopsAtomically_start :
    replica.StopsAtomically snapshot replica.store :=
  ⟨Or.inl rfl, fun _ => le_rfl, fun _ => le_rfl⟩

theorem installsAtomically_of_offline (offline : replica.online = false) :
    replica.InstallsAtomically snapshot := by
  have returns :
      installSnapshot snapshot replica = ⟨.ok (), replica, []⟩ := by
    simp [installSnapshot, offline]
  unfold InstallsAtomically
  rw [returns, crashSafe_nil]
  exact stopsAtomically_start

theorem InstallsNothing.installsAtomically
    (nothing : replica.InstallsNothing snapshot)
    (online : replica.online = true) :
    replica.InstallsAtomically snapshot := by
  obtain ⟨log, commitNonneg, noTerm, commitKept⟩ := nothing
  have noCommit : min snapshot.commitIndex (snapshot.log.length : Int) = 0 := by
    rw [log]
    exact min_eq_right commitNonneg
  have contiguous :
      OrderedTable.Contiguous LogEntry.index snapshot.log := by
    rw [log]
    exact OrderedTable.contiguous_nil
  have installs := installSnapshot_unapplied online contiguous noCommit.le
  have final := reconstructed_unapplied online contiguous noCommit.le
  rw [noCommit, noTerm, log] at final installs
  -- After the clearing every stop leaves the database without contents.
  have stops
      {stopped : SqliteStore}
      (emptied : reconstructed replica.id stopped = .ok {}) :
      replica.StopsAtomically snapshot stopped := by
    obtain ⟨term, commit, _⟩ := reconstructed_ok emptied
    change 0 = _ at term
    change 0 = _ at commit
    refine ⟨Or.inr ⟨by rw [installs], emptied.trans final.symm⟩, ?_, ?_⟩
    · omega
    · omega
  unfold InstallsAtomically
  rw [installs]
  simp only [persistRows, List.map_nil, List.nil_append, crashSafe_cons,
    crashSafe_nil]
  refine ⟨stopsAtomically_start, stops ?_, stops ?_, stops ?_, stops ?_,
    stops ?_⟩
  all_goals
    exact reconstructed_idle (lt_irrefl (0 : Int))

/-- On a blank database only the completed replica is not the old one. -/
theorem stopsAtomically_of_blank
    {stopped : SqliteStore} {found : Remains}
    (blank : reconstructed replica.id replica.store = .ok {})
    (completed : (installSnapshot snapshot replica).result = .ok ())
    (final :
      reconstructed replica.id
          (installSnapshot snapshot replica).state.store = .ok found)
    (stops :
      reconstructed replica.id stopped = .ok {} ∨
        reconstructed replica.id stopped = .ok found)
    (term : found.currentTerm = max replica.currentTerm snapshot.term)
    (commit : 0 ≤ snapshot.commitIndex → 0 ≤ found.commitIndex) :
    replica.StopsAtomically snapshot stopped := by
  obtain ⟨noTerm, noCommit, _⟩ := reconstructed_ok blank
  change 0 = _ at noTerm
  change 0 = _ at noCommit
  rcases stops with isOld | isNew
  · obtain ⟨oldTerm, oldCommit, _⟩ := reconstructed_ok isOld
    change 0 = _ at oldTerm
    change 0 = _ at oldCommit
    refine ⟨Or.inl (isOld.trans blank.symm), ?_, ?_⟩
    · omega
    · omega
  · obtain ⟨newTerm, newCommit, _⟩ := reconstructed_ok isNew
    refine ⟨Or.inr ⟨completed, isNew.trans final.symm⟩, ?_, ?_⟩
    · omega
    · omega

theorem InstallsOnBlank.installsAtomically
    (onBlank : replica.InstallsOnBlank snapshot)
    (online : replica.online = true)
    (contiguous : OrderedTable.Contiguous LogEntry.index snapshot.log) :
    replica.InstallsAtomically snapshot := by
  obtain ⟨blank, small⟩ := onBlank
  have none : min snapshot.commitIndex (snapshot.log.length : Int) ≤ 0 := by
    rcases small with ⟨log, _⟩ | ⟨_, noCommit, _⟩
    · rw [log]
      exact min_le_right _ _
    · omega
  have installs := installSnapshot_unapplied online contiguous none
  have final := reconstructed_unapplied online contiguous none
  have completed : (installSnapshot snapshot replica).result = .ok () := by
    rw [installs]
  have commitNonneg :
      0 ≤ snapshot.commitIndex →
        0 ≤ min snapshot.commitIndex (snapshot.log.length : Int) := by
    omega
  have stops
      {stopped : SqliteStore}
      (oldOrNew :
        reconstructed replica.id stopped = .ok {} ∨
          reconstructed replica.id stopped = .ok _) :
      replica.StopsAtomically snapshot stopped :=
    stopsAtomically_of_blank blank completed final oldOrNew rfl commitNonneg
  unfold InstallsAtomically
  rw [installs]
  rcases small with ⟨log, nonnegOrNoTerm⟩ | ⟨length, noCommit, noTerm⟩
  · rw [log] at none stops
    -- Until the commit index is written there is only the term.
    have early
        {stopped : SqliteStore}
        (found :
          reconstructed replica.id stopped =
            .ok
              { currentTerm := max replica.currentTerm snapshot.term }) :
        replica.StopsAtomically snapshot stopped := by
      apply stops
      rcases nonnegOrNoTerm with nonneg | noTerm
      · right
        rw [found, List.length_nil, Nat.cast_zero, min_eq_right nonneg]
        rfl
      · left
        rw [found, noTerm]
    rw [log]
    simp only [persistRows, List.map_nil, List.nil_append, crashSafe_cons,
      crashSafe_nil]
    refine ⟨stopsAtomically_start, stops (Or.inl ?_), early ?_, early ?_,
      stops (Or.inr ?_), stops (Or.inr ?_)⟩
    · exact reconstructed_idle (lt_irrefl (0 : Int))
    · exact reconstructed_idle (lt_irrefl (0 : Int))
    · exact reconstructed_idle (lt_irrefl (0 : Int))
    · exact reconstructed_idle (not_lt.mpr none)
    · exact reconstructed_idle (not_lt.mpr none)
  · obtain ⟨entry, log⟩ := List.length_eq_one_iff.mp length
    rw [log, noCommit, noTerm] at stops
    rw [log, noCommit, noTerm]
    simp only [persistRows, List.map_cons, List.map_nil, List.cons_append,
      List.nil_append, crashSafe_cons, crashSafe_nil]
    refine ⟨stopsAtomically_start, stops (Or.inl ?_), stops (Or.inr ?_),
      stops (Or.inr ?_), stops (Or.inr ?_), stops (Or.inr ?_),
      stops (Or.inr ?_)⟩
    all_goals
      exact reconstructed_idle (lt_irrefl (0 : Int))

/-- Installing a snapshot is atomic exactly for an offline replica, which ignores
it, when nothing is installed, and on a blank database that one step changes. -/
theorem installsAtomically_iff
    (replica : RaftReplica) {snapshot : ReplicaSnapshot}
    (contiguous : OrderedTable.Contiguous LogEntry.index snapshot.log) :
    replica.InstallsAtomically snapshot ↔
      replica.online = false ∨ replica.InstallsNothing snapshot ∨
        replica.InstallsOnBlank snapshot := by
  rcases Bool.eq_false_or_eq_true replica.online with online | offline
  · have notOffline : ¬ replica.online = false := by
      rw [online]
      decide
    constructor
    · intro atomically
      exact Or.inr (atomically.nothing_or_blank contiguous online)
    · rintro (isOffline | nothing | onBlank)
      · exact absurd isOffline notOffline
      · exact nothing.installsAtomically online
      · exact onBlank.installsAtomically online contiguous
  · exact iff_of_true (installsAtomically_of_offline offline)
      (Or.inl offline)

end Sufficient

/-- A replica in the third term. -/
def inThirdTerm : RaftReplica :=
  { opened (bytes "r") SqliteStore.empty with currentTerm := 3 }.persisted

/-- A snapshot of a leader in the same term that has committed one entry. -/
def oneEntrySnapshot : ReplicaSnapshot where
  term := 3
  commitIndex := 1
  log := [{ index := 1, term := 3, command := putCommand }]

/-- A stop right after the clearing: the replica is back in term zero, which is
neither the old nor the new one. -/
theorem stop_after_clearing_forgets_term :
    ∃ (replica : RaftReplica) (snapshot : ReplicaSnapshot) (cut : Nat),
      OrderedTable.Contiguous LogEntry.index snapshot.log ∧
        replica.store.currentTerm ≤ snapshot.term ∧
        (replica.store.executeAll
          ((installSnapshot snapshot replica).journal.take
            cut)).currentTerm < replica.store.currentTerm ∧
        ¬ replica.InstallsAtomically snapshot := by
  refine ⟨inThirdTerm, oneEntrySnapshot, 1, by decide, by decide +kernel,
    by decide +kernel, ?_⟩
  intro atomically
  have cleared :
      reconstructed inThirdTerm.id
          (inThirdTerm.store.executeAll
            ((installSnapshot oneEntrySnapshot inThirdTerm).journal.take
              1)) = .ok {} :=
    reconstructed_idle (lt_irrefl (0 : Int))
  rcases (atomically 1).oldOrNew with isOld | ⟨_, isNew⟩
  · have term := (reconstructed_ok (isOld.symm.trans cleared)).1
    exact absurd term (by decide +kernel)
  · have term := (reconstructed_ok (isNew.symm.trans cleared)).1
    exact absurd term (by decide +kernel)

/-- A new replica may stop anywhere while it installs the snapshot of a leader
that has committed nothing. -/
theorem new_replica_installs_empty_snapshot :
    (opened (bytes "r") SqliteStore.empty).InstallsAtomically
      { term := 3 } := by
  rw [installsAtomically_iff _ OrderedTable.contiguous_nil]
  refine Or.inr (Or.inr ⟨?_, Or.inl ⟨rfl, Or.inl le_rfl⟩⟩)
  exact reconstructed_idle (lt_irrefl (0 : Int))

end ShardedKvStore.RaftReplica

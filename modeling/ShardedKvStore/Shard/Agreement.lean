import Mathlib.Data.Prod.Lex
import ShardedKvStore.Shard.Files

/-!
# Agreement of the databases of a shard
-/

namespace ShardedKvStore.Shard

open Foundation
open SqliteStore

variable {count : Nat}

/-- One database of a shard.  A log that is not an initial part of the agreed
log has an uncommitted tail; its last term is then older than every agreed entry
it has not committed. -/
structure ReplicaFile
    (agreed : List LogEntry) (bound : Int) (store : SqliteStore) :
    Prop where
  wellFormed : store.WellFormed
  committed : store.committed <+: agreed
  tail :
    store.log <+: agreed ∨
      ∀ entry ∈ agreed.drop store.commitIndex.toNat,
        store.lastLogTerm < entry.term
  termBound : ∀ entry ∈ store.log, entry.term ≤ bound

/-- The databases of a shard agree on a committed log. -/
structure FilesAgree
    (agreed : List LogEntry) (bound : Int) (files : Files count) :
    Prop where
  each : ∀ position, ReplicaFile agreed bound (files position)
  holder : ∃ position, (files position).committed = agreed
  boundNonneg : 0 ≤ bound
  remembered : ∃ position, bound ≤ (files position).currentTerm

/-- The databases before the first start. -/
theorem filesAgree_empty (positive : 0 < count) :
    FilesAgree [] 0 (fun _ : Fin count => SqliteStore.empty) where
  each := fun _ =>
    { wellFormed := wellFormed_empty
      committed := List.prefix_refl _
      tail := Or.inl (List.prefix_refl _)
      termBound := fun _ member => absurd member List.not_mem_nil }
  holder := ⟨⟨0, positive⟩, rfl⟩
  boundNonneg := le_refl 0
  remembered := ⟨⟨0, positive⟩, le_refl 0⟩

namespace FilesAgree

variable {agreed : List LogEntry} {bound : Int} {files : Files count}

theorem agreed_prefix_log
    {store : SqliteStore} (complete : store.committed = agreed) :
    agreed <+: store.log :=
  complete ▸ List.take_prefix _ _

theorem wellFormedAgreed (agree : FilesAgree agreed bound files) :
    WellFormedLog agreed := by
  obtain ⟨position, complete⟩ := agree.holder
  exact (agree.each position).wellFormed.wellFormedLog.of_prefix
    (agreed_prefix_log complete)

theorem agreed_term_le (agree : FilesAgree agreed bound files) :
    ∀ entry ∈ agreed, entry.term ≤ bound := by
  obtain ⟨position, complete⟩ := agree.holder
  intro entry member
  exact (agree.each position).termBound entry
    ((agreed_prefix_log complete).subset member)

/-- A database whose commit index is the length of the agreed log has committed
all of it. -/
theorem commitIndex_eq
    (agree : FilesAgree agreed bound files) {position : Fin count}
    (complete : (files position).committed = agreed) :
    (files position).commitIndex = agreed.length := by
  rw [← (agree.each position).wellFormed.length_committed, complete]

theorem commitIndex_le
    (agree : FilesAgree agreed bound files) (position : Fin count) :
    (files position).commitIndex ≤ agreed.length := by
  rw [← (agree.each position).wellFormed.length_committed]
  exact_mod_cast (agree.each position).committed.length_le

theorem committed_eq_of_commitIndex
    (agree : FilesAgree agreed bound files) {position : Fin count}
    (full : (files position).commitIndex = agreed.length) :
    (files position).committed = agreed := by
  apply (agree.each position).committed.eq_of_length
  have length := (agree.each position).wellFormed.length_committed
  omega

/-- A copy of the agreed log is a database of the shard. -/
theorem replicaFile_of_copy
    (agree : FilesAgree agreed bound files) {store : SqliteStore}
    (copy : Copy agreed store) :
    ReplicaFile agreed bound store where
  wellFormed := copy.wellFormed
  committed := (List.take_prefix _ _).trans copy.log
  tail := Or.inl copy.log
  termBound := fun entry member =>
    agree.agreed_term_le entry (copy.log.subset member)

end FilesAgree

theorem ReplicaFile.of_kept
    {agreed : List LogEntry} {bound : Int} {before after : SqliteStore}
    (file : ReplicaFile agreed bound before) (kept : Kept before after) :
    ReplicaFile agreed bound after where
  wellFormed := kept.wellFormed file.wellFormed
  committed := kept.committed ▸ file.committed
  tail := by
    rw [kept.log, kept.commit, lastLogTerm_congr kept.log]
    exact file.tail
  termBound := kept.log ▸ file.termBound

theorem ReplicaFile.mono
    {agreed : List LogEntry} {bound larger : Int} {store : SqliteStore}
    (file : ReplicaFile agreed bound store) (le : bound ≤ larger) :
    ReplicaFile agreed larger store :=
  { file with
    termBound := fun entry member => (file.termBound entry member).trans le }

/-- Keeping some databases and copying the agreed log into others keeps the
agreement, as long as one complete database is kept and the term is
remembered. -/
theorem FilesAgree.of_kept_or_copy
    {agreed : List LogEntry} {bound larger : Int}
    {before after : Files count}
    (agree : FilesAgree agreed bound before) (grows : bound ≤ larger)
    (each :
      ∀ position,
        Kept (before position) (after position) ∨
          Copy agreed (after position))
    {holder : Fin count}
    (complete : (before holder).committed = agreed)
    (holderKept : Kept (before holder) (after holder))
    (remembered : ∃ position, larger ≤ (after position).currentTerm) :
    FilesAgree agreed larger after where
  each := by
    intro position
    rcases each position with kept | copy
    · exact ((agree.each position).of_kept kept).mono grows
    · exact (agree.replicaFile_of_copy copy).mono grows
  holder := ⟨holder, holderKept.committed.trans complete⟩
  boundNonneg := agree.boundNonneg.trans grows
  remembered := remembered

/-! ## The order of an election -/

/-- What `std::max_element` compares. -/
def rank (shard : Shard count) (position : Fin count) :
    Int ×ₗ Int ×ₗ Int :=
  toLex ((shard.replicas position).commitIndex,
    toLex ((shard.replicas position).store.lastLogTerm,
      (shard.replicas position).store.lastLogIndex))

theorem lessUpToDate_iff (shard : Shard count) (left right : Fin count) :
    shard.lessUpToDate left right = true ↔
      shard.rank left < shard.rank right := by
  simp only [rank, Prod.Lex.toLex_lt_toLex]
  simp only [lessUpToDate]
  split
  · simp only [decide_eq_true_eq]
    omega
  · split
    · simp only [decide_eq_true_eq]
      omega
    · simp only [decide_eq_true_eq]
      omega

private theorem lastLogTerm_nonneg
    {store : SqliteStore} (wellFormed : WellFormedLog store.log) :
    0 ≤ store.lastLogTerm := by
  rw [lastLogTerm_eq]
  cases found : store.log.getLast? with
  | none =>
      exact le_refl 0
  | some entry =>
      exact wellFormed.termsNonneg entry (List.mem_of_getLast? found)

/-- No entry has a larger term than the last one. -/
theorem term_le_lastLogTerm
    {store : SqliteStore} (wellFormed : WellFormedLog store.log)
    {entry : LogEntry} (member : entry ∈ store.log) :
    entry.term ≤ store.lastLogTerm := by
  have nonempty : store.log ≠ [] := List.ne_nil_of_mem member
  rw [lastLogTerm_eq, List.getLast?_eq_some_getLast nonempty]
  change entry.term ≤ (store.log.getLast nonempty).term
  have shape := List.dropLast_append_getLast nonempty
  rw [← shape] at member
  rcases List.mem_append.mp member with earlier | last
  · have ordered := wellFormed.terms
    rw [← shape] at ordered
    exact (List.pairwise_append.mp ordered).2.2 entry earlier _
      List.mem_cons_self
  · rw [List.mem_singleton.mp last]

private theorem lastLogTerm_le_of_prefix
    {left right : SqliteStore} (wellFormed : WellFormedLog right.log)
    (isPrefix : left.log <+: right.log) :
    left.lastLogTerm ≤ right.lastLogTerm := by
  rw [lastLogTerm_eq left]
  cases found : left.log.getLast? with
  | none =>
      exact lastLogTerm_nonneg wellFormed
  | some entry =>
      exact term_le_lastLogTerm wellFormed
        (isPrefix.subset (List.mem_of_getLast? found))

/-- A complete database that is not behind another in the order of an election
is found current by it. -/
theorem findsCurrent_of_rank
    {shard : Shard count} {agreed : List LogEntry} {bound : Int}
    (agree : FilesAgree agreed bound shard.files)
    (inStep : ∀ position, (shard.replicas position).InStep)
    {candidate voter : Fin count}
    (complete : (shard.replicas candidate).store.committed = agreed)
    (notBehind : shard.rank voter ≤ shard.rank candidate) :
    (shard.replicas voter).findsCurrent
      (shard.replicas candidate).store.lastLogIndex
      (shard.replicas candidate).store.lastLogTerm := by
  have candidateFile := agree.each candidate
  have voterFile := agree.each voter
  simp only [rank, Prod.Lex.toLex_le_toLex] at notBehind
  unfold RaftReplica.findsCurrent
  rcases notBehind with behind | ⟨_, older | level⟩
  · -- The voter has committed less than the agreed log.
    rw [(inStep voter).commit, (inStep candidate).commit] at behind
    have candidateCommit := agree.commitIndex_eq complete
    have agreedInCandidate :
        agreed <+: (shard.replicas candidate).store.log :=
      FilesAgree.agreed_prefix_log complete
    have candidateLog := candidateFile.wellFormed.wellFormedLog
    rcases voterFile.tail with isPrefix | olderTail
    · have inCandidate := isPrefix.trans agreedInCandidate
      have terms := lastLogTerm_le_of_prefix candidateLog inCandidate
      have lengths := inCandidate.length_le
      have voterIndex :=
        lastLogIndex_eq voterFile.wellFormed.wellFormedLog.contiguous
      have candidateIndex := lastLogIndex_eq candidateLog.contiguous
      simp only [files] at *
      omega
    · left
      have voterNonneg := voterFile.wellFormed.commitNonneg
      have nonempty :
          agreed.drop (shard.files voter).commitIndex.toNat ≠ [] := by
        intro nothing
        have short := List.drop_eq_nil_iff.mp nothing
        simp only [files] at *
        omega
      obtain ⟨entry, member⟩ := List.exists_mem_of_ne_nil _ nonempty
      exact (olderTail entry member).trans_le <|
        term_le_lastLogTerm candidateLog
          (agreedInCandidate.subset (List.mem_of_mem_drop member))
  · exact Or.inl older
  · exact Or.inr ⟨level.1.symm, level.2⟩

end ShardedKvStore.Shard

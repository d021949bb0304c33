import ShardedKvStore.Shard.Histories

/-!
# Isolation of keys

A key is bound to a statement as a C string, so two keys are the same row exactly
when they agree up to their first NUL byte.  A write leaves the answers to reads of
other rows as they are, and what it has stored stays until the next write of its
row.
-/

namespace ShardedKvStore.Shard

open Foundation
open SqliteStore

variable {count : Nat}

/-- The leading replica has no uncommitted entry for the row of the key.  Only a
crash leaves one. -/
def NoPending (shard : Shard count) (key : Bytes) : Prop :=
  ∀ leader, shard.leading = some leader →
    ∀ entry ∈ (shard.replicas leader).store.uncommitted,
      cString entry.key ≠ cString key

section Write

variable {agreed : List LogEntry} {bound before : Int}
  {shard settled : Shard count} {leader : Fin count}
  {elections elections' : List Int}
  {journal : List (ShardEvent count)} {command key value read : Bytes}

/-- The leader of a write still leads after it. -/
theorem Prepared.currentLeader_written
    (prepared :
      Prepared agreed shard elections bound settled leader journal
        elections')
    (isCommand : IsCommand command) (key value : Bytes) :
    (replicateCommand command key value shard).state.currentLeader =
      some leader := by
  have operational := prepared.operational
  have coherent := operational.coherent
  have leads := prepared.leads
  have extends_ := leads.extends_proposal coherent isCommand key value
  have nextIndex := coherent.index_proposal leader command key value
  by_cases tooFew :
      1 + (settled.acknowledging leader).length < majority count
  · rw [prepared.rejects isCommand key value tooFew]
    have after :=
      operational.written_rejected leads nextIndex extends_ leads.term
    exact after.currentLeader_eq
      (leads.leads_rejected coherent nextIndex extends_)
  · rw [prepared.commits isCommand key value tooFew]
    have after :=
      operational.written_committed leads nextIndex extends_ leads.term
        tooFew
    exact after.currentLeader_eq
      (leads.leads_committed coherent nextIndex tooFew)

/-- A commit changes the rows of its entries only. -/
theorem Contents.table_commit_other
    {contents : Contents} {row : LogEntry} {tested : Bytes}
    (otherRow : row.assignment.1 ≠ tested)
    (otherTail : ∀ entry ∈ contents.tail, entry.assignment.1 ≠ tested) :
    (contents.commit row).table tested = contents.table tested := by
  refine replayOnto_of_unnamed fun assignment member => ?_
  obtain ⟨entry, inEntries, rfl⟩ := List.mem_map.mp member
  rcases List.mem_append.mp inEntries with inTail | isRow
  · exact otherTail entry inTail
  · rw [List.mem_singleton.mp isRow]
    exact otherRow

/-- A write leaves the other rows of the leading replica as they were. -/
theorem Prepared.table_written
    (prepared :
      Prepared agreed shard elections bound settled leader journal
        elections')
    (isCommand : IsCommand command) (key value : Bytes)
    (otherKey : cString key ≠ cString read)
    (noPending : count = 1 → shard.NoPending read) :
    ((replicateCommand command key value shard).state.contents
        leader).table (cString read) =
      (shard.contents leader).table (cString read) := by
  have coherent := prepared.operational.coherent
  have leads := prepared.leads
  have extends_ := leads.extends_proposal coherent isCommand key value
  have nextIndex := coherent.index_proposal leader command key value
  rw [← prepared.sameLeader]
  by_cases tooFew :
      1 + (settled.acknowledging leader).length < majority count
  · rw [prepared.rejects isCommand key value tooFew]
    rcases leads.contents_rejected coherent nextIndex extends_ leader with
      same | ⟨_, discards⟩
    · rw [same]
    · rw [discards]
      rfl
  · rw [prepared.commits isCommand key value tooFew]
    rcases leads.contents_committed coherent nextIndex tooFew leader with
      same | ⟨_, _, commits⟩
    · rw [same]
    · rw [commits]
      refine Contents.table_commit_other ?_ fun entry inTail => ?_
      · obtain ⟨_, isKey, _⟩ :=
          records_proposal isCommand settled leader key value
        change cString (settled.proposal leader command key
          value).stored.key ≠ _
        rw [isKey, cString_cString]
        exact otherKey
      · -- a write with a tail before it succeeds on a single replica only
        rw [prepared.sameLeader] at inTail
        have accepts := prepared.accepts_iff.mp tooFew
        rcases accepts.2 with alone | noTail
        · exact noPending alone leader prepared.isLeading entry inTail
        · have isNil : (shard.contents leader).tail = [] :=
            noTail leader prepared.isLeading
          rw [isNil] at inTail
          cases inTail

/-- A write changes no answer to a read of another row. -/
theorem Operational.get_written
    (operational : Operational agreed before shard)
    (agree : DurableAgree agreed before ⟨shard.files, elections⟩)
    (isCommand : IsCommand command) (key value : Bytes)
    (otherKey : cString key ≠ cString read)
    (noPending : count = 1 → shard.NoPending read) :
    (get read (replicateCommand command key value shard).state).result =
      (get read shard).result := by
  by_cases available : shard.Available
  · obtain ⟨_, settled, leader, _, _, prepared⟩ :=
      operational.prepared agree available
    obtain ⟨_, _, _, _, after, _, runs, completed, _, _⟩ :=
      operational.write_spec agree isCommand key value
    have foundLeader :=
      prepared.currentLeader_written isCommand key value
    have table :=
      prepared.table_written isCommand key value otherKey noPending
    rw [runs] at foundLeader table ⊢
    have prepared' :=
      completed.operational.prepared_of_leader foundLeader completed.agree
    have sameKv :
        (after.replicas leader).store.kv (cString read) =
          (shard.replicas leader).store.kv (cString read) := by
      rw [← completed.operational.redone_eq, ← operational.redone_eq]
      exact table
    have sameId :
        (after.replicas leader).id = (shard.replicas leader).id := by
      rw [completed.operational.coherent.ids, completed.shardId,
        operational.coherent.ids]
    rw [prepared'.get_eq completed.operational read,
      prepared.get_eq operational read]
    unfold readAnswer
    rw [sameKv, sameId, completed.shardId]
  · rw [operational.replicateCommand_unavailable available]

end Write

/-! ## The last write of a key -/

/-- Later writes of other keys do not change the values a key may have. -/
theorem possibleValues_append_others
    {concerns : Bytes → Bool} {later : List WriteEvent}
    (others : ∀ event ∈ later, concerns event.write.key = false)
    (history : List WriteEvent) :
    possibleValues concerns (history ++ later) =
      possibleValues concerns history := by
  induction later generalizing history with
  | nil =>
      rw [List.append_nil]
  | cons event rest inductionHypothesis =>
      have otherKey := others event List.mem_cons_self
      have restOthers :
          ∀ event ∈ rest, concerns event.write.key = false :=
        fun event member => others event (List.mem_cons_of_mem _ member)
      rw [List.append_cons, inductionHypothesis restOthers,
        possibleValues_other otherKey]

/-- After a stored put and until the next write of its row, the value of the put
is the only possible one. -/
theorem possibleValues_stored
    {before later : List ShardLabel} {key value : Bytes}
    {stored : OperationResult} (isOk : stored.ok = true)
    (others :
      ∀ event ∈ writeHistory later,
        cString event.write.key ≠ cString key) :
    possibleValues (storedAs (cString key))
        (writeHistory
          (before ++
            .call (.put key value) (.ok (.result stored)) :: later)) =
      [some value] := by
  have history :
      writeHistory
          (before ++
            .call (.put key value) (.ok (.result stored)) :: later) =
        (writeHistory before ++
            [.acknowledged ⟨putCommand, key, value⟩]) ++
          writeHistory later := by
    simp [writeHistory, List.filterMap_append, ShardLabel.event,
      acknowledgedWrite, isOk, Operation.write]
  rw [history, possibleValues_append_others fun event member =>
      decide_eq_false (others event member),
    possibleValues_acknowledged (decide_eq_true rfl)]
  rfl

/-- In every run, crashes included: a put or an erase of a key changes no answer to
a read of a key with another C string, unless the shard is a single replica with
an uncommitted entry for that one; and after a stored put a read that finds a
leader returns its value, until a write of a key with the same C string. -/
theorem keys_isolated
    {shardId : Nat} {labels : List ShardLabel} {shard : Shard count}
    {elections : List Int} (positive : 0 < count)
    (run : ShardRun shardId labels (.running shard elections)) :
    (∀ written read value,
      cString written ≠ cString read →
        (count = 1 → shard.NoPending read) →
        (get read (put written value shard).state).result =
            (get read shard).result ∧
          (get read (erase written shard).state).result =
            (get read shard).result) ∧
      ∀ before later key value stored,
        labels =
            before ++
              .call (.put key value) (.ok (.result stored)) :: later →
          stored.ok = true →
          (∀ event ∈ writeHistory later,
            cString event.write.key ≠ cString key) →
          shard.Available →
          ∃ answer,
            (get key shard).result = .ok answer ∧ answer.ok = true ∧
              answer.status = 200 ∧ answer.value = value := by
  obtain ⟨agreed, bound, operational, agree, _⟩ :=
    ShardRun.agrees positive run
  constructor
  · intro written read value otherKey noPending
    exact ⟨operational.get_written agree (Or.inl rfl) written value
        otherKey noPending,
      operational.get_written agree (Or.inr rfl) written [] otherKey
        noPending⟩
  · intro before later key value stored isRun isOk others available
    obtain ⟨answer, _, _, _, _, runs, _, _, answers⟩ :=
      operational.get_spec agree key
    have returned : (get key shard).result = .ok answer := by
      rw [runs]
    have possible := get_possible positive run returned
    rw [isRun, possibleValues_stored isOk others] at possible
    refine ⟨answer, returned, ?_⟩
    cases answers with
    | unavailable notAvailable _ _ =>
        exact absurd available notAvailable
    | missing _ _ _ _ status =>
        have isNone := List.mem_singleton.mp (possible.2 status)
        cases isNone
    | found _ _ _ isOk status _ =>
        have isValue := List.mem_singleton.mp (possible.1 status)
        exact ⟨isOk, status, Option.some.inj isValue⟩

/-- Three replicas that have stored a value. -/
def storedOnce : Shard 3 :=
  ((Operation.put (bytes "a") (bytes "x")).call (begun 0 3)).state

/-- The answer to the put. -/
def storedAnswer : OperationResult where
  ok := true
  status := 201
  message := bytes "stored"
  leader := bytes "s0-r0"

theorem shardRun_storedOnce :
    ∃ elections,
      ShardRun 0
        [.start,
          .call (.put (bytes "a") (bytes "x"))
            (.ok (.result storedAnswer))]
        (.running storedOnce elections) := by
  have begun := shardRun_begun (show 0 < 3 by decide) 0
  have step :=
    @ShardStep.call 3 0 (Shard.begun 0 3) (begunElections 0 3)
      (.put (bytes "a") (bytes "x"))
  have answer :
      ((Operation.put (bytes "a") (bytes "x")).call
        (Shard.begun 0 3)).result = .ok (.result storedAnswer) := by
    decide +kernel
  rw [answer] at step
  exact ⟨_, begun.extend step⟩

/-- A put of a second key leaves the first one, which has its value. -/
theorem second_key_isolated :
    ∃ labels elections,
      ShardRun 0 labels (.running storedOnce elections) ∧
        (get (bytes "a")
            (put (bytes "b") (bytes "y") storedOnce).state).result =
          (get (bytes "a") storedOnce).result ∧
        ∃ answer,
          (get (bytes "a") storedOnce).result = .ok answer ∧
            answer.value = bytes "x" := by
  obtain ⟨elections, run⟩ := shardRun_storedOnce
  obtain ⟨frame, stays⟩ := keys_isolated (show 0 < 3 by decide) run
  have kept :=
    frame (bytes "b") (bytes "a") (bytes "y") (by decide)
      (fun alone => by cases alone)
  have available : storedOnce.Available := Or.inl (by decide +kernel)
  obtain ⟨answer, returned, _, _, isValue⟩ :=
    stays [.start] [] (bytes "a") (bytes "x") storedAnswer rfl rfl
      (List.forall_mem_nil _) available
  exact ⟨_, elections, run, kept.1, answer, returned, isValue⟩

/-- The value at a key is replaced by a put of another key that goes on after a NUL
byte. -/
theorem nul_key_overwrites :
    ∃ labels elections,
      ShardRun 0 labels (.running storedOnce elections) ∧
        bytes "a\x00b" ≠ bytes "a" ∧
        (put (bytes "a\x00b") (bytes "y") storedOnce).result =
          .ok storedAnswer ∧
        (get (bytes "a") storedOnce).result =
          .ok
            { ok := true
              status := 200
              message := bytes "ok"
              value := bytes "x"
              leader := bytes "s0-r0" } ∧
        (get (bytes "a")
            (put (bytes "a\x00b") (bytes "y") storedOnce).state).result =
          .ok
            { ok := true
              status := 200
              message := bytes "ok"
              value := bytes "y"
              leader := bytes "s0-r0" } := by
  obtain ⟨elections, run⟩ := shardRun_storedOnce
  exact ⟨_, elections, run, by decide, by decide +kernel,
    by decide +kernel, by decide +kernel⟩

end ShardedKvStore.Shard
